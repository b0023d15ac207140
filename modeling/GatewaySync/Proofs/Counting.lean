import GatewaySync.Proofs.Lanes
import GatewaySync.Proofs.Outstanding
import GatewaySync.Proofs.StaleWrites

/-!
# What a pass counts

A pass counts a write when the server has taken it, before it makes any other
call, and it counts nothing else.  So at every call what has been counted falls
short of what was written by the count that comes next, if one does.  The status
of a Remote is counted under the name that the key gives, which is the name
under which the Remote was read.
-/

namespace GatewaySync

namespace Tally

variable {κ : Type} [DecidableEq κ]

theorem count_increment_eq_add (t : Tally κ) (key k : κ) :
    (t.increment key).count k = t.count k + [key].count k := by
  rw [count_increment, List.count_singleton]
  by_cases hkey : k = key
  · simp [hkey]
  · simp [hkey, Ne.symm hkey]

theorem count_foldl_increment (t : Tally κ) (keys : List κ) (k : κ) :
    (keys.foldl increment t).count k = t.count k + keys.count k := by
  induction keys generalizing t with
  | nil => rfl
  | cons key rest ih =>
      rw [List.foldl_cons, ih, count_increment_eq_add, Nat.add_assoc, ← List.count_append,
        List.singleton_append]

end Tally

/-- The Remote is found under the name: it belongs to that namespace, or to
none. -/
def Remote.IsNamed (name : NamespacedName) (r : Remote) : Prop :=
  Cached.ref r = ⟨some name.ns, name.name⟩ ∨ Cached.ref r = ⟨none, name.name⟩

theorem Remote.isNamed_of_find? {known : Remote → Prop} {store : Store Remote}
    (hstore : store.Holds known) {name : NamespacedName} {r : Remote}
    (hfind : store.find? ⟨some name.ns, name.name⟩ = some r) : r.IsNamed name := by
  rw [Store.find?, Option.or_eq_some_iff] at hfind
  obtain hget | ⟨-, hget⟩ := hfind
  · exact .inl (hstore _ _ hget).1
  · exact .inr (hstore _ _ hget).1

theorem Remote.IsNamed.key_eq {name : NamespacedName} {r : Remote} (hr : r.IsNamed name)
    (hname : name.name ≠ "") (hns : r.metadata.ns ≠ none) : r.metadata.key = name := by
  obtain href | href := hr
  · obtain ⟨hrefNs, hrefName⟩ := ObjectRef.mk.inj href
    change r.metadata.ns = _ at hrefNs
    change r.metadata.name.getD "" = _ at hrefName
    cases hown : r.metadata.name with
    | none =>
        rw [hown] at hrefName
        exact absurd hrefName.symm hname
    | some own =>
        rw [hown] at hrefName
        obtain rfl : own = name.name := hrefName
        simp [Metadata.key, Metadata.nsOrEmpty, Metadata.displayName, hrefNs, hown]
  · exact absurd (ObjectRef.mk.inj href).1 hns

namespace Write

/-- What is counted after a write by a pass for a key. -/
def series (key : String) : Write → List Series
  | .configMap _ => [.documentWrites]
  | .deployment _ => [.gatewayRestarts]
  | .status _ =>
    ((NamespacedName.ofString? key).map fun name => .statusUpdates name.ns name.name).toList

/-- A pass for the key may write the object: of Remotes only the one that the key
names. -/
def IsOf (key : String) : Write → Prop
  | .status r => ∃ name, NamespacedName.ofString? key = some name ∧ r.IsNamed name
  | .configMap _ | .deployment _ => True

@[simp]
theorem series_atVersion (w : Write) (key version : String) :
    (w.atVersion version).series key = w.series key := by
  cases w <;> rfl

theorem IsOf.atVersion {w : Write} {key : String} (hw : w.IsOf key) (version : String) :
    (w.atVersion version).IsOf key := by
  cases w with
  | configMap | deployment => exact trivial
  | status r => exact hw

end Write

namespace Cluster

variable {c : Cluster}

/-- Every cached Remote is filed under its own reference. -/
def FilesRemotes (c : Cluster) : Prop := c.remotes.informer.Keeps fun _ => True

theorem FilesRemotes.isNamed (hc : c.FilesRemotes) {name : NamespacedName} {r : Remote}
    (hcached : c.cached? Remote name = some r) : r.IsNamed name :=
  Remote.isNamed_of_find? hc.store hcached

theorem FilesRemotes.deliver (hc : c.FilesRemotes) (report : Report) :
    (c.deliver report).FilesRemotes := by
  cases report with
  | remote e =>
      rw [Cluster.deliver, observe]
      split
      · exact Informer.Keeps.step hc fun _ _ => trivial
      · exact hc
  | configMap e | deployment e | service e =>
      rw [Cluster.deliver, observe]
      split <;> exact hc

theorem metrics_deliver (report : Report) : (c.deliver report).metrics = c.metrics := by
  cases report with
  | remote | configMap | deployment | service =>
      rw [Cluster.deliver, observe]
      split <;> rfl

theorem metrics_accept {α : Type} [Stored α] (a : α) (write : α → Write) :
    (c.accept a write).metrics = c.metrics := by
  obtain ⟨_, _, _, htaken, -⟩ := c.exists_accept_eq a write
  rw [htaken]
  rfl

theorem metrics_take (w : Write) : (c.take w).metrics = c.metrics := by
  cases w <;> exact metrics_accept _ _

theorem FilesRemotes.take (hc : c.FilesRemotes) (w : Write) : (c.take w).FilesRemotes := by
  cases w with
  | configMap a =>
      obtain ⟨_, _, _, htaken, -⟩ := c.exists_accept_eq a .configMap
      rw [Cluster.take, htaken]
      exact hc
  | deployment a =>
      obtain ⟨_, _, _, htaken, -⟩ := c.exists_accept_eq a .deployment
      rw [Cluster.take, htaken]
      exact hc
  | status a =>
      obtain ⟨_, _, _, htaken, hinformer, -⟩ := c.exists_accept_eq a .status
      rw [Cluster.take, htaken]
      obtain rfl | rfl := hinformer
      · exact hc
      · exact Informer.Keeps.step hc fun _ _ => trivial

end Cluster

namespace Pass

variable {α β : Type} {key : String} {owed : List Series}

/-- The pass counts what is owed before it does anything else, and from then on
every write at once. -/
def Counts (key : String) : Pass α → List Series → Prop
  | .done _, owed => owed = []
  | .abort _, owed => owed = []
  | .looking next, owed => owed = [] ∧ ∀ c : Cluster, c.FilesRemotes → Counts key (next c) []
  | .reading _ next, owed => owed = [] ∧ ∀ found, Counts key (next found) []
  | .writing w next, owed => owed = [] ∧ w.IsOf key ∧ Counts key next (w.series key)
  | .counting s next, owed => owed = [s] ∧ Counts key next []

/-- What the pass counts next, before any other call. -/
def due : Pass α → List Series
  | .counting s _ => [s]
  | _ => []

theorem Counts.due_eq {p : Pass α} (hp : p.Counts key owed) : p.due = owed := by
  cases p with
  | done | abort => exact hp.symm
  | looking | reading | writing | counting => exact hp.1.symm

theorem Counts.bind {p : Pass α} {f : α → Pass β} (hp : p.Counts key owed)
    (hf : ∀ a, (f a).Counts key []) : (p >>= f).Counts key owed := by
  change (p.andThen f).Counts key owed
  induction p generalizing owed with
  | done a =>
      obtain rfl : owed = [] := hp
      exact hf a
  | abort reason => exact hp
  | looking next ih => exact ⟨hp.1, fun c hc => ih c (hp.2 c hc)⟩
  | reading name next ih => exact ⟨hp.1, fun found => ih found (hp.2 found)⟩
  | writing w next ih => exact ⟨hp.1, hp.2.1, ih hp.2.2⟩
  | counting s next ih => exact ⟨hp.1, ih hp.2⟩

theorem counts_gatewayObject (α : Type) [Stored α] (name : NamespacedName) :
    (gatewayObject α name).Counts key [] := by
  refine ⟨rfl, fun c _ => ?_⟩
  dsimp only [andThen]
  cases c.cached? α name <;> rfl

theorem counts_gather (remotes : List Remote) :
    (Document.gather readSecret remotes).Counts key [] := by
  rw [Document.gather]
  induction remotes with
  | nil => rfl
  | cons r rest ih =>
      have hfirst : (Document.gatherOne readSecret r).Counts key [] := by
        rw [Document.gatherOne]
        cases Document.secretRef? r with
        | none => rfl
        | some ref => exact ⟨rfl, fun _ => rfl⟩
      rw [List.mapM_cons]
      exact hfirst.bind fun _ => ih.bind fun _ => rfl

theorem counts_publish (configMap : ConfigMap) (d : Deployment) (text : String) :
    (publish configMap d text).Counts key [] := by
  have hrestarts : ∀ restart written : Bool, ((do
      if restart then
        replaceDeployment (d.restarted (Document.contentHash text) (← look).clock)
        count .gatewayRestarts
      return written) : Pass Bool).Counts key [] := by
    intro restart written
    cases restart with
    | false => rfl
    | true => exact ⟨rfl, fun _ _ => ⟨rfl, trivial, rfl, rfl⟩⟩
  cases hdiffers : Document.differs configMap text with
  | false =>
      simp only [publish, hdiffers, Bool.false_or, Bool.false_eq_true, if_false]
      exact hrestarts _ false
  | true =>
      simp only [publish, hdiffers, Bool.true_or, if_true]
      exact ⟨rfl, trivial, rfl, hrestarts true true⟩

theorem counts_syncDocument (s : Settings) : (syncDocument s).Counts key [] := by
  apply (counts_gatewayObject ConfigMap _).bind
  intro configMap
  apply (counts_gatewayObject Deployment _).bind
  intro d
  refine ⟨rfl, fun c _ => ?_⟩
  exact (counts_gather _).bind fun _ => counts_publish configMap d _

/-- The status of a Remote is counted under the name that the key gives. -/
theorem counts_patchStatus {name : NamespacedName} {r : Remote}
    (hkey : NamespacedName.ofString? key = some name) (hr : r.IsNamed name)
    (status : RemoteStatus) :
    (do patchStatus r status; count (.statusUpdates name.ns name.name) : Pass Unit).Counts
      key [] := by
  refine ⟨rfl, ⟨name, hkey, hr⟩, ?_, rfl⟩
  rw [Write.series, hkey]
  rfl

theorem counts_syncRemote (s : Settings) (key : String) : (syncRemote s key).Counts key [] := by
  rw [syncRemote, parseKey]
  cases hkey : NamespacedName.ofString? key with
  | none => rfl
  | some name =>
      refine ⟨rfl, fun c hc => ?_⟩
      dsimp only [andThen]
      cases hcached : c.cached? Remote name with
      | none => rfl
      | some r =>
          apply (counts_syncDocument s).bind
          intro _
          apply (counts_gatewayObject Service _).bind
          intro gateway
          by_cases hwrong : r.status ≠ some (r.statusBehind gateway)
          · rw [if_pos hwrong]
            exact counts_patchStatus hkey (hc.isNamed hcached) _
          · rw [if_neg hwrong]
            rfl

theorem counts_parseKey : (parseKey key).Counts key [] := by
  rw [parseKey]
  cases NamespacedName.ofString? key <;> rfl

theorem counts_syncConfigMap (s : Settings) (key : String) :
    (syncConfigMap s key).Counts key [] := by
  apply counts_parseKey.bind
  intro name
  by_cases hname : name = ⟨s.ns, s.configMap⟩
  · rw [if_pos hname]
    exact (counts_syncDocument s).bind fun _ => rfl
  · rw [if_neg hname]
    rfl

/-- Every handler's pass counts what it writes. -/
theorem counts_sync (s : Settings) (h : Handler) (key : String) :
    (sync s h key).Counts key [] := by
  cases h with
  | remote => exact (counts_syncRemote s key).bind fun _ => rfl
  | configMap => exact (counts_syncConfigMap s key).bind fun _ => rfl
  | gateway => exact counts_parseKey.bind fun _ => ⟨rfl, fun _ _ => rfl⟩

/-- What a call writes is owed by the rest of the pass, unless it has been
counted. -/
structure Accounts (key : String) (p : Pass α) (c : Cluster) (p' : Pass α) (c' : Cluster)
    (taken : List Write) : Prop where
  rest : p'.Counts key p'.due
  files : c'.FilesRemotes
  writes : c'.writes = c.writes ++ taken
  isOf : ∀ w ∈ taken, w.IsOf key
  count_eq : ∀ s, c'.metrics.count s + p'.due.count s =
    c.metrics.count s + p.due.count s + (taken.flatMap (Write.series key)).count s

theorem accounts_of_nothing {p p' : Pass α} {c c' : Cluster} (hp : p.due = [])
    (hp' : p'.Counts key []) (hfiles : c'.FilesRemotes) (hwrites : c'.writes = c.writes)
    (hmetrics : c'.metrics = c.metrics) : Accounts key p c p' c' [] where
  rest := by
    rw [hp'.due_eq]
    exact hp'
  files := hfiles
  writes := by rw [hwrites, List.append_nil]
  isOf w hw := by cases hw
  count_eq s := by rw [hmetrics, hp, hp'.due_eq]; rfl

theorem accounts_of_taken {w : Write} {next : Pass α} {c : Cluster} (hw : w.IsOf key)
    (hnext : next.Counts key (w.series key)) (hc : c.FilesRemotes) :
    Accounts key (.writing w next) c next ((c.past w.call).take w)
      [w.atVersion (Cached.versionText (c.version + 1))] where
  rest := by
    rw [hnext.due_eq]
    exact hnext
  files := Cluster.FilesRemotes.take (c := c.past w.call) hc w
  writes := Cluster.writes_take w
  isOf taken htaken := by
    obtain rfl := List.mem_singleton.1 htaken
    exact hw.atVersion _
  count_eq s := by
    rw [Cluster.metrics_take, hnext.due_eq, List.flatMap_singleton, Write.series_atVersion]
    rfl

theorem accounts_of_counted {series : Series} {next : Pass α} {c : Cluster}
    (hnext : next.Counts key []) (hc : c.FilesRemotes) :
    Accounts key (.counting series next) c next (c.count series) [] where
  rest := by
    rw [hnext.due_eq]
    exact hnext
  files := hc
  writes := (List.append_nil _).symm
  isOf w hw := by cases hw
  count_eq s := by
    rw [hnext.due_eq, due, Cluster.count, Tally.count_increment_eq_add]
    rfl

theorem Counts.step {p : Pass α} (hp : p.Counts key p.due) {c : Cluster}
    (hc : c.FilesRemotes) : ∃ taken, Accounts key p c (p.step c).1 (p.step c).2 taken := by
  cases p with
  | done | abort => exact ⟨[], accounts_of_nothing rfl rfl hc rfl rfl⟩
  | looking next => exact ⟨[], accounts_of_nothing rfl (hp.2 c hc) hc rfl rfl⟩
  | reading name next =>
      rw [Pass.step, c.fetch_eq name]
      cases c.nextFault? .readSecret with
      | none => exact ⟨[], accounts_of_nothing rfl (hp.2 _) hc rfl rfl⟩
      | some fault => exact ⟨[], accounts_of_nothing rfl rfl hc rfl rfl⟩
  | writing w next =>
      rw [Pass.step]
      obtain ⟨-, htaken⟩ | ⟨reason, hfailed, -⟩ := c.submit_cases_of_accepts w
      · rw [htaken]
        exact ⟨_, accounts_of_taken hp.2.1 hp.2.2 hc⟩
      · rw [hfailed]
        exact ⟨[], accounts_of_nothing rfl rfl hc rfl rfl⟩
  | counting s next => exact ⟨[], accounts_of_counted hp.2 hc⟩

theorem Accounts.trans {p p' p'' : Pass α} {c c' c'' : Cluster} {taken later : List Write}
    (hfirst : Accounts key p c p' c' taken) (hthen : Accounts key p' c' p'' c'' later) :
    Accounts key p c p'' c'' (taken ++ later) where
  rest := hthen.rest
  files := hthen.files
  writes := by rw [hthen.writes, hfirst.writes, List.append_assoc]
  isOf w hw := (List.mem_append.1 hw).elim (hfirst.isOf w) (hthen.isOf w)
  count_eq s := by
    rw [hthen.count_eq, hfirst.count_eq, List.flatMap_append, List.count_append, Nat.add_assoc]

/-- What is left of a pass that has ended. -/
def ended : Except Abort α → Pass α
  | .ok a => .done a
  | .error reason => .abort reason

/-- A pass that is run to its end has counted everything that it wrote. -/
def CountsAll (key : String) (p : Pass α) (c : Cluster) : Prop :=
  ∃ taken, Accounts key p c (ended (c.perform p).1) (c.perform p).2 taken

theorem countsAll_abort (reason : Abort) {c : Cluster} (hc : c.FilesRemotes) :
    CountsAll key (.abort reason : Pass α) c :=
  ⟨[], accounts_of_nothing rfl rfl hc rfl rfl⟩

theorem Accounts.countsAll {p : Pass α} {c : Cluster} {taken : List Write}
    (hstep : Accounts key p c (p.step c).1 (p.step c).2 taken)
    (hrest : CountsAll key (p.step c).1 (p.step c).2) : CountsAll key p c := by
  obtain ⟨later, hlater⟩ := hrest
  rw [Cluster.perform_step] at hlater
  exact ⟨_, hstep.trans hlater⟩

theorem Counts.countsAll {p : Pass α} (hp : p.Counts key p.due) {c : Cluster}
    (hc : c.FilesRemotes) : CountsAll key p c := by
  induction p generalizing c with
  | done a => exact ⟨[], accounts_of_nothing rfl rfl hc rfl rfl⟩
  | abort reason => exact countsAll_abort reason hc
  | looking next ih =>
      obtain ⟨_, hstep⟩ := hp.step hc
      exact hstep.countsAll (ih c hstep.rest hstep.files)
  | counting s next ih =>
      obtain ⟨_, hstep⟩ := hp.step hc
      exact hstep.countsAll (ih hstep.rest hstep.files)
  | reading name next ih =>
      obtain ⟨_, hstep⟩ := hp.step hc
      have hrest := hstep.rest
      have hfiles := hstep.files
      refine hstep.countsAll ?_
      rw [Pass.step] at hrest hfiles ⊢
      cases hfetch : c.fetch name with
      | mk result c' =>
          rw [hfetch] at hrest hfiles
          cases result with
          | ok found => exact ih found hrest hfiles
          | error reason => exact countsAll_abort reason hfiles
  | writing w next ih =>
      obtain ⟨_, hstep⟩ := hp.step hc
      have hrest := hstep.rest
      have hfiles := hstep.files
      refine hstep.countsAll ?_
      rw [Pass.step] at hrest hfiles ⊢
      cases hsubmit : c.submit w with
      | mk result c' =>
          rw [hsubmit] at hrest hfiles
          cases result with
          | ok _ => exact ih hrest hfiles
          | error reason => exact countsAll_abort reason hfiles

end Pass

/-! ## The end of a pass -/

/-- What is counted of a pass when it has ended.  Its duration is counted in
buckets as well, which are left out here. -/
def Series.ofPass (controller queue : String) : Except Abort Unit → List Series
  | .ok () => [.durationCount controller]
  | .error (.failed f) =>
    .durationCount controller :: .passErrors controller f.label ::
      if f.isRetriable then [.queueRetries queue] else []
  | .error .panicked => [.durationCount controller, .queueRetries queue]

namespace Metrics

variable {m : Metrics} {s : Series}

theorem count_observePass (hs : s.isBucket = false) (controller : String) (seconds : Float) :
    (m.observePass controller seconds).count s =
      m.count s + [Series.durationCount controller].count s := by
  have hall : [Series.durationBucketAll controller].count s = 0 := by
    rw [List.count_eq_zero, List.mem_singleton]
    rintro rfl
    cases hs
  have hbounded : ∀ exponents : List Nat,
      (exponents.map fun e => Series.durationBucket e controller).count s = 0 := by
    intro exponents
    rw [List.count_eq_zero]
    intro hmem
    obtain ⟨e, -, rfl⟩ := List.mem_map.1 hmem
    cases hs
  rw [observePass, ← List.foldl_map, Tally.count_increment_eq_add, Tally.count_increment_eq_add,
    Tally.count_foldl_increment, hbounded, hall]
  rfl

theorem count_afterPass (hs : s.isBucket = false) (controller queue : String)
    (result : Except Abort Unit) :
    (m.afterPass controller queue result).count s =
      m.count s + (Series.ofPass controller queue result).count s := by
  cases result with
  | ok _ => exact count_observePass hs controller 0
  | error reason =>
      cases reason with
      | panicked =>
          rw [afterPass, countRetry, Tally.count_increment_eq_add, count_observePass hs,
            Series.ofPass, Nat.add_assoc, ← List.count_append]
          rfl
      | failed f =>
          have hfailure : ((m.observePass controller 0).countFailure controller f).count s =
              m.count s +
                [.durationCount controller, Series.passErrors controller f.label].count s := by
            rw [countFailure, Tally.count_increment_eq_add, count_observePass hs, Nat.add_assoc,
              ← List.count_append]
            rfl
          rw [afterPass, Series.ofPass]
          by_cases hretriable : f.isRetriable = true
          · rw [if_pos hretriable, if_pos hretriable, countRetry, Tally.count_increment_eq_add,
              hfailure, Nat.add_assoc, ← List.count_append]
            rfl
          · rw [if_neg hretriable, if_neg hretriable]
            exact hfailure

end Metrics

end GatewaySync
