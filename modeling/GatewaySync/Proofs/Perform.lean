import GatewaySync.Pass
import GatewaySync.Proofs.RemoteDocument

/-!
# Passes that run to their end

Running a pass at once is compositional: what follows a call is run on the
cluster that the call leaves.  The lemmas here say so for every call, and say
what a call leaves behind when no fault is put in front of it.
-/

namespace GatewaySync

/-- Another attempt may succeed. -/
def Abort.isRetriable : Abort → Bool
  | .failed f => f.isRetriable
  | .panicked => true

namespace Cluster

variable {α β : Type} (c : Cluster)

@[simp]
theorem perform_pure (a : α) : c.perform (pure a : Pass α) = (.ok a, c) := rfl

@[simp]
theorem perform_look : c.perform Pass.look = (.ok c, c) := rfl

@[simp]
theorem perform_count (s : Series) :
    c.perform (Pass.count s) = (.ok (), c.count s) := rfl

@[simp]
theorem perform_readSecret (name : NamespacedName) :
    c.perform (Pass.readSecret name) = c.fetch name := by
  rw [Pass.readSecret, perform]
  split
  · rename_i hfetch
    rw [hfetch]
    rfl
  · rename_i hfetch
    rw [hfetch]

theorem perform_writing (w : Write) :
    c.perform (.writing w (.done ())) = c.submit w := by
  rw [perform]
  split
  · rename_i hsubmit
    rw [hsubmit]
    rfl
  · rename_i hsubmit
    rw [hsubmit]

@[simp]
theorem perform_replaceConfigMap (a : ConfigMap) :
    c.perform (Pass.replaceConfigMap a) = c.attempt .replaceConfigMap a .configMap :=
  perform_writing c _

@[simp]
theorem perform_replaceDeployment (a : Deployment) :
    c.perform (Pass.replaceDeployment a) =
      c.attempt .replaceDeployment a .deployment :=
  perform_writing c _

@[simp]
theorem perform_patchStatus (r : Remote) (status : RemoteStatus) :
    c.perform (Pass.patchStatus r status) =
      c.attempt .patchStatus { r with status := some status } .status :=
  perform_writing c _

/-- A pass goes on where the calls before have left the cluster. -/
theorem perform_bind (p : Pass α) (f : α → Pass β) :
    c.perform (p >>= f) =
      match c.perform p with
      | (.ok a, c) => c.perform (f a)
      | (.error reason, c) => (.error reason, c) := by
  change c.perform (p.andThen f) = _
  induction p generalizing c with
  | done | abort => rfl
  | looking next ih => exact ih c c
  | reading secret next ih =>
      rw [Pass.andThen, perform, perform]
      cases hfetch : c.fetch secret with
      | mk result c' =>
          cases result with
          | ok found => exact ih found c'
          | error reason => rfl
  | writing write next ih =>
      rw [Pass.andThen, perform, perform]
      cases hsubmit : c.submit write with
      | mk result c' =>
          cases result with
          | ok _ => exact ih c'
          | error reason => rfl
  | counting series next ih => exact ih (c.count series)

theorem perform_bind_ok {p : Pass α} {f : α → Pass β} {a : α} {c c' : Cluster}
    (hp : c.perform p = (.ok a, c')) : c.perform (p >>= f) = c'.perform (f a) := by
  rw [perform_bind, hp]

theorem perform_bind_error {p : Pass α} {f : α → Pass β} {reason : Abort}
    {c c' : Cluster} (hp : c.perform p = (.error reason, c')) :
    c.perform (p >>= f) = (.error reason, c') := by
  rw [perform_bind, hp]

/-- A pass that ends well got through its first part. -/
theorem exists_of_perform_bind_eq_ok {p : Pass α} {f : α → Pass β} {b : β} {c c' : Cluster}
    (hperform : c.perform (p >>= f) = (.ok b, c')) :
    ∃ a c₁, c.perform p = (.ok a, c₁) ∧ c₁.perform (f a) = (.ok b, c') := by
  rw [perform_bind] at hperform
  cases hp : c.perform p with
  | mk result c₁ =>
      rw [hp] at hperform
      cases result with
      | ok a => exact ⟨a, c₁, rfl, hperform⟩
      | error reason => cases hperform

theorem perform_map_ok {p : Pass α} (f : α → β) {a : α} {c c' : Cluster}
    (hp : c.perform p = (.ok a, c')) : c.perform (f <$> p) = (.ok (f a), c') := by
  rw [← bind_pure_comp, perform_bind_ok hp, perform_pure]

/-- The next call and then the rest come to the same as the whole pass. -/
theorem perform_step (p : Pass α) :
    (p.step c).2.perform (p.step c).1 = c.perform p := by
  cases p with
  | done | abort | looking | counting => rfl
  | reading secret next =>
      rw [Pass.step, perform]
      cases c.fetch secret with
      | mk result c' => cases result <;> rfl
  | writing write next =>
      rw [Pass.step, perform]
      cases c.submit write with
      | mk result c' => cases result <;> rfl

theorem perform_gatewayObject (α : Type) [Stored α] (name : NamespacedName) :
    c.perform (Pass.gatewayObject α name) =
      match c.cached? α name with
      | some a => (.ok a, c)
      | none =>
        (.error (.failed (.missingObject (Cached.kind α).name name.ns name.name)), c) := by
  rw [Pass.gatewayObject, perform_bind_ok (perform_look c)]
  cases c.cached? α name <;> rfl

theorem cached?_of_perform_gatewayObject {α : Type} [Stored α] {name : NamespacedName} {a : α}
    {c c' : Cluster} (hperform : c.perform (Pass.gatewayObject α name) = (.ok a, c')) :
    c.cached? α name = some a ∧ c' = c := by
  rw [perform_gatewayObject] at hperform
  cases hcached : c.cached? α name with
  | none =>
      rw [hcached] at hperform
      cases hperform
  | some found =>
      rw [hcached] at hperform
      cases hperform
      exact ⟨rfl, rfl⟩

/-! ## What calls leave behind -/

/-- The cluster with other faults put in front of its calls. -/
def facing (faults : Call → List (Option Fault)) : Cluster := { c with faults }

@[simp]
theorem faults_facing (faults : Call → List (Option Fault)) :
    (c.facing faults).faults = faults := rfl

@[simp]
theorem writes_facing (faults : Call → List (Option Fault)) :
    (c.facing faults).writes = c.writes := rfl

/-- Whatever the calls meet, another attempt may succeed. -/
def Transient : Prop :=
  ∀ call, ∀ fault, some fault ∈ c.faults call → fault.abort.isRetriable

/-- What the next call of a kind meets. -/
def nextFault? (call : Call) : Option Fault := (c.faults call).head?.join

/-- The cluster after the next call of a kind, if the call changes nothing
else. -/
def past (call : Call) : Cluster :=
  c.facing fun k => if k = call then (c.faults call).tail else c.faults k

theorem strike_eq (call : Call) : c.strike call = (c.nextFault? call, c.past call) := by
  rw [strike, nextFault?, past]
  cases hfaults : c.faults call with
  | cons fault rest => rfl
  | nil =>
      have hsame : (fun k => if k = call then [].tail else c.faults k) = c.faults := by
        funext k
        by_cases hcall : k = call <;> simp [hcall, hfaults]
      rw [hsame]
      rfl

/-- No call meets what was not to be met before. -/
theorem mem_faults_past {call k : Call} {fault : Option Fault}
    (hfault : fault ∈ (c.past call).faults k) : fault ∈ c.faults k := by
  simp only [past, faults_facing] at hfault
  split at hfault
  case isTrue hcall => exact hcall ▸ List.mem_of_mem_tail hfault
  case isFalse => exact hfault

variable {c} in
theorem Transient.past (hc : c.Transient) (call : Call) : (c.past call).Transient :=
  fun k fault hfault => hc k fault (c.mem_faults_past hfault)

variable {c} in
theorem Transient.nextFault (hc : c.Transient) {call : Call} {fault : Fault}
    (hfault : c.nextFault? call = some fault) : fault.abort.isRetriable := by
  apply hc call
  apply List.mem_of_head?
  exact Option.join_eq_some_iff.1 hfault

/-- Reading a secret brings the secret or a fault. -/
theorem fetch_eq (name : NamespacedName) :
    c.fetch name =
      match c.nextFault? .readSecret with
      | none => (.ok (c.secrets.get? name), c.past .readSecret)
      | some fault => (.error fault.abort, c.past .readSecret) := by
  rw [fetch, strike_eq]
  cases c.nextFault? .readSecret <;> rfl

/-- Reading a secret brings the secret or a fault, and nothing else changes. -/
theorem fetch_cases (name : NamespacedName) :
    ∃ faults, (c.Transient → (c.facing faults).Transient) ∧
      (c.fetch name = (.ok (c.secrets.get? name), c.facing faults) ∨
        ∃ reason, (c.Transient → reason.isRetriable) ∧
          c.fetch name = (.error reason, c.facing faults)) := by
  refine ⟨(c.past .readSecret).faults, fun hc => hc.past _, ?_⟩
  rw [fetch_eq]
  cases hfault : c.nextFault? .readSecret with
  | none => exact .inl rfl
  | some fault => exact .inr ⟨_, fun hc => hc.nextFault hfault, rfl⟩

/-- A refused write may be made again. -/
theorem isRetriable_refusal {α : Type} [Stored α] {a : α} {f : Failure}
    (hrefusal : c.refusal? a = some f) : f.isRetriable := by
  rw [refusal?] at hrefusal
  split at hrefusal
  · obtain rfl := Option.some.inj hrefusal
    rfl
  · split at hrefusal
    · cases hrefusal
    · obtain rfl := Option.some.inj hrefusal
      rfl

/-- A write meets a fault, or the server takes or refuses it. -/
theorem attempt_eq {α : Type} [Stored α] (call : Call) (a : α) (write : α → Write) :
    c.attempt call a write =
      match c.nextFault? call with
      | some fault => (.error fault.abort, c.past call)
      | none =>
        match c.refusal? a with
        | some f => (.error (.failed f), c.past call)
        | none => (.ok (), (c.past call).accept a write) := by
  have hsame : (c.past call).refusal? a = c.refusal? a := rfl
  rw [attempt, strike_eq]
  cases c.nextFault? call with
  | some fault => rfl
  | none => cases hrefusal : c.refusal? a <;> simp only [hsame.trans hrefusal]

theorem of_attempt_eq_ok {α : Type} [Stored α] {call : Call} {a : α} {write : α → Write}
    {c c' : Cluster} (hattempt : c.attempt call a write = (.ok (), c')) :
    c' = (c.past call).accept a write := by
  rw [attempt_eq] at hattempt
  split at hattempt
  · cases hattempt
  · split at hattempt
    · cases hattempt
    · exact (Prod.mk.inj hattempt).2.symm

/-- A write is taken, or it changes nothing. -/
theorem attempt_cases {α : Type} [Stored α] (call : Call) (a : α) (write : α → Write) :
    ∃ faults, (c.Transient → (c.facing faults).Transient) ∧
      ((c.refusal? a = none ∧
        c.attempt call a write = (.ok (), (c.facing faults).accept a write)) ∨
      ∃ reason, (c.Transient → reason.isRetriable) ∧
        c.attempt call a write = (.error reason, c.facing faults)) := by
  refine ⟨(c.past call).faults, fun hc => hc.past _, ?_⟩
  rw [attempt_eq]
  cases hfault : c.nextFault? call with
  | some fault => exact .inr ⟨_, fun hc => hc.nextFault hfault, rfl⟩
  | none =>
      cases hrefusal : c.refusal? a with
      | none => exact .inl ⟨rfl, rfl⟩
      | some f => exact .inr ⟨.failed f, fun _ => c.isRetriable_refusal hrefusal, rfl⟩

/-- What looking up the secrets of the Remotes, one after the other, comes upon
first. -/
def readFault? (remotes : List Remote) : Option Fault :=
  ((c.faults .readSecret).take (remotes.filterMap Document.secretRef?).length).findSome? id

theorem readFault?_cons_of_none {r : Remote} (href : Document.secretRef? r = none)
    (rest : List Remote) : c.readFault? (r :: rest) = c.readFault? rest := by
  rw [readFault?, List.filterMap_cons_none href, readFault?]

theorem readFault?_cons_of_some {r : Remote} {ref : NamespacedName}
    (href : Document.secretRef? r = some ref) (rest : List Remote) :
    c.readFault? (r :: rest) =
      (c.nextFault? .readSecret).or ((c.past .readSecret).readFault? rest) := by
  rw [readFault?, List.filterMap_cons_some href, nextFault?, readFault?, past]
  cases hfaults : c.faults .readSecret with
  | nil => simp
  | cons fault later => cases fault <;> simp

/-- The secrets of all Remotes are found, or the first fault ends the pass.
Nothing but the faults is used up. -/
theorem perform_gather_eq (remotes : List Remote) :
    ∃ faults,
      (∀ call, ∀ fault ∈ faults call, fault ∈ c.faults call) ∧
      (∀ call, call ≠ .readSecret → faults call = c.faults call) ∧
      c.perform (Document.gather Pass.readSecret remotes) =
        match c.readFault? remotes with
        | none => (.ok (remotes.map (Document.sourceOf c.secrets.get?)), c.facing faults)
        | some fault => (.error fault.abort, c.facing faults) := by
  rw [Document.gather]
  induction remotes generalizing c with
  | nil => exact ⟨c.faults, fun _ _ h => h, fun _ _ => rfl, by simp [readFault?]; rfl⟩
  | cons r rest ih =>
      rw [List.mapM_cons, Document.gatherOne]
      cases href : Document.secretRef? r with
      | none =>
          obtain ⟨faults, hmem, hkeep, hrest⟩ := ih c
          have hsource : Document.sourceOf c.secrets.get? r = { remote := r } := by
            rw [Document.sourceOf, href]
            rfl
          refine ⟨faults, hmem, hkeep, ?_⟩
          rw [readFault?_cons_of_none c href, List.map_cons, hsource]
          dsimp only
          rw [perform_bind_ok (perform_pure c _), perform_bind, hrest]
          cases c.readFault? rest <;> rfl
      | some ref =>
          obtain ⟨faults, hmem, hkeep, hrest⟩ := ih (c.past .readSecret)
          have hsource : Document.sourceOf c.secrets.get? r =
              { remote := r, secret := c.secrets.get? ref } := by
            rw [Document.sourceOf, href]
            rfl
          have hfetch := c.fetch_eq ref
          rw [← perform_readSecret] at hfetch
          rw [readFault?_cons_of_some c href, List.map_cons, hsource]
          dsimp only
          cases hfault : c.nextFault? .readSecret with
          | none =>
              rw [hfault] at hfetch
              refine ⟨faults, fun call fault h => c.mem_faults_past (hmem call fault h),
                fun call hcall => (hkeep call hcall).trans (if_neg hcall), ?_⟩
              rw [bind_assoc, perform_bind_ok hfetch, perform_bind_ok (perform_pure _ _),
                perform_bind, hrest]
              cases (c.past .readSecret).readFault? rest <;> rfl
          | some fault =>
              rw [hfault] at hfetch
              refine ⟨(c.past .readSecret).faults, fun call fault h => c.mem_faults_past h,
                fun call hcall => if_neg hcall, ?_⟩
              rw [bind_assoc, perform_bind_error hfetch]
              rfl

/-- The secrets of all Remotes are found, or one of the reads fails. -/
theorem perform_gather_cases (remotes : List Remote) :
    ∃ faults,
      c.perform (Document.gather Pass.readSecret remotes) =
          (.ok (remotes.map (Document.sourceOf c.secrets.get?)), c.facing faults) ∨
        ∃ reason, c.perform (Document.gather Pass.readSecret remotes) =
          (.error reason, c.facing faults) := by
  obtain ⟨faults, -, -, hgather⟩ := c.perform_gather_eq remotes
  refine ⟨faults, ?_⟩
  rw [hgather]
  cases c.readFault? remotes with
  | none => exact .inl rfl
  | some fault => exact .inr ⟨_, rfl⟩

@[simp]
theorem writes_observe {α : Type} [Stored α] (e : WatchEvent α) :
    (c.observe e).writes = c.writes := by
  rw [observe]
  split <;> rfl

/-- A write that is taken is recorded in the form in which it is held. -/
theorem writes_accept {α : Type} [Stored α] (a : α) (write : α → Write) :
    (c.accept a write).writes = c.writes ++ [write (c.stamp a).1] := by
  rw [accept]
  dsimp only
  split
  · rfl
  · rw [writes_observe]
    rfl

/-- A write that is taken replaces one object at the server, and is reported to
the cache of its kind at once or later, if at all. -/
theorem exists_accept_eq {α : Type} [Stored α] (a : α) (write : α → Write) :
    ∃ informer held notices,
      c.accept a write =
        { c.setReplica {
            server := (c.replica α).server.insert (Cached.key (c.stamp a).1).path (c.stamp a).1
            informer } with
          version := c.version + 1
          writes := c.writes ++ [write (c.stamp a).1]
          held
          notices } ∧
      (informer = (c.replica α).informer ∨
        informer = ((c.replica α).informer.step (.apply (c.stamp a).1)).1) ∧
      (held = c.held ∨ held = c.held ++ [Stored.report (.apply (c.stamp a).1)]) := by
  rw [accept]
  dsimp only [stamp, mapServer]
  split
  · exact ⟨_, _, _, rfl, .inl rfl, .inr rfl⟩
  · dsimp only [observe]
    split
    · refine ⟨((c.replica α).informer.step (.apply (c.stamp a).1)).1, c.held, c.notices ++
        ((c.replica α).informer.step (.apply (c.stamp a).1)).2.map Stored.notice, ?_,
        .inr rfl, .inl rfl⟩
      simp [stamp, setReplica, replica, Stored.replica_setReplica, Stored.setReplica_setReplica]
    · exact ⟨_, _, _, rfl, .inl rfl, .inl rfl⟩

/-! ## Calls that meet no fault -/

/-- No fault is put in front of the calls of a kind. -/
def Spares (call : Call) : Prop := ∀ fault ∈ c.faults call, fault = none

instance (call : Call) : Decidable (c.Spares call) :=
  inferInstanceAs (Decidable (∀ fault ∈ c.faults call, fault = none))

variable {c}

theorem Spares.past {k : Call} (hspares : c.Spares k) (call : Call) : (c.past call).Spares k :=
  fun fault hfault => hspares fault (c.mem_faults_past hfault)

theorem Spares.nextFault {call : Call} (hspares : c.Spares call) :
    c.nextFault? call = none := by
  rw [nextFault?]
  cases hfaults : c.faults call with
  | nil => rfl
  | cons fault rest => exact hspares fault (by simp [hfaults])

theorem fetch_of_spares (hspares : c.Spares .readSecret) (name : NamespacedName) :
    ∃ faults, c.fetch name = (.ok (c.secrets.get? name), c.facing faults) ∧
      ∀ k, c.Spares k → (c.facing faults).Spares k := by
  refine ⟨(c.past .readSecret).faults, ?_, fun k hk => hk.past _⟩
  rw [fetch_eq, hspares.nextFault]
  rfl

/-- Looking up secrets touches nothing but the faults. -/
theorem perform_gather (remotes : List Remote) (hspares : c.Spares .readSecret) :
    ∃ faults,
      c.perform (Document.gather Pass.readSecret remotes) =
        (.ok (remotes.map (Document.sourceOf c.secrets.get?)), c.facing faults) ∧
      ∀ k, c.Spares k → (c.facing faults).Spares k := by
  obtain ⟨faults, hmem, -, hgather⟩ := c.perform_gather_eq remotes
  have hnone : c.readFault? remotes = none :=
    List.findSome?_eq_none_iff.2 fun fault hfault => hspares fault (List.mem_of_mem_take hfault)
  rw [hnone] at hgather
  exact ⟨faults, hgather, fun k hk fault hfault => hk fault (hmem k fault hfault)⟩

end Cluster

end GatewaySync
