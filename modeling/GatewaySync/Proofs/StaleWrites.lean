import GatewaySync.Proofs.Amendments
import GatewaySync.Proofs.Notifications
import GatewaySync.Proofs.Run
import GatewaySync.Proofs.Writes

/-!
# No update is lost to a stale cache

Several passes are under way, the caches lag behind the server by any number of
reports, and others write as they like.  Whatever a pass writes is an amendment
of an object that the server held at some time, and carries its version.  Since
a version stands for one content, the server takes the write only in place of
that very object; otherwise nothing changes, and the pass may be run again.
-/

namespace GatewaySync

/-- All forms in which the server holds objects at any time, whoever has written
them. -/
abbrev History := Set Write

/-- A version of an object stands for one content. -/
def History.IsConsistent (history : History) : Prop :=
  ∀ w ∈ history, ∀ w' ∈ history, w.place = w'.place → w.version? = w'.version? → w = w'

/-- The write amends an object of the history and carries its version. -/
def Write.IsBasedOn (w base : Write) : Prop := w.Amends base ∧ w.version? = base.version?

/-- The report brings no object that the server never held. -/
def Report.Brings (history : History) : Report → Prop
  | .remote e => e.Brings fun a => .status a ∈ history
  | .configMap e => e.Brings fun a => .configMap a ∈ history
  | .deployment e => e.Brings fun a => .deployment a ∈ history
  | .service _ => True

/-! ## Caches -/

namespace Informer

variable {α : Type} [Cached α] {known : α → Prop} {i : Informer α}

theorem Keeps.of_lookup (hi : i.Keeps known) {name : NamespacedName} {a : α}
    (hfound : i.lookup name = some a) : known a := by
  obtain ⟨ref, hget⟩ := SortedMap.mem_values_iff.1 (Store.mem_values_of_find? hfound)
  exact (hi.store ref a hget).2

end Informer

namespace Cluster

variable {history : History} {c c' : Cluster}

/-- The caches show only what the server held at some time. -/
structure Shows (history : History) (c : Cluster) : Prop where
  remotes : c.remotes.informer.Keeps fun a => .status a ∈ history
  configMaps : c.configMaps.informer.Keeps fun a => .configMap a ∈ history
  deployments : c.deployments.informer.Keeps fun a => .deployment a ∈ history

/-- What the server holds is part of the history, and in its place. -/
def IsRecorded (history : History) (c : Cluster) : Prop :=
  ∀ place w, c.objectAt? place = some w → w.place = place ∧ w ∈ history

/-- No cache has changed, and no report has been added or lost. -/
structure SameCaches (c c' : Cluster) : Prop where
  remotes : c'.remotes.informer = c.remotes.informer
  configMaps : c'.configMaps.informer = c.configMaps.informer
  deployments : c'.deployments.informer = c.deployments.informer
  services : c'.services.informer = c.services.informer
  held : c'.held = c.held

theorem Shows.of_sameCaches (hc : c.Shows history) (hsame : c.SameCaches c') :
    c'.Shows history where
  remotes := hsame.remotes ▸ hc.remotes
  configMaps := hsame.configMaps ▸ hc.configMaps
  deployments := hsame.deployments ▸ hc.deployments

theorem Shows.deliver (hc : c.Shows history) {report : Report} (hreport : report.Brings history) :
    (c.deliver report).Shows history := by
  cases report with
  | remote e =>
      rw [Cluster.deliver, observe]
      split
      · exact ⟨hc.remotes.step hreport, hc.configMaps, hc.deployments⟩
      · exact hc
  | configMap e =>
      rw [Cluster.deliver, observe]
      split
      · exact ⟨hc.remotes, hc.configMaps.step hreport, hc.deployments⟩
      · exact hc
  | deployment e =>
      rw [Cluster.deliver, observe]
      split
      · exact ⟨hc.remotes, hc.configMaps, hc.deployments.step hreport⟩
      · exact hc
  | service e =>
      rw [Cluster.deliver, observe]
      split
      · exact ⟨hc.remotes, hc.configMaps, hc.deployments⟩
      · exact hc

/-- A report does not reach the server. -/
theorem objectAt?_deliver (report : Report) (place : Kind × String) :
    (c.deliver report).objectAt? place = c.objectAt? place := by
  obtain ⟨kind, path⟩ := place
  cases report with
  | remote e | configMap e | deployment e | service e =>
      rw [Cluster.deliver, observe]
      split
      · cases kind <;> rfl
      · rfl

/-- The server has replaced an object by an amendment of it, at the next version,
and holds all else as before. -/
structure Amended (c : Cluster) (base : Write) (c' : Cluster) : Prop where
  current : c.objectAt? base.place = some base
  written : ∃ written, c'.objectAt? base.place = some written ∧ written.Amends base ∧
    written.version? = some (Cached.versionText (c.version + 1)) ∧
    c'.writes = c.writes ++ [written]
  others : ∀ place, place ≠ base.place → c'.objectAt? place = c.objectAt? place
  services : c'.services = c.services

/-- Whatever passes make of what such caches show is based on the history. -/
theorem allows_isBasedOn (history : History) :
    Pass.Allows (Shows history) fun w => ∃ base ∈ history, w.IsBasedOn base where
  document _ _ m hc hcached text :=
    ⟨.configMap m, hc.configMaps.of_lookup hcached, Document.sameButDocument_putInto m text, rfl⟩
  restart _ _ d hc hcached hash now :=
    ⟨.deployment d, hc.deployments.of_lookup hcached, d.sameButRollout_restarted hash now, rfl⟩
  status _ _ r hc hcached status :=
    ⟨.status r, hc.remotes.of_lookup hcached, r.sameButStatus_withStatus status, rfl⟩

theorem brings_echo {w : Write} {version : Nat}
    (hw : w.atVersion (Cached.versionText version) ∈ history) :
    (w.echo version).Brings history := by
  cases w with
  | configMap | deployment | status =>
      intro a ha
      obtain rfl := Option.some.inj ha
      exact hw

/-- A write that is taken becomes part of the history, and so its report brings
nothing else. -/
theorem Shows.take (hc : c.Shows history) (hheld : ∀ report ∈ c.held, report.Brings history)
    {w : Write} (hw : w.atVersion (Cached.versionText (c.version + 1)) ∈ history) :
    (c.take w).Shows history ∧ ∀ report ∈ (c.take w).held, report.Brings history := by
  have hkeeps : ∀ {α : Type} [Stored α] {known : α → Prop} {a : α} {informer : Informer α},
      (c.replica α).informer.Keeps known → known a →
      (informer = (c.replica α).informer ∨
        informer = ((c.replica α).informer.step (.apply a)).1) → informer.Keeps known := by
    intro α _ known a informer hbefore ha hinformer
    rcases hinformer with rfl | rfl
    · exact hbefore
    · apply hbefore.step
      intro b hb
      exact Option.some.inj hb ▸ ha
  have hreports : ∀ {held : List Report},
      (held = c.held ∨ held = c.held ++ [w.echo (c.version + 1)]) →
      ∀ report ∈ held, report.Brings history := by
    intro held hcases report hreport
    rcases hcases with rfl | rfl
    · exact hheld report hreport
    · rcases List.mem_append.1 hreport with hreport | hreport
      · exact hheld report hreport
      · exact List.mem_singleton.1 hreport ▸ brings_echo hw
  cases w with
  | configMap a =>
      obtain ⟨informer, held, _, htaken, hinformer, hheld⟩ := c.exists_accept_eq a .configMap
      rw [Cluster.take, htaken]
      exact ⟨⟨hc.remotes, hkeeps hc.configMaps hw hinformer, hc.deployments⟩, hreports hheld⟩
  | deployment a =>
      obtain ⟨informer, held, _, htaken, hinformer, hheld⟩ := c.exists_accept_eq a .deployment
      rw [Cluster.take, htaken]
      exact ⟨⟨hc.remotes, hc.configMaps, hkeeps hc.deployments hw hinformer⟩, hreports hheld⟩
  | status a =>
      obtain ⟨informer, held, _, htaken, hinformer, hheld⟩ := c.exists_accept_eq a .status
      rw [Cluster.take, htaken]
      exact ⟨⟨hkeeps hc.remotes hw hinformer, hc.configMaps, hc.deployments⟩, hreports hheld⟩

end Cluster

/-! ## Scenes -/

/-- The cluster and the passes that are under way in it. -/
structure Scene where
  cluster : Cluster
  passes : List (Pass (List String)) := []

namespace Scene

/-- What can happen next, as long as the server holds only what is part of the
history. -/
inductive Step (s : Settings) (history : History) : Scene → Scene → Prop where
  /-- A watch reports something that the server held at some time. -/
  | report {c : Cluster} {passes : List (Pass (List String))} (report : Report)
      (hbrings : report.Brings history) :
      Step s history ⟨c, passes⟩ ⟨c.deliver report, passes⟩
  /-- A watch reports a write that was taken. -/
  | echo {c : Cluster} {passes : List (Pass (List String))} {before after : List Report}
      {report : Report} (hheld : c.held = before ++ report :: after) :
      Step s history ⟨c, passes⟩
        ⟨Cluster.deliver { c with held := before ++ after } report, passes⟩
  /-- Others write, secrets change, time passes, or calls are going to fail. -/
  | elsewhere {c c' : Cluster} {passes : List (Pass (List String))} (hsame : c.SameCaches c')
      (hrecorded : c'.IsRecorded history) : Step s history ⟨c, passes⟩ ⟨c', passes⟩
  | begin {c : Cluster} {passes : List (Pass (List String))} (h : Handler) (key : String) :
      Step s history ⟨c, passes⟩ ⟨c, passes ++ [Pass.sync s h key]⟩
  /-- One of the passes makes its next call. -/
  | call {c : Cluster} {before after : List (Pass (List String))} {p : Pass (List String)}
      (hrecorded : (p.step c).2.IsRecorded history) :
      Step s history ⟨c, before ++ p :: after⟩
        ⟨(p.step c).2, before ++ (p.step c).1 :: after⟩

/-- Nothing has been reported yet, and no pass is under way. -/
structure IsInitial (history : History) (scene : Scene) : Prop where
  remotes : scene.cluster.remotes.informer = {}
  configMaps : scene.cluster.configMaps.informer = {}
  deployments : scene.cluster.deployments.informer = {}
  held : scene.cluster.held = []
  recorded : scene.cluster.IsRecorded history
  passes : scene.passes = []

/-- Everything in the scene goes back to the history. -/
structure IsTraced (history : History) (scene : Scene) : Prop where
  caches : scene.cluster.Shows history
  held : ∀ report ∈ scene.cluster.held, report.Brings history
  recorded : scene.cluster.IsRecorded history
  passes : ∀ p ∈ scene.passes, p.Writes (Cluster.Shows history)
    (fun w => ∃ base ∈ history, w.IsBasedOn base) fun _ => True

variable {s : Settings} {history : History} {scene scene' start : Scene}

theorem IsInitial.isTraced (hscene : scene.IsInitial history) : scene.IsTraced history where
  caches := {
    remotes := hscene.remotes ▸ Informer.keeps_empty
    configMaps := hscene.configMaps ▸ Informer.keeps_empty
    deployments := hscene.deployments ▸ Informer.keeps_empty }
  held := by simp [hscene.held]
  recorded := hscene.recorded
  passes := by simp [hscene.passes]

/-- A call of a pass changes neither caches nor reports, or it is a write that is
taken. -/
theorem step_cases (c : Cluster) (p : Pass (List String)) :
    c.SameCaches (p.step c).2 ∨ ∃ w next, p = .writing w next ∧
      (p.step c).2 = (c.past w.call).take w := by
  cases p with
  | done | abort | looking | counting => exact .inl ⟨rfl, rfl, rfl, rfl, rfl⟩
  | reading name next =>
      left
      rw [Pass.step, c.fetch_eq name]
      cases c.nextFault? .readSecret <;> exact ⟨rfl, rfl, rfl, rfl, rfl⟩
  | writing w next =>
      rw [Pass.step]
      obtain ⟨-, htaken⟩ | ⟨reason, hfailed, -⟩ := c.submit_cases_of_accepts w
      · rw [htaken]
        exact .inr ⟨w, next, rfl, rfl⟩
      · rw [hfailed]
        exact .inl ⟨rfl, rfl, rfl, rfl, rfl⟩

theorem IsTraced.call {c : Cluster} {before after : List (Pass (List String))}
    {p : Pass (List String)} (hscene : IsTraced history ⟨c, before ++ p :: after⟩)
    (hrecorded : (p.step c).2.IsRecorded history) :
    IsTraced history ⟨(p.step c).2, before ++ (p.step c).1 :: after⟩ := by
  have hcaches : (p.step c).2.Shows history ∧
      ∀ report ∈ (p.step c).2.held, report.Brings history := by
    obtain hsame | ⟨w, next, rfl, htaken⟩ := step_cases c p
    · exact ⟨hscene.caches.of_sameCaches hsame, hsame.held ▸ hscene.held⟩
    · -- the server holds the written object now, so it is part of the history
      have hwritten := (c.past w.call).objectAt?_take w w.place
      rw [if_pos rfl, ← htaken] at hwritten
      rw [htaken]
      exact Cluster.Shows.take (c := c.past w.call)
        (hscene.caches.of_sameCaches ⟨rfl, rfl, rfl, rfl, rfl⟩) hscene.held
        (hrecorded _ _ hwritten).2
  refine ⟨hcaches.1, hcaches.2, hrecorded, ?_⟩
  intro q hq
  rcases List.mem_append.1 hq with hq | hq
  · exact hscene.passes q (List.mem_append_left _ hq)
  · rcases List.mem_cons.1 hq with rfl | hq
    · exact (hscene.passes p (by simp)).step hscene.caches
    · exact hscene.passes q (List.mem_append_right _ (List.mem_cons_of_mem _ hq))

theorem IsTraced.step (hscene : scene.IsTraced history) (hstep : Step s history scene scene') :
    scene'.IsTraced history := by
  have hserver : ∀ {c : Cluster} (report : Report), c.IsRecorded history →
      (c.deliver report).IsRecorded history := by
    intro c report hc place w hw
    rw [Cluster.objectAt?_deliver] at hw
    exact hc place w hw
  cases hstep with
  | @report c passes report hbrings =>
      refine ⟨hscene.caches.deliver hbrings, ?_, hserver report hscene.recorded,
        hscene.passes⟩
      rw [(Cluster.frame_deliver report).2]
      exact hscene.held
  | @echo c passes before after report hheld =>
      have hreports : ∀ other ∈ before ++ report :: after, other.Brings history :=
        hheld ▸ hscene.held
      have hc : Cluster.Shows history { c with held := before ++ after } :=
        ⟨hscene.caches.remotes, hscene.caches.configMaps, hscene.caches.deployments⟩
      refine ⟨hc.deliver (hreports report (by simp)), ?_, hserver report hscene.recorded,
        hscene.passes⟩
      rw [(Cluster.frame_deliver report).2]
      intro other hother
      exact hreports other ((List.sublist_cons_self report after).append_left before |>.subset
        hother)
  | elsewhere hsame hrecorded =>
      exact ⟨hscene.caches.of_sameCaches hsame, hsame.held ▸ hscene.held, hrecorded,
        hscene.passes⟩
  | begin h key =>
      refine ⟨hscene.caches, hscene.held, hscene.recorded, ?_⟩
      intro p hp
      rcases List.mem_append.1 hp with hp | hp
      · exact hscene.passes p hp
      · obtain rfl := List.mem_singleton.1 hp
        exact Pass.writes_sync (Cluster.allows_isBasedOn history) s h key
  | call hrecorded => exact hscene.call hrecorded

theorem IsTraced.of_run (hstart : start.IsInitial history)
    (hrun : Relation.ReflTransGen (Step s history) start scene) : scene.IsTraced history := by
  induction hrun with
  | refl => exact hstart.isTraced
  | tail _ hstep ih => exact ih.step hstep

/-- Where a version stands for one content, the version that was read tells
whether the object is still the one that was read. -/
theorem accepts_iff_of_isBasedOn (hhistory : history.IsConsistent) {c : Cluster}
    (hrecorded : c.IsRecorded history) {w base : Write} (hbase : base ∈ history)
    (hw : w.IsBasedOn base) : c.Accepts w ↔ c.objectAt? base.place = some base := by
  rw [Cluster.Accepts, hw.1.place_eq]
  constructor
  · rintro ⟨current, hcurrent, hversion⟩
    obtain ⟨hplace, hmem⟩ := hrecorded _ _ hcurrent
    have heq : current = base := hhistory current hmem base hbase hplace (hversion.trans hw.2)
    rw [hcurrent, heq]
  · intro hcurrent
    exact ⟨base, hcurrent, hw.2.symm⟩

theorem amended_take {c : Cluster} {w base : Write} (hw : w.IsBasedOn base)
    (hcurrent : c.objectAt? base.place = some base) : c.Amended base (c.take w) where
  current := hcurrent
  written := by
    refine ⟨w.atVersion _, ?_, hw.1.atVersion _, Write.version?_atVersion w _,
      Cluster.writes_take w⟩
    rw [Cluster.objectAt?_take, if_pos hw.1.place_eq.symm]
  others place hplace := by
    rw [Cluster.objectAt?_take, if_neg (hw.1.place_eq ▸ hplace)]
  services := Cluster.services_take w

/-- Whichever passes are under way, however far the caches are behind and
whatever others write: a write that succeeds replaces the very object that it
amends, and nothing else at the server.  A write that amends an object which the
server no longer holds changes nothing, and the pass ends with a failure after
which it is run again, unless the call met a fault instead of the server. -/
theorem no_update_lost (s : Settings) (history : History) (start scene : Scene)
    (hhistory : history.IsConsistent) (hstart : start.IsInitial history)
    (hrun : Relation.ReflTransGen (Step s history) start scene) (w : Write)
    (next : Pass (List String)) (hpass : .writing w next ∈ scene.passes) :
    ∃ base ∈ history, w.IsBasedOn base ∧
      (∀ c', scene.cluster.submit w = (.ok (), c') → scene.cluster.Amended base c') ∧
      (scene.cluster.objectAt? base.place ≠ some base →
        ∃ reason,
          (Pass.writing w next).step scene.cluster =
            (.abort reason, scene.cluster.past w.call) ∧
          (reason.isRetriable ∨ ∃ fault, scene.cluster.nextFault? w.call = some fault ∧
            reason = fault.abort)) := by
  have htraced := IsTraced.of_run hstart hrun
  obtain ⟨⟨base, hbase, hw⟩, -⟩ := htraced.passes _ hpass
  have haccepts := accepts_iff_of_isBasedOn hhistory htraced.recorded hbase hw
  have hsubmit := scene.cluster.submit_cases_of_accepts w
  refine ⟨base, hbase, hw, ?_, ?_⟩
  · intro c' hok
    obtain ⟨hcurrent, htaken⟩ | ⟨reason, hfailed, -⟩ := hsubmit
    · obtain ⟨-, rfl⟩ := Prod.mk.inj (hok.symm.trans htaken)
      have hamended := amended_take (c := scene.cluster.past w.call) hw (haccepts.1 hcurrent)
      exact ⟨hamended.current, hamended.written, hamended.others, hamended.services⟩
    · rw [hfailed] at hok
      cases hok
  · intro hstale
    obtain ⟨hcurrent, -⟩ | ⟨reason, hfailed, hreason⟩ := hsubmit
    · exact absurd (haccepts.1 hcurrent) hstale
    · exact ⟨reason, by rw [Pass.step, hfailed], hreason⟩

/-! ### An edit in between -/

/-- The ConfigMap as a pass reads it. -/
def readForm : ConfigMap := Informer.documentAt "1"

/-- The ConfigMap as somebody else leaves it. -/
def editedForm : ConfigMap :=
  { Informer.documentAt "2" with data := some (.ofList [("motd", "hello")]) }

def gatewayDeployment : Deployment where
  metadata := { name := some "gitkubed", ns := some "kube-system", resourceVersion := some "1" }

def editedHistory : History :=
  {.configMap readForm, .configMap editedForm, .deployment gatewayDeployment}

theorem isConsistent_editedHistory : editedHistory.IsConsistent := by
  rintro w (rfl | rfl | rfl) w' (rfl | rfl | rfl) hplace hversion
  case inl.inl | inr.inl.inr.inl | inr.inr.inr.inr => rfl
  case inl.inr.inl | inr.inl.inl => exact absurd hversion (by decide)
  case inl.inr.inr | inr.inl.inr.inr | inr.inr.inl | inr.inr.inr.inl =>
    exact absurd hplace (by decide)

/-- The server holds the ConfigMap in some form, and the Deployment. -/
def served (configMap : ConfigMap) : Cluster where
  configMaps := { server := SortedMap.empty.insert "kube-system/gitkube-ci-conf" configMap }
  deployments := { server := SortedMap.empty.insert "kube-system/gitkubed" gatewayDeployment }

theorem isRecorded_of_objectAt? {configMap : ConfigMap} {c : Cluster}
    (hobjects : c.objectAt? = (served configMap).objectAt?)
    (hplace : configMap.metadata.key.path = "kube-system/gitkube-ci-conf")
    (hhistory : .configMap configMap ∈ editedHistory) : c.IsRecorded editedHistory := by
  rintro ⟨kind, path⟩ w hw
  rw [hobjects] at hw
  cases kind with
  | remote | service => cases hw
  | configMap =>
      simp only [served, Cluster.objectAt?, SortedMap.get?_insert] at hw
      split at hw
      case isTrue hpath =>
        obtain rfl := Option.some.inj hw
        exact ⟨by rw [Write.place, hpath, ← hplace]; rfl, hhistory⟩
      case isFalse => cases hw
  | deployment =>
      simp only [served, Cluster.objectAt?, SortedMap.get?_insert] at hw
      split at hw
      case isTrue hpath =>
        obtain rfl := Option.some.inj hw
        exact ⟨by rw [hpath]; decide, .inr (.inr rfl)⟩
      case isFalse => cases hw

/-- The caches show what a pass reads. -/
def shown : Cluster :=
  ((served readForm).deliver (.configMap (.apply readForm))).deliver
    (.deployment (.apply gatewayDeployment))

/-- The server holds the edited ConfigMap, and no cache shows it. -/
def overtaken : Cluster :=
  { shown with
    configMaps := { shown.configMaps with server := (served editedForm).configMaps.server } }

/-- What the pass is going to write. -/
def pending : Write := .configMap (Document.putInto readForm "{}")

theorem exists_run_pending :
    ∃ next, Relation.ReflTransGen (Step {} editedHistory) ⟨served readForm, []⟩
      ⟨shown, [.writing pending next]⟩ := by
  have hrecorded : shown.IsRecorded editedHistory :=
    isRecorded_of_objectAt? (funext fun place => by
      rw [shown, Cluster.objectAt?_deliver, Cluster.objectAt?_deliver]) (by decide) (.inl rfl)
  have hlook : ∀ p : Pass (List String), (p.step shown).2 = shown →
      Step {} editedHistory ⟨shown, [p]⟩ ⟨shown, [(p.step shown).1]⟩ := by
    intro p hlooks
    have hcall := @Step.call {} editedHistory shown [] [] p (by rw [hlooks]; exact hrecorded)
    rw [hlooks] at hcall
    exact hcall
  -- the pass looks at the ConfigMap, the Deployment and the Remotes
  let first := Pass.sync {} .configMap "kube-system/gitkube-ci-conf"
  let second := (first.step shown).1
  let third := (second.step shown).1
  have hpending : ∃ next, (third.step shown).1 = .writing pending next := ⟨_, rfl⟩
  obtain ⟨next, hnext⟩ := hpending
  have hconfigMap : (Report.configMap (.apply readForm)).Brings editedHistory := by
    intro a ha
    obtain rfl := Option.some.inj ha
    exact .inl rfl
  have hdeployment : (Report.deployment (.apply gatewayDeployment)).Brings editedHistory := by
    intro a ha
    obtain rfl := Option.some.inj ha
    exact .inr (.inr rfl)
  refine ⟨next, ?_⟩
  rw [← hnext]
  apply Relation.ReflTransGen.head (.report _ hconfigMap)
  apply Relation.ReflTransGen.head (.report _ hdeployment)
  apply Relation.ReflTransGen.head (.begin .configMap "kube-system/gitkube-ci-conf")
  apply Relation.ReflTransGen.head (hlook first rfl)
  apply Relation.ReflTransGen.head (hlook second rfl)
  exact .single (hlook third rfl)

theorem isInitial_served : IsInitial editedHistory ⟨served readForm, []⟩ where
  remotes := rfl
  configMaps := rfl
  deployments := rfl
  held := rfl
  recorded := isRecorded_of_objectAt? rfl (by decide) (.inl rfl)
  passes := rfl

/-- Before the edit the write is taken and amends what the pass has read.  After
the edit it changes nothing, and the pass is run again. -/
theorem no_update_lost_edited :
    (∃ c' written, shown.submit pending = (.ok (), c') ∧
      c'.objectAt? pending.place = some written ∧ written.Amends (.configMap readForm)) ∧
    ∃ next reason,
      Relation.ReflTransGen (Step {} editedHistory) ⟨served readForm, []⟩
        ⟨overtaken, [.writing pending next]⟩ ∧
      overtaken.objectAt? pending.place = some (.configMap editedForm) ∧
      (Pass.writing pending next).step overtaken =
        (.abort reason, overtaken.past .replaceConfigMap) ∧
      reason.isRetriable := by
  obtain ⟨next, hrun⟩ := exists_run_pending
  have hbased : ∀ {base}, base ∈ editedHistory → pending.IsBasedOn base →
      base = .configMap readForm := by
    rintro base (rfl | rfl | rfl) ⟨hamends, hversion⟩
    case inl => rfl
    case inr.inl => exact absurd hversion (by decide)
    case inr.inr => exact hamends.elim
  constructor
  · obtain ⟨base, hbase, hpending, hok, -⟩ := no_update_lost {} editedHistory _ _
      isConsistent_editedHistory isInitial_served hrun pending next List.mem_cons_self
    obtain rfl := hbased hbase hpending
    obtain ⟨written, hwritten, hamends, -⟩ := (hok _ rfl).written
    exact ⟨_, written, rfl, hwritten, hamends⟩
  · have hrecorded : overtaken.IsRecorded editedHistory :=
      isRecorded_of_objectAt? rfl (by decide) (.inr (.inl rfl))
    have hedit : Step {} editedHistory ⟨shown, [.writing pending next]⟩
        ⟨overtaken, [.writing pending next]⟩ :=
      .elsewhere ⟨rfl, rfl, rfl, rfl, rfl⟩ hrecorded
    have hedited : overtaken.objectAt? pending.place ≠ some (.configMap readForm) := by
      decide
    have hrun' := hrun.tail hedit
    obtain ⟨base, hbase, hpending, -, hstale⟩ := no_update_lost {} editedHistory _ _
      isConsistent_editedHistory isInitial_served hrun' pending next List.mem_cons_self
    obtain rfl := hbased hbase hpending
    obtain ⟨reason, hstep, hretriable | ⟨fault, hfault, -⟩⟩ := hstale hedited
    · exact ⟨next, reason, hrun', rfl, hstep, hretriable⟩
    · cases hfault

end Scene

end GatewaySync
