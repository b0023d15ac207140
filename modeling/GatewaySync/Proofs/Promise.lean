import GatewaySync.Proofs.Lanes
import GatewaySync.Proofs.RemoteDocument
import GatewaySync.Proofs.Watch

/-!
# What a pass under way is going to achieve

Between two calls of a pass anything may happen.  What can still be said of the
rest of the pass holds however the calls to come are answered: it ends in a
failure after which it is run again, it makes a write of a certain kind, or it
comes to a result of a certain kind.  All this is relative to what the caches
show when the pass looks at them.
-/

namespace GatewaySync

namespace Pass

variable {α β : Type}

section

variable (secrets : NamespacedName → Option Secret) (view : Cluster → Prop)
  (answer : Write → Prop)

/-- Whatever happens, the pass is going to be run again, makes a write that is
an answer, or ends well.  The caches are as in the view whenever it looks at
them. -/
def Ensures (good : α → Prop) : Pass α → Prop
  | .done a => good a
  | .abort reason => reason.isRetriable
  | .looking next => ∀ c, view c → Ensures good (next c)
  | .reading name next => Ensures good (next (secrets name))
  | .writing write next => answer write ∨ Ensures good next
  | .counting _ next => Ensures good next

end

variable {secrets : NamespacedName → Option Secret} {view : Cluster → Prop}
  {answer : Write → Prop} {good : α → Prop}

theorem Ensures.mono {good' : α → Prop} {p : Pass α}
    (hp : p.Ensures secrets view answer good) (hgood : ∀ a, good a → good' a) :
    p.Ensures secrets view answer good' := by
  induction p with
  | done a => exact hgood a hp
  | abort reason => exact hp
  | looking next ih => exact fun c hc => ih c (hp c hc)
  | reading name next ih => exact ih _ hp
  | writing write next ih => exact hp.imp id ih
  | counting series next ih => exact ih hp

theorem Ensures.bind {p : Pass α} {f : α → Pass β} {good : β → Prop}
    (hp : p.Ensures secrets view answer fun a => (f a).Ensures secrets view answer good) :
    (p >>= f).Ensures secrets view answer good := by
  change (p.andThen f).Ensures secrets view answer good
  induction p with
  | done a => exact hp
  | abort reason => exact hp
  | looking next ih => exact fun c hc => ih c (hp c hc)
  | reading name next ih => exact ih _ hp
  | writing write next ih => exact hp.imp id ih
  | counting series next ih => exact ih hp

/-- A gateway object that is not cached is waited for. -/
theorem ensures_gatewayObject (α : Type) [Stored α] {good : α → Prop}
    (name : NamespacedName)
    (hgood : ∀ c a, view c → c.cached? α name = some a → good a) :
    (gatewayObject α name).Ensures secrets view answer good := by
  apply Ensures.bind
  intro c hc
  rw [Ensures]
  split
  · rename_i a hcached
    exact hgood c a hc hcached
  · exact (rfl : Abort.isRetriable (.failed (.missingObject _ _ _)) = true)

theorem ensures_gather {remotes : List Remote}
    {good : List Document.Source → Prop}
    (hgood : good (remotes.map (Document.sourceOf secrets))) :
    (Document.gather readSecret remotes).Ensures secrets view answer good := by
  rw [Document.gather]
  induction remotes generalizing good with
  | nil => exact hgood
  | cons r rest ih =>
      rw [List.mapM_cons]
      have hfirst : (Document.gatherOne readSecret r).Ensures secrets view answer
          fun source => source = Document.sourceOf secrets r := by
        rw [Document.gatherOne, Document.sourceOf]
        cases Document.secretRef? r with
        | none => exact (rfl : ({ remote := r } : Document.Source) = _)
        | some ref => exact (rfl : ({ remote := r, secret := secrets ref } : Document.Source) = _)
      refine (hfirst.mono ?_).bind
      rintro _ rfl
      exact (ih hgood).bind

/-- Publishing writes the ConfigMap if it holds another document. -/
theorem ensures_publish {configMap : ConfigMap} {d : Deployment} {text : String}
    {good : Bool → Prop}
    (hchanged : Document.differs configMap text = true →
      answer (.configMap (Document.putInto configMap text)) ∨ ∀ written, good written)
    (hcurrent : Document.differs configMap text = false → ∀ written, good written) :
    (publish configMap d text).Ensures secrets view answer good := by
  have hrestart : (∀ written, good written) → ∀ (restart : Bool) (written : Bool),
      ((do
        if restart then
          replaceDeployment (d.restarted (Document.contentHash text) (← look).clock)
          count .gatewayRestarts
        return written) : Pass Bool).Ensures secrets view answer good := by
    intro hgood restart written
    cases restart with
    | false => exact hgood written
    | true => exact fun c _ => .inr (hgood written)
  cases hdiffers : Document.differs configMap text with
  | false =>
      simp only [publish, hdiffers, Bool.false_or, Bool.false_eq_true, if_false]
      exact hrestart (hcurrent hdiffers) _ false
  | true =>
      simp only [publish, hdiffers, Bool.true_or, if_true]
      rcases hchanged hdiffers with hanswer | hgood
      · exact .inl hanswer
      · exact .inr (hrestart hgood true true)

/-- A pass for the document ends well if publishing does. -/
theorem ensures_syncDocument {s : Settings} {good : Bool → Prop}
    (hpublish : ∀ c₁ c₂ configMap d, view c₁ → view c₂ →
      c₁.cached? ConfigMap ⟨s.ns, s.configMap⟩ = some configMap →
      (publish configMap d
        (Document.ofRemotes secrets (c₂.allCached Remote)).render).Ensures
          secrets view answer good) :
    (syncDocument s).Ensures secrets view answer good := by
  refine (ensures_gatewayObject ConfigMap _ ?_).bind
  intro c₁ configMap hc₁ hcached
  refine (ensures_gatewayObject Deployment _ ?_).bind
  intro _ d _ _
  refine fun c₂ hc₂ => ?_
  exact (ensures_gather (hpublish c₁ c₂ configMap d hc₁ hc₂ hcached)).bind

theorem ensures_parseKey {key : String} {name : NamespacedName}
    {good : NamespacedName → Prop} (hkey : NamespacedName.ofString? key = some name)
    (hgood : good name) : (parseKey key).Ensures secrets view answer good := by
  rw [parseKey, hkey]
  exact hgood

/-- A pass for a Remote ends well if the pass for the document does, and if the
status that follows from the Service is right or a write of it is an answer. -/
theorem ensures_syncRemote {s : Settings} {key : String} {name : NamespacedName}
    {good : Unit → Prop} (hkey : NamespacedName.ofString? key = some name)
    (hgone : ∀ c, view c → c.cached? Remote name = none → good ())
    (hdocument : ∀ c r, view c → c.cached? Remote name = some r →
      (syncDocument s).Ensures secrets view answer fun _ => ∀ c' gateway, view c' →
        c'.cached? Service ⟨s.ns, s.service⟩ = some gateway →
        (r.status ≠ some (r.statusBehind gateway) →
          answer (.status { r with status := some (r.statusBehind gateway) }) ∨ good ()) ∧
        (r.status = some (r.statusBehind gateway) → good ())) :
    (syncRemote s key).Ensures secrets view answer good := by
  refine (ensures_parseKey hkey ?_).bind
  intro c hc
  cases hcached : c.cached? Remote name with
  | none =>
      simp only [andThen, hcached]
      exact hgone c hc hcached
  | some r =>
      simp only [andThen, hcached]
      refine ((hdocument c r hc hcached).mono ?_).bind
      intro _ hstatus
      refine (ensures_gatewayObject Service _ ?_).bind
      intro c' gateway hc' hgateway
      obtain ⟨hwrong, hright⟩ := hstatus c' gateway hc' hgateway
      by_cases hne : r.status ≠ some (r.statusBehind gateway)
      · rw [if_pos hne]
        rcases hwrong hne with hanswer | hgood
        · exact .inl hanswer
        · exact .inr hgood
      · rw [if_neg hne]
        exact hright (not_not.1 hne)

end Pass

namespace Write

/-- The report of a write that was taken at a version. -/
def echo (version : Nat) : Write → Report
  | .configMap a => .configMap (.apply (Cached.atVersion a (Cached.versionText version)))
  | .deployment a => .deployment (.apply (Cached.atVersion a (Cached.versionText version)))
  | .status a => .remote (.apply (Cached.atVersion a (Cached.versionText version)))

end Write

namespace Cluster

/-- The reports of own writes are held back, somebody listens to the watches,
and whatever fails may be tried again. -/
structure IsLive (c : Cluster) : Prop where
  holding : c.holding = true
  watching : ∀ kind, c.follows kind = true
  transient : c.Transient

/-- What the program's own calls leave as it is. -/
structure Keeps (c c' : Cluster) : Prop where
  remotes : c'.remotes.informer = c.remotes.informer
  configMaps : c'.configMaps.informer = c.configMaps.informer
  deployments : c'.deployments.informer = c.deployments.informer
  services : c'.services.informer = c.services.informer
  secrets : c'.secrets = c.secrets
  notices : c'.notices = c.notices
  version_le : c.version ≤ c'.version
  live : c.IsLive → c'.IsLive

variable {c : Cluster}

theorem Keeps.refl (c : Cluster) : c.Keeps c :=
  ⟨rfl, rfl, rfl, rfl, rfl, rfl, le_rfl, id⟩

theorem keeps_facing {faults : Call → List (Option Fault)}
    (htransient : c.Transient → (c.facing faults).Transient) :
    c.Keeps (c.facing faults) :=
  ⟨rfl, rfl, rfl, rfl, rfl, rfl, le_rfl,
    fun hlive => ⟨hlive.holding, hlive.watching, htransient hlive.transient⟩⟩

/-- While reports are held back, a taken write shows only at the server. -/
theorem accept_of_holding {α : Type} [Stored α] (hholding : c.holding = true) (a : α)
    (write : α → Write) :
    c.accept a write =
      { (c.stamp a).2.mapServer fun objects : SortedMap String α =>
          objects.insert (Cached.key (c.stamp a).1).path (c.stamp a).1 with
        writes := c.writes ++ [write (c.stamp a).1]
        held := c.held ++ [Stored.report (.apply (c.stamp a).1)] } := by
  rw [accept]
  dsimp only
  rw [if_pos (by exact hholding)]
  rfl

/-- A write is taken and its report held back, or it may be made again. -/
theorem submit_cases (hlive : c.IsLive) (w : Write) :
    ∃ c', c.Keeps c' ∧
      ((c.submit w = (.ok (), c') ∧ c'.held = c.held ++ [w.echo (c.version + 1)]) ∨
      ∃ reason, c.submit w = (.error reason, c') ∧ c'.held = c.held ∧
        reason.isRetriable) := by
  have haccept : ∀ {α : Type} [Stored α] {call : Call} {a : α} {write : α → Write},
      (∀ faults, (c.Transient → (c.facing faults).Transient) →
        c.Keeps ((c.facing faults).accept a write) ∧
        ((c.facing faults).accept a write).held =
          c.held ++ [(write a).echo (c.version + 1)]) →
      ∃ c', c.Keeps c' ∧
        ((c.attempt call a write = (.ok (), c') ∧
          c'.held = c.held ++ [(write a).echo (c.version + 1)]) ∨
        ∃ reason, c.attempt call a write = (.error reason, c') ∧ c'.held = c.held ∧
          reason.isRetriable) := by
    intro α _ call a write htaken
    obtain ⟨faults, htransient, ⟨-, hok⟩ | ⟨reason, hretriable, hfailed⟩⟩ :=
      c.attempt_cases call a write
    · obtain ⟨hkeeps, hheld⟩ := htaken faults htransient
      exact ⟨_, hkeeps, .inl ⟨hok, hheld⟩⟩
    · exact ⟨_, keeps_facing htransient,
        .inr ⟨reason, hfailed, rfl, hretriable hlive.transient⟩⟩
  cases w with
  | configMap a | deployment a | status a =>
      apply haccept
      intro faults htransient
      rw [accept_of_holding (c := c.facing faults) hlive.holding]
      exact ⟨⟨rfl, rfl, rfl, rfl, rfl, rfl, Nat.le_succ _, fun hlive =>
        ⟨hlive.holding, hlive.watching, htransient hlive.transient⟩⟩, rfl⟩

/-- What a pass ensures, the rest of it after the next call still ensures,
unless the call was a write that is an answer. -/
theorem ensures_step {α : Type} {secrets : NamespacedName → Option Secret}
    {view : Cluster → Prop} {answer : Write → Prop} {good : α → Prop} {p : Pass α}
    (hp : p.Ensures secrets view answer good) (hlive : c.IsLive) (hview : view c)
    (hsecrets : c.secrets.get? = secrets) :
    (p.step c).1.Ensures secrets view answer good ∨
      ∃ w, answer w ∧ w.echo (c.version + 1) ∈ (p.step c).2.held := by
  cases p with
  | done | abort | counting => exact .inl hp
  | looking next => exact .inl (hp c hview)
  | reading name next =>
      rw [Pass.step]
      obtain ⟨faults, -, hfetch | ⟨reason, hretriable, hfetch⟩⟩ := c.fetch_cases name
      · rw [hfetch, hsecrets]
        exact .inl hp
      · rw [hfetch]
        exact .inl (hretriable hlive.transient)
  | writing w next =>
      rw [Pass.step]
      obtain ⟨c', -, ⟨hok, hheld⟩ | ⟨reason, hfailed, -, hretriable⟩⟩ :=
        submit_cases hlive w
      · rw [hok]
        refine hp.symm.imp id fun hanswer => ⟨w, hanswer, ?_⟩
        rw [hheld]
        exact List.mem_append_right _ (List.mem_singleton_self _)
      · rw [hfailed]
        exact .inl hretriable

/-- A call of a pass leaves the caches alone, and at most adds a report to those
that are held back. -/
theorem keeps_step {α : Type} (hlive : c.IsLive) (p : Pass α) :
    c.Keeps (p.step c).2 ∧ ∀ report ∈ c.held, report ∈ (p.step c).2.held := by
  cases p with
  | done | abort | looking => exact ⟨Keeps.refl c, fun _ h => h⟩
  | counting series next =>
      exact ⟨⟨rfl, rfl, rfl, rfl, rfl, rfl, le_rfl, fun hlive =>
        ⟨hlive.holding, hlive.watching, hlive.transient⟩⟩, fun _ h => h⟩
  | reading name next =>
      rw [Pass.step]
      obtain ⟨faults, htransient, hfetch | ⟨reason, -, hfetch⟩⟩ := c.fetch_cases name
      · rw [hfetch]
        exact ⟨keeps_facing htransient, fun _ h => h⟩
      · rw [hfetch]
        exact ⟨keeps_facing htransient, fun _ h => h⟩
  | writing w next =>
      rw [Pass.step]
      obtain ⟨c', hkeeps, ⟨hok, hheld⟩ | ⟨reason, hfailed, hheld, -⟩⟩ :=
        submit_cases hlive w
      · rw [hok]
        exact ⟨hkeeps, fun _ h => hheld ▸ List.mem_append_left _ h⟩
      · rw [hfailed]
        exact ⟨hkeeps, fun _ h => hheld ▸ h⟩

end Cluster

end GatewaySync
