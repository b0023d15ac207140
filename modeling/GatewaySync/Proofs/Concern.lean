import GatewaySync.Proofs.Run

/-!
# Nothing that has to be done is forgotten

A concern is something in the caches that passes are to bring in line.  As long
as it is due, somebody sees to it: a key whose pass helps is owed, such a pass
is under way and has not missed it, or the report of a write is still to come
that will bring up such a key.  This holds along every run, and in a quiet state
nobody is left to see to anything, so nothing is due.
-/

namespace GatewaySync

/-- What the reports bring up for the handlers. -/
def Cluster.raised (s : Settings) (c : Cluster) : List (Handler × String) :=
  c.notices.flatMap (Controller.keysFor s)

/-- Something that depends on the caches and that passes bring in line. -/
structure Concern (s : Settings) (secrets : SortedMap NamespacedName Secret) where
  /-- What it depends on. -/
  View : Type
  view : Caches → View
  Due : View → Prop
  /-- A pass for the key sees to it. -/
  Helps : View → Handler → String → Prop
  /-- A write that sees to it. -/
  Answers : View → Write → Prop
  /-- A report that will bring up a key which helps. -/
  Echoes : View → Report → Prop
  /-- A pass that helps and looks at nothing else is run again, makes a write
  that is an answer, or finds nothing due unless it asks for passes that help. -/
  ensures_sync : ∀ {v h key}, Helps v h key →
    (Pass.sync s h key).Ensures secrets.get? (fun c => view c.caches = v) (Answers v)
      fun requeued => Due v → ∃ key ∈ requeued, Helps v .remote key
  echoes_of_answers : ∀ {c : Cluster} {w}, c.Sound → Answers (view c.caches) w →
    Echoes (view c.caches) (w.echo (c.version + 1))
  /-- What matters does not change untold. -/
  view_deliver : ∀ {c : Cluster} {report}, c.Sound → c.Admits report →
    Due (view (c.deliver report).caches) →
    view (c.deliver report).caches = view c.caches ∨
      ∃ key ∈ (c.deliver report).raised s,
        Helps (view (c.deliver report).caches) key.1 key.2
  helps_of_echoes : ∀ {c : Cluster} {report}, c.Sound → c.Admits report →
    Echoes (view c.caches) report →
      ∃ key ∈ (c.deliver report).raised s,
        Helps (view (c.deliver report).caches) key.1 key.2

namespace Concern

variable {s : Settings} {secrets : SortedMap NamespacedName Secret}
  (o : Concern s secrets)

/-- What is left of a pass sees to the concern. -/
def Promises (v : o.View) (rest : Pass (List String)) : Prop :=
  rest.Ensures secrets.get? (fun c => o.view c.caches = v) (o.Answers v)
    fun requeued => o.Due v → ∃ key ∈ requeued, o.Helps v .remote key

/-- Somebody sees to the concern. -/
inductive IsSeenTo (c : Controller) : Prop where
  | owed (h : Handler) (key : String) (howes : (c.lane h).Owes key)
      (hhelps : o.Helps (o.view c.cluster.caches) h key)
  | underWay (h : Handler) (key : String) (rest : Pass (List String))
      (hworker : (c.lane h).worker = .leased key rest)
      (hhelps : o.Helps (o.view c.cluster.caches) h key)
      (hpromises : o.Promises (o.view c.cluster.caches) rest)
  | held (report : Report) (hheld : report ∈ c.cluster.held)
      (hechoes : o.Echoes (o.view c.cluster.caches) report)

variable {o} {c c' : Controller}

/-- In a quiet state nobody is left. -/
theorem not_isSeenTo (hc : c.Sound s secrets) (hquiet : c.IsQuiet) : ¬o.IsSeenTo c := by
  intro hseen
  cases hseen with
  | owed h key howes _ => exact (hc.lanes h).not_owes (hquiet.lanes h) key howes
  | underWay h key rest hworker =>
      have hidle := (hc.lanes h).idle_of_quiet (hquiet.lanes h)
      rw [hworker] at hidle
      cases hidle
  | held report hheld =>
      rw [hquiet.held] at hheld
      cases hheld

/-- Steps that take nothing back leave it to those who see to it. -/
theorem IsSeenTo.of_grows (hseen : o.IsSeenTo c)
    (hview : o.view c'.cluster.caches = o.view c.cluster.caches)
    (hheld : ∀ report ∈ c.cluster.held, report ∈ c'.cluster.held)
    (howes : ∀ h key, (c.lane h).Owes key → (c'.lane h).Owes key)
    (hworker : ∀ h key rest, (c.lane h).worker = .leased key rest →
      (c'.lane h).worker = .leased key rest) : o.IsSeenTo c' := by
  cases hseen with
  | owed h key howed hhelps => exact .owed h key (howes h key howed) (hview ▸ hhelps)
  | underWay h key rest hleased hhelps hpromises =>
      exact .underWay h key rest (hworker h key rest hleased) (hview ▸ hhelps)
        (hview ▸ hpromises)
  | held report hmem hechoes => exact .held report (hheld report hmem) (hview ▸ hechoes)

theorem IsSeenTo.addAll (hseen : o.IsSeenTo c) (keys : List (Handler × String))
    (hopen : ∀ h, (c.lane h).queue.closed = false) : o.IsSeenTo (c.addAll keys) := by
  refine hseen.of_grows ?_ ?_ ?_ ?_
  · rw [Controller.cluster_addAll]
  · rw [Controller.cluster_addAll]
    exact fun _ h => h
  · intro h key howes
    rw [Controller.lane_addAll, Lane.owes_addAll_iff (hopen h)]
    exact .inr howes
  · intro h key rest hworker
    rw [Controller.lane_addAll, Lane.worker_addAll, hworker]

/-- A key that helps and has been added is owed. -/
theorem isSeenTo_of_added {keys : List (Handler × String)}
    (hopen : ∀ h, (c.lane h).queue.closed = false)
    (hkey : ∃ key ∈ keys, o.Helps (o.view c.cluster.caches) key.1 key.2) :
    o.IsSeenTo (c.addAll keys) := by
  obtain ⟨⟨h, key⟩, hmem, hhelps⟩ := hkey
  refine .owed h key ?_ (by rw [Controller.cluster_addAll]; exact hhelps)
  rw [Controller.lane_addAll, Lane.owes_addAll_iff (hopen h)]
  refine .inl (List.mem_map.2 ⟨(h, key), List.mem_filter.2 ⟨hmem, ?_⟩, rfl⟩)
  exact decide_eq_true rfl

/-- A report leaves what matters as it is, or it brings up a key that helps. -/
theorem isSeenTo_onDeliver (hc : c.Sound s secrets) {report : Report}
    {held : List Report} (hadmits : c.cluster.Admits report)
    (hheld : ∀ other ∈ c.cluster.held, other = report ∨ other ∈ held)
    (hseen : o.Due (o.view c.cluster.caches) → o.IsSeenTo c)
    (hdue : o.Due (o.view (c.onCluster fun cluster =>
      Cluster.deliver { cluster with held } report).cluster.caches)) :
    o.IsSeenTo (c.onCluster fun cluster =>
      Cluster.deliver { cluster with held } report) := by
  have hcluster := hc.cluster.setHeld held
  have hadmits' : Cluster.Admits { c.cluster with held } report :=
    Cluster.admits_setHeld.2 hadmits
  have hheld' := (Cluster.frame_deliver (c := { c.cluster with held }) report).2
  rw [Controller.onCluster, Controller.hear_eq] at hdue ⊢
  rw [Controller.cluster_addAll] at hdue
  set delivered : Cluster := Cluster.deliver { c.cluster with held } report with hdelivered
  set heard : Controller := { c with
    cluster := { delivered with notices := [] }
    heard := c.heard ++ delivered.notices } with hheard
  have hlane : ∀ h, heard.lane h = c.lane h := by
    intro h
    cases h <;> rfl
  have hopen : ∀ h, (heard.lane h).queue.closed = false :=
    fun h => hlane h ▸ hc.isOpen h
  have hadded : (∃ key ∈ delivered.raised s,
      o.Helps (o.view delivered.caches) key.1 key.2) →
      o.IsSeenTo (heard.addAll (delivered.notices.flatMap
        (Controller.keysFor c.settings))) := by
    intro hkey
    rw [hc.settings]
    exact isSeenTo_of_added hopen hkey
  rcases o.view_deliver hcluster hadmits' hdue with hview | hkey
  · cases hseen (hview ▸ hdue) with
    | owed h key howes hhelps =>
        refine IsSeenTo.addAll (.owed h key ?_ ?_) _ hopen
        · exact hlane h ▸ howes
        · exact hview ▸ hhelps
    | underWay h key rest hworker hhelps hpromises =>
        refine IsSeenTo.addAll (.underWay h key rest ?_ ?_ ?_) _ hopen
        · exact (congrArg Lane.worker (hlane h)).trans hworker
        · exact hview ▸ hhelps
        · exact hview ▸ hpromises
    | held other hmem hechoes =>
        rcases hheld other hmem with rfl | hmem'
        · exact hadded (o.helps_of_echoes hcluster hadmits' hechoes)
        · refine IsSeenTo.addAll (.held other ?_ ?_) _ hopen
          · exact hheld' ▸ hmem'
          · exact hview ▸ hechoes
  · exact hadded hkey

/-- When a lane changes, only what it saw to has to be taken over. -/
theorem IsSeenTo.setLane (hseen : o.IsSeenTo c) {h : Handler} {l : Lane}
    (howes : ∀ key, (c.lane h).Owes key →
      o.Helps (o.view c.cluster.caches) h key → o.IsSeenTo (c.setLane h l))
    (hworker : ∀ key rest, (c.lane h).worker = .leased key rest →
      o.Helps (o.view c.cluster.caches) h key →
      o.Promises (o.view c.cluster.caches) rest → o.IsSeenTo (c.setLane h l)) :
    o.IsSeenTo (c.setLane h l) := by
  have hcluster : (c.setLane h l).cluster = c.cluster := Controller.cluster_setLane l
  have hother : ∀ {h'}, h' ≠ h → (c.setLane h l).lane h' = c.lane h' := fun hne => by
    rw [Controller.lane_setLane, if_neg hne]
  cases hseen with
  | owed h' key howed hhelps =>
      by_cases hlane : h' = h
      · subst hlane
        exact howes key howed hhelps
      · exact .owed h' key (hother hlane ▸ howed) (hcluster ▸ hhelps)
  | underWay h' key rest hleased hhelps hpromises =>
      by_cases hlane : h' = h
      · subst hlane
        exact hworker key rest hleased hhelps hpromises
      · exact .underWay h' key rest ((congrArg Lane.worker (hother hlane)).trans hleased)
          (hcluster ▸ hhelps) (hcluster ▸ hpromises)
  | held report hmem hechoes => exact .held report (hcluster ▸ hmem) (hcluster ▸ hechoes)

theorem isSeenTo_setLane_of_owes {h : Handler} {l : Lane} {key : String}
    (howes : l.Owes key) (hhelps : o.Helps (o.view c.cluster.caches) h key) :
    o.IsSeenTo (c.setLane h l) := by
  refine .owed h key ?_ (by rw [Controller.cluster_setLane]; exact hhelps)
  rw [Controller.lane_setLane, if_pos rfl]
  exact howes

theorem isSeenTo_setLane_of_worker {h : Handler} {l : Lane} {key : String}
    {rest : Pass (List String)} (hworker : l.worker = .leased key rest)
    (hhelps : o.Helps (o.view c.cluster.caches) h key)
    (hpromises : o.Promises (o.view c.cluster.caches) rest) :
    o.IsSeenTo (c.setLane h l) := by
  refine .underWay h key rest ?_ (by rw [Controller.cluster_setLane]; exact hhelps)
    (by rw [Controller.cluster_setLane]; exact hpromises)
  rw [Controller.lane_setLane, if_pos rfl]
  exact hworker

/-- The pass for a leased key sees to what the key was owed for. -/
theorem IsSeenTo.lease (hc : c.Sound s secrets) {h : Handler}
    (hidle : (c.lane h).worker = .idle) (hseen : o.IsSeenTo c) :
    o.IsSeenTo (c.lease h) := by
  rw [Controller.lease]
  obtain ⟨poll, hnext, hnone⟩ | ⟨k, rest, hopen, hpending, hnext⟩ :=
    (c.lane h).queue.next_cases
  · rw [hnext]
    cases poll with
    | item k => exact absurd rfl (hnone k)
    | closed | pending => exact hseen
  · rw [hnext, hc.settings]
    refine hseen.setLane ?_ ?_
    · intro key howes hhelps
      by_cases hkey : key = k
      · subst hkey
        exact isSeenTo_setLane_of_worker rfl hhelps (o.ensures_sync hhelps)
      · refine isSeenTo_setLane_of_owes (.inl ?_) hhelps
        rcases howes with (hdirty | hdelayed) | ⟨_, hworker, -⟩
        · exact .inl (WorkQueue.mem_without.2 ⟨hdirty, hkey⟩)
        · exact .inr hdelayed
        · rw [hidle] at hworker
          cases hworker
    · intro key rest' hworker
      rw [hidle] at hworker
      cases hworker

/-- When a worker goes on, only what its pass saw to has to be taken over. -/
theorem IsSeenTo.setWorker (hseen : o.IsSeenTo c) {h : Handler} {key : String}
    {rest : Pass (List String)} (hworker : (c.lane h).worker = .leased key rest)
    {w : WorkerState}
    (hrest : o.Helps (o.view c.cluster.caches) h key →
      o.Promises (o.view c.cluster.caches) rest → o.IsSeenTo (c.setWorker h w)) :
    o.IsSeenTo (c.setWorker h w) := by
  refine hseen.setLane ?_ ?_
  · intro key' howes hhelps
    refine .owed h key' (Controller.owes_setWorker hworker howes) ?_
    rw [Controller.cluster_setLane]
    exact hhelps
  · intro key' rest' hworker' hhelps hpromises
    rw [hworker] at hworker'
    cases hworker'
    exact hrest hhelps hpromises

/-- A pass that ends has found nothing due, asks for a pass that helps, or is
going to be repeated. -/
theorem IsSeenTo.endPass (hc : c.Sound s secrets) {h : Handler} {key : String}
    {rest : Pass (List String)} (hworker : (c.lane h).worker = .leased key rest)
    {result : Except Abort (List String)}
    (hresult : (∃ requeued, rest = .done requeued ∧ result = .ok requeued) ∨
      ∃ reason, rest = .abort reason ∧ result = .error reason)
    (hdue : o.Due (o.view c.cluster.caches)) (hseen : o.IsSeenTo c) :
    o.IsSeenTo (c.endPass h key result) := by
  rw [Controller.endPass_eq]
  set keys := (result.toOption.getD []).map fun k => (Handler.remote, k) with hkeys
  have hadded : ((c.addAll keys).lane h).worker = .leased key rest := by
    rw [Controller.lane_addAll, Lane.worker_addAll, hworker]
  apply (hseen.addAll keys hc.isOpen).setWorker hadded
  intro hhelps hpromises
  rw [Controller.cluster_addAll] at hhelps hpromises
  rcases hresult with ⟨requeued, rfl, rfl⟩ | ⟨reason, rfl, rfl⟩
  · obtain ⟨k, hmem, hhelps'⟩ := hpromises hdue
    refine .owed .remote k (Controller.owes_setWorker hadded ?_) ?_
    · rw [Controller.lane_addAll, Lane.owes_addAll_iff (hc.isOpen .remote)]
      refine .inl (List.mem_map.2 ⟨(.remote, k), List.mem_filter.2 ⟨?_, ?_⟩, rfl⟩)
      · exact List.mem_map.2 ⟨k, hmem, rfl⟩
      · exact decide_eq_true rfl
    · rw [Controller.setWorker, Controller.cluster_setLane, Controller.cluster_addAll]
      exact hhelps'
  · apply isSeenTo_setLane_of_owes (.inr ⟨reason, rfl, hpromises⟩)
    rw [Controller.cluster_addAll]
    exact hhelps

/-- A call of a pass keeps its promise, or it makes the write that is an
answer. -/
theorem IsSeenTo.stepPass (hc : c.Sound s secrets) {h : Handler} {key : String}
    {rest : Pass (List String)} (hworker : (c.lane h).worker = .leased key rest)
    (hdue : o.Due (o.view c.cluster.caches)) (hseen : o.IsSeenTo c) :
    o.IsSeenTo (c.stepPass h key rest) := by
  obtain ⟨requeued, hdone, hend⟩ | ⟨reason, habort, hend⟩ | hcall :=
    c.stepPass_cases h key rest
  · rw [hend]
    exact hseen.endPass hc hworker (.inl ⟨requeued, hdone, rfl⟩) hdue
  · rw [hend]
    exact hseen.endPass hc hworker (.inr ⟨reason, habort, rfl⟩) hdue
  · obtain ⟨hkeeps, hheld⟩ := Cluster.keeps_step hc.cluster.live rest
    rw [hcall, Controller.hear_eq]
    set called : Controller := { c with
      cluster := { (rest.step c.cluster).2 with notices := [] }
      heard := c.heard ++ (rest.step c.cluster).2.notices } with hcalled
    have hlane : ∀ h', called.lane h' = c.lane h' := by
      intro h'
      cases h' <;> rfl
    have hview : o.view called.cluster.caches = o.view c.cluster.caches :=
      congrArg o.view hkeeps.caches_eq
    have hbefore : o.IsSeenTo called := by
      refine hseen.of_grows hview hheld ?_ ?_
      · intro h' k howes
        exact hlane h' ▸ howes
      · intro h' k rest' hleased
        exact (congrArg Lane.worker (hlane h')).trans hleased
    have hopen : ∀ h', (called.lane h').queue.closed = false :=
      fun h' => hlane h' ▸ hc.isOpen h'
    have hadded : ∀ keys, ((called.addAll keys).lane h).worker = .leased key rest := by
      intro keys
      rw [Controller.lane_addAll, Lane.worker_addAll, hlane, hworker]
    apply (hbefore.addAll _ hopen).setWorker (hadded _)
    intro hhelps hpromises
    rw [Controller.cluster_addAll, hview] at hhelps hpromises
    rcases Cluster.ensures_step hpromises hc.cluster.live rfl
      (congrArg SortedMap.get? hc.secrets) with hrest | ⟨w, hanswer, hecho⟩
    · refine isSeenTo_setLane_of_worker rfl ?_ ?_
      · rw [Controller.cluster_addAll, hview]
        exact hhelps
      · rw [Controller.cluster_addAll, hview]
        exact hrest
    · refine .held (w.echo (c.cluster.version + 1)) ?_ ?_
      · rw [Controller.setWorker, Controller.cluster_setLane, Controller.cluster_addAll]
        exact hecho
      · rw [Controller.setWorker, Controller.cluster_setLane, Controller.cluster_addAll,
          hview]
        exact o.echoes_of_answers hc.cluster hanswer

/-- A failed pass that is settled is owed again. -/
theorem IsSeenTo.settle (hc : c.Sound s secrets) {h : Handler} {key : String}
    {result : Except Abort Unit} (hworker : (c.lane h).worker = .settling key result)
    (hseen : o.IsSeenTo c) : o.IsSeenTo (c.settle h key result) := by
  obtain ⟨metrics, hsettle⟩ := c.settle_eq h key result
  rw [hsettle]
  have hcounted : o.IsSeenTo
      ({ c with cluster := { c.cluster with metrics } } : Controller) := by
    refine hseen.of_grows rfl (fun _ hmem => hmem) ?_ ?_
    · intro h' k howes
      rw [Controller.lane_setCluster]
      exact howes
    · intro h' k rest hleased
      rw [Controller.lane_setCluster]
      exact hleased
  refine hcounted.setLane ?_ ?_
  · intro key' howes hhelps
    refine isSeenTo_setLane_of_owes (.inl ?_) hhelps
    rw [WorkQueue.owes_release_iff, WorkQueue.owes_afterPass_iff (hc.isOpen h)]
    rw [Controller.lane_setCluster] at howes
    rcases howes with howes | ⟨reason, hsettling, hretriable⟩
    · exact .inr howes
    · rw [hworker] at hsettling
      cases hsettling
      exact .inl ⟨rfl, reason, rfl, hretriable⟩
  · intro key' rest hleased
    rw [Controller.lane_setCluster, hworker] at hleased
    cases hleased

/-- Whatever happens next, what is due then is seen to. -/
theorem isSeenTo_step (hc : c.Sound s secrets) (hstep : Controller.Step c c')
    (hup : c'.isUp) (hseen : o.Due (o.view c.cluster.caches) → o.IsSeenTo c)
    (hdue : o.Due (o.view c'.cluster.caches)) : o.IsSeenTo c' := by
  have hrephased : ∀ {c'}, c.Rephased c' → o.Due (o.view c'.cluster.caches) →
      o.IsSeenTo c' := by
    rintro c' ⟨-, phase, rfl⟩ hdue
    refine (hseen hdue).of_grows rfl (fun _ hmem => hmem) ?_ ?_
    · intro h k howes
      cases h <;> exact howes
    · intro h k rest hleased
      cases h <;> exact hleased
  cases hstep with
  | report report hadmits =>
      exact isSeenTo_onDeliver hc hadmits (fun _ hmem => .inr hmem) hseen hdue
  | @echo before after report hheld hadmits =>
      refine isSeenTo_onDeliver hc hadmits (fun other hmem => ?_) hseen hdue
      rw [hheld] at hmem
      rcases List.mem_append.1 hmem with hmem | hmem
      · exact .inr (List.mem_append_left _ hmem)
      · exact (List.mem_cons.1 hmem).imp id (List.mem_append_right _)
  | elsewhere hkeeps hheld =>
      have hview := congrArg o.view hkeeps.caches_eq
      refine (hseen (hview ▸ hdue)).of_grows hview (fun _ hmem => hheld ▸ hmem) ?_ ?_
      · intro h k howes
        rw [Controller.lane_setCluster]
        exact howes
      · intro h k rest hleased
        rw [Controller.lane_setCluster]
        exact hleased
  | lease hworkers hidle =>
      refine (hseen ?_).lease hc hidle
      rw [Controller.cluster_lease] at hdue
      exact hdue
  | call hworker =>
      rw [Controller.caches_stepPass hc.cluster.live] at hdue
      exact (hseen hdue).stepPass hc hworker hdue
  | @settle h key result hworker =>
      refine (hseen ?_).settle hc hworker
      obtain ⟨metrics, hsettle⟩ := c.settle_eq h key result
      rw [hsettle, Controller.cluster_setLane] at hdue
      exact hdue
  | advance hlater =>
      refine (hseen hdue).of_grows rfl (fun _ hmem => hmem) ?_ ?_
      · intro h k howes
        rw [Controller.lane_advanceTo]
        refine howes.imp (fun howes => ?_) id
        exact (WorkQueue.owes_advanceTo_iff (hc.isOpen h) _).2 howes
      · intro h k rest hleased
        rw [Controller.lane_advanceTo]
        exact hleased
  | move m => exact hrephased ((Controller.proceeds_move _ m).rephased hup) hdue

/-- In a quiet state that a run reaches nothing is due, if nothing is due with
empty caches. -/
theorem not_due_of_quiet {cluster : Cluster} (o : Concern s cluster.secrets)
    (hfresh : cluster.IsFresh) (hfirst : ¬o.Due (o.view cluster.caches))
    (hrun : Controller.Run (Controller.create s cluster) c) (hup : c.isUp)
    (hquiet : c.IsQuiet) : ¬o.Due (o.view c.cluster.caches) := by
  obtain ⟨hc, hseen⟩ := Controller.Run.induction
    (motive := fun c => o.Due (o.view c.cluster.caches) → o.IsSeenTo c) hfresh
    (fun hdue => absurd hdue hfirst)
    (fun _ _ hc hstep hup hseen hdue => isSeenTo_step hc hstep hup hseen hdue) hrun hup
  exact fun hdue => not_isSeenTo hc hquiet (hseen hdue)

end Concern

end GatewaySync
