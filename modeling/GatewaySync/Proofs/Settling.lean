import GatewaySync.Proofs.Installation
import GatewaySync.Proofs.Outstanding
import GatewaySync.Proofs.Underway
import GatewaySync.Proofs.Weights
import Mathlib.Data.Prod.Lex

/-!
# The controller settles

When nothing happens from outside and no call fails, the controller comes to
rest, in whichever order the keys are taken.  Every write brings up more keys,
so the number of keys is no measure.  But a write leaves less outstanding, and a
pass that writes nothing brings up no key, except that a pass for the gateway
asks for passes of Remotes.  So what decreases is, in this order, the number of
objects to write, the work left in the gateway's lane, and the work left in the
other two.  A pass that was half way through may still do what has to be done
again.  It can only end once, so that comes first.
-/

namespace GatewaySync

/-! ## What happens when nobody interferes -/

namespace Controller

/-- The wall clock shows something else. -/
def setClock (c : Controller) (clock : Int) : Controller :=
  { c with cluster := { c.cluster with clock } }

/-- What can happen next in a controller that is left alone.  A worker takes any
of the pending keys, and its pass runs to its end, whatever the time is. -/
inductive SettlingStep : Controller → Controller → Prop where
  | lease {c : Controller} {h : Handler} {key : String} {others : List String}
      (hready : c.isReady) (hidle : (c.lane h).worker = .idle)
      (hpending : (key :: others).Perm (c.lane h).queue.pending) :
      SettlingStep c
        ((c.mapQueue h fun q => { q with pending := key :: others }).lease h)
  | pass {c : Controller} {h : Handler} {key : String} {rest : Pass (List String)}
      (hworker : (c.lane h).worker = .leased key rest) (clock : Int) :
      SettlingStep c ((c.setClock clock).runPass h key rest)
  | settle {c : Controller} {h : Handler} {key : String} {result : Except Abort Unit}
      (hworker : (c.lane h).worker = .settling key result) :
      SettlingStep c (c.settle h key result)
  /-- Time passes until some key is due. -/
  | advance {c : Controller} {h : Handler} {timer : Timer String} {instant : Nanos}
      (hlater : c.now ≤ instant) (htimer : timer ∈ (c.lane h).queue.delayed)
      (hdue : timer.due ≤ instant) : SettlingStep c (c.advanceTo instant)

/-- A worker has made calls of a pass that has not ended. -/
def IsHalfway (s : Settings) (c : Controller) (h : Handler) : Prop :=
  ∃ key rest, (c.lane h).worker = .leased key rest ∧ rest ≠ Pass.sync s h key

/-- The workers run, the cluster is calm, and every change has been heard of. -/
structure IsSettling (s : Settings) (c : Controller) : Prop extends c.IsOrderly where
  settings : c.settings = s
  ready : c.isReady
  cluster : c.cluster.IsCalm s
  heard : c.cluster.notices = []
  legible : c.WritesLegibly

variable {s : Settings} {c c' : Controller}

/-- The keys of a queue may be put in any order. -/
theorem IsOrderly.permute (hc : c.IsOrderly) {h : Handler} {pending : List String}
    (hperm : pending.Perm (c.lane h).queue.pending) :
    (c.mapQueue h fun q => { q with pending }).IsOrderly := by
  obtain ⟨⟨hnodup, hdirty, hfree, hcovered⟩, hleased⟩ := hc.lanes h
  refine hc.setLane ⟨⟨hperm.nodup_iff.2 hnodup, ?_, ?_, ?_⟩, hleased⟩ (hc.isOpen h)
  · exact fun k hk => hdirty k (hperm.mem_iff.1 hk)
  · exact fun k hk => hfree k (hperm.mem_iff.1 hk)
  · exact fun k hk => (hcovered k hk).imp hperm.mem_iff.2 id

theorem lease_permuted {h : Handler} {key : String} {others : List String}
    (hopen : (c.lane h).queue.closed = false) :
    (c.mapQueue h fun q => { q with pending := key :: others }).lease h =
      c.setLane h ((c.lane h).taking key others (Pass.sync c.settings h key)) := by
  have hlane : (c.mapQueue h fun q => { q with pending := key :: others }).lane h =
      { c.lane h with queue := { (c.lane h).queue with pending := key :: others } } := by
    rw [lane_mapQueue, if_pos rfl]
  rw [lease_of_pending (by rw [hlane]; exact hopen) (by rw [hlane]), hlane]
  cases h <;> rfl

/-- A pass makes progress, and then the keys are added that its writes bring up
and that it asks for. -/
theorem runPass_cases (hc : c.IsSettling s) (h : Handler) (key : String) :
    ∃ result ws cluster, c.cluster.Progress s ws cluster ∧
      (∀ reason, result = .error reason → reason.isRetriable = false) ∧
      (h ≠ .gateway → result.toOption.getD [] = []) ∧
      c.runPass h key (Pass.sync s h key) =
        (hear { c with cluster }).endPass h key result := by
  obtain ⟨result, ws, cluster, hperform, hprogress, hgood⟩ :=
    Cluster.advances_sync hc.cluster h key
  refine ⟨result, ws, cluster, hprogress, ?_, ?_, ?_⟩
  · rintro reason rfl
    exact hgood
  · intro hne
    cases result with
    | ok requeued => exact hgood hne
    | error reason => rfl
  · rw [runPass, hperform]

/-! ## What decreases -/

/-- What is left to do when no pass is half way through. -/
noncomputable def load (s : Settings) (c : Controller) : ℕ ×ₗ ℕ ×ₗ ℕ :=
  toLex ({target | c.cluster.IsOutstanding s target}.ncard,
    toLex ((c.lane .gateway).weight, (c.lane .remote).weight + (c.lane .configMap).weight))

/-- The load is less if a lane has less work and none has more. -/
theorem load_lt_of_lanes
    (houtstanding : {target | c'.cluster.IsOutstanding s target}.ncard ≤
      {target | c.cluster.IsOutstanding s target}.ncard)
    (hle : ∀ h, (c'.lane h).weight ≤ (c.lane h).weight) {h : Handler}
    (hlt : (c'.lane h).weight < (c.lane h).weight) : c'.load s < c.load s := by
  refine Prod.Lex.toLex_lt_toLex'.2 ⟨houtstanding, fun _ => ?_⟩
  refine Prod.Lex.toLex_lt_toLex'.2 ⟨hle .gateway, fun hgateway => ?_⟩
  have hremote := hle .remote
  have hconfigMap := hle .configMap
  dsimp only at hgateway ⊢
  cases h <;> omega

/-- It is less if the gateway's lane has less work, whatever the others get. -/
theorem load_lt_of_gateway
    (houtstanding : {target | c'.cluster.IsOutstanding s target}.ncard ≤
      {target | c.cluster.IsOutstanding s target}.ncard)
    (hlt : (c'.lane .gateway).weight < (c.lane .gateway).weight) : c'.load s < c.load s :=
  Prod.Lex.toLex_lt_toLex'.2 ⟨houtstanding, fun _ =>
    Prod.Lex.toLex_lt_toLex.2 (.inl hlt)⟩

/-- It is less if one lane changes, and has less work then. -/
theorem load_setLane_lt {h : Handler} {l : Lane} (cluster : Cluster)
    (houtstanding : {target | cluster.IsOutstanding s target}.ncard ≤
      {target | c.cluster.IsOutstanding s target}.ncard)
    (hlt : l.weight < (c.lane h).weight) :
    (setLane { c with cluster } h l).load s < c.load s := by
  refine load_lt_of_lanes (h := h) (by rw [cluster_setLane]; exact houtstanding) ?_ ?_
  · intro h'
    rw [lane_setLane]
    split
    · rename_i heq
      exact heq ▸ hlt.le
    · rw [lane_setCluster]
  · rw [lane_setLane, if_pos rfl]
    exact hlt

/-- What decreases with every step. -/
noncomputable def rank (s : Settings) (c : Controller) : ℕ ×ₗ ℕ ×ₗ ℕ ×ₗ ℕ :=
  toLex ({h | c.IsHalfway s h}.ncard, c.load s)

/-- Every pass was under way before or is about to begin. -/
def Continues (s : Settings) (c c' : Controller) : Prop :=
  ∀ h key rest, (c'.lane h).worker = .leased key rest →
    (c.lane h).worker = .leased key rest ∨ rest = Pass.sync s h key

theorem finite_handlers (handlers : Set Handler) : handlers.Finite :=
  (List.finite_toSet Handler.all).subset fun h _ => by cases h <;> simp [Handler.all]

namespace Continues

/-- A lane that changes alone may begin a pass. -/
theorem of_setLane (cluster : Cluster) {h : Handler} {l : Lane}
    (hbegins : ∀ key rest, l.worker = .leased key rest → rest = Pass.sync s h key) :
    Continues s c (setLane { c with cluster } h l) := by
  intro h' key rest hworker
  rw [lane_setLane] at hworker
  split at hworker
  · rename_i heq
    exact .inr (heq ▸ hbegins key rest hworker)
  · rw [lane_setCluster] at hworker
    exact .inl hworker

theorem isHalfway (hcontinues : Continues s c c') {h : Handler}
    (hhalfway : c'.IsHalfway s h) : c.IsHalfway s h := by
  obtain ⟨key, rest, hworker, hne⟩ := hhalfway
  exact ⟨key, rest, (hcontinues h key rest hworker).resolve_right hne, hne⟩

theorem legible (hcontinues : Continues s c c') (hc : c.WritesLegibly) :
    c'.WritesLegibly := by
  intro h key rest hworker
  obtain hbefore | rfl := hcontinues h key rest hworker
  · exact hc h key rest hbefore
  · exact Pass.writesLegibly_sync s h key

theorem rank_lt_of_load (hcontinues : Continues s c c') (hload : c'.load s < c.load s) :
    c'.rank s < c.rank s :=
  Prod.Lex.toLex_lt_toLex'.2
    ⟨Set.ncard_le_ncard (fun _ => hcontinues.isHalfway) (finite_handlers _), fun _ => hload⟩

/-- A pass that was half way through ends only once. -/
theorem rank_lt_of_halfway (hcontinues : Continues s c c') {h : Handler}
    (hhalfway : c.IsHalfway s h) (hended : ¬c'.IsHalfway s h) : c'.rank s < c.rank s := by
  refine Prod.Lex.toLex_lt_toLex.2 (.inl (Set.ncard_lt_ncard ?_ (finite_handlers _)))
  exact ⟨fun _ => hcontinues.isHalfway, fun hsubset => hended (hsubset hhalfway)⟩

end Continues

/-- One step nearer to rest. -/
structure Descends (s : Settings) (c c' : Controller) : Prop where
  settling : c'.IsSettling s
  continues : Continues s c c'
  rank_lt : c'.rank s < c.rank s
  progress : (∀ h, ¬c.IsHalfway s h) → ∃ ws, c.cluster.Progress s ws c'.cluster

/-! ## The time of day -/

@[simp]
theorem lane_setClock (clock : Int) (h : Handler) : (c.setClock clock).lane h = c.lane h :=
  lane_setCluster _

theorem IsSettling.setClock (hc : c.IsSettling s) (clock : Int) :
    (c.setClock clock).IsSettling s where
  toIsOrderly := hc.setCluster _
  settings := hc.settings
  ready := hc.ready
  cluster := hc.cluster.of_replicas rfl rfl rfl rfl rfl hc.cluster.spares
  heard := hc.heard
  legible h key rest hworker := hc.legible h key rest (lane_setClock clock h ▸ hworker)

/-- Nothing that has to be done depends on the time. -/
theorem Descends.of_setClock {clock : Int} (hdescends : Descends s (c.setClock clock) c') :
    Descends s c c' where
  settling := hdescends.settling
  continues h key rest hworker := by
    rw [← lane_setClock clock]
    exact hdescends.continues h key rest hworker
  rank_lt := by
    have hhalfway : ∀ h, (c.setClock clock).IsHalfway s h = c.IsHalfway s h := fun h => by
      rw [IsHalfway, IsHalfway, lane_setClock]
    have hrank := hdescends.rank_lt
    simp only [rank, hhalfway] at hrank
    exact hrank
  progress hnone := by
    obtain ⟨ws, hprogress⟩ := hdescends.progress fun h => by
      rw [IsHalfway, lane_setClock]
      exact hnone h
    exact ⟨ws, hprogress.calm, hprogress.writes, hprogress.nodup, hprogress.due,
      hprogress.done, hprogress.shrinks, hprogress.silent⟩

/-! ## Every step -/

namespace IsSettling

variable {h : Handler} {key : String}

theorem lease (hc : c.IsSettling s) {others : List String}
    (hidle : (c.lane h).worker = .idle)
    (hpending : (key :: others).Perm (c.lane h).queue.pending) :
    Descends s c ((c.mapQueue h fun q => { q with pending := key :: others }).lease h) := by
  have hidle' : ((c.mapQueue h fun q => { q with pending := key :: others }).lane h).worker =
      .idle := by
    rw [lane_mapQueue, if_pos rfl]
    exact hidle
  have horderly := (hc.permute hpending).lease hidle'
  rw [lease_permuted (hc.isOpen h)] at horderly ⊢
  have hcontinues := Continues.of_setLane (s := s) (c := c) c.cluster (h := h)
    (l := (c.lane h).taking key others (Pass.sync c.settings h key)) fun _ _ hworker => by
    obtain ⟨rfl, rfl⟩ := WorkerState.leased.inj hworker
    rw [hc.settings]
  refine ⟨⟨horderly, ?_, ?_, ?_, ?_, hcontinues.legible hc.legible⟩, hcontinues,
    hcontinues.rank_lt_of_load ?_, fun _ => ⟨[], ?_⟩⟩
  · rw [settings_setLane]
    exact hc.settings
  · rw [isReady, phase_setLane]
    exact hc.ready
  · rw [cluster_setLane]
    exact hc.cluster
  · rw [cluster_setLane]
    exact hc.heard
  · have hdirty : key ∈ (c.lane h).queue.dirty :=
      (hc.lanes h).queue.dirty_of_pending key (hpending.mem_iff.1 List.mem_cons_self)
    exact load_setLane_lt (c := c) c.cluster le_rfl
      (Lane.weight_taking_lt others _ hidle hdirty)
  · rw [cluster_setLane]
    exact .refl hc.cluster

/-- A pass that leaves the cluster calm ends with everything in order. -/
theorem endPass (hc : c.IsSettling s) {rest : Pass (List String)}
    (hworker : (c.lane h).worker = .leased key rest) {cluster : Cluster}
    (hcalm : cluster.IsCalm s) (result : Except Abort (List String)) :
    let c' := (hear { c with cluster }).endPass h key result
    c'.IsSettling s ∧ Continues s c c' ∧ ¬c'.IsHalfway s h := by
  intro c'
  have hafter : ∀ h', (c'.lane h').worker =
      if h' = h then .settling key (result.map fun _ => ()) else (c.lane h').worker := by
    intro h'
    rw [worker_endPass, worker_hear, lane_setCluster]
  have hleased : ((hear { c with cluster }).lane h).worker = .leased key rest := by
    rw [worker_hear, lane_setCluster]
    exact hworker
  have hcontinues : Continues s c c' := by
    intro h' key' rest' hworker'
    rw [hafter] at hworker'
    split at hworker'
    · cases hworker'
    · exact .inl hworker'
  refine ⟨⟨(hc.setCluster cluster).hear.endPass hleased result, ?_, ?_, ?_, ?_,
    hcontinues.legible hc.legible⟩, hcontinues, ?_⟩
  · rw [settings_endPass, settings_hear]
    exact hc.settings
  · rw [isReady, phase_endPass, phase_hear]
    exact hc.ready
  · rw [cluster_endPass, cluster_hear]
    exact hcalm.of_replicas rfl rfl rfl rfl rfl hcalm.spares
  · rw [cluster_endPass, cluster_hear]
  · rintro ⟨key', rest', hworker', -⟩
    rw [hafter, if_pos rfl] at hworker'
    cases hworker'

/-- A pass that writes something leaves less outstanding.  One that writes
nothing brings up nothing, and only the gateway's asks for other passes. -/
theorem load_endPass_lt (hc : c.IsSettling s) {rest : Pass (List String)}
    (hworker : (c.lane h).worker = .leased key rest)
    {result : Except Abort (List String)} {ws : List Write} {cluster : Cluster}
    (hprogress : c.cluster.Progress s ws cluster)
    (hfinal : ∀ reason, result = .error reason → reason.isRetriable = false)
    (hnone : h ≠ .gateway → result.toOption.getD [] = []) :
    ((hear { c with cluster }).endPass h key result).load s < c.load s := by
  have hcluster : ((hear { c with cluster }).endPass h key result).cluster =
      { cluster with notices := [] } := by
    rw [cluster_endPass, cluster_hear]
  by_cases hws : ws = []
  · have hsilent : cluster.notices = [] := (hprogress.silent hws).trans hc.heard
    have houtstanding := hprogress.ncard_le hc.cluster
    have hheard : ∀ h', (hear { c with cluster }).lane h' = c.lane h' := by
      intro h'
      rw [hear_of_silent (c := { c with cluster }) hsilent, lane_setCluster]
    have hweight : Lane.weight { (hear { c with cluster }).lane h with
        worker := .settling key (result.map fun _ => ()) } < (c.lane h).weight := by
      rw [Lane.weight, Lane.weight, WorkerState.weight_settling hfinal, hworker, hheard]
      exact Nat.lt_succ_self _
    by_cases hgateway : h = .gateway
    · subst hgateway
      apply load_lt_of_gateway (by rw [hcluster]; exact houtstanding)
      have hother : Handler.gateway ≠ .remote := by decide
      rw [lane_endPass_of_none key (.inl hother), if_pos rfl]
      exact hweight
    · have hlane : ∀ h', ((hear { c with cluster }).endPass h key result).lane h' = _ :=
        fun _ => lane_endPass_of_none key (.inr (hnone hgateway))
      refine load_lt_of_lanes (h := h) (by rw [hcluster]; exact houtstanding) (fun h' => ?_) ?_
      · rw [hlane]
        split
        · rename_i heq
          exact heq ▸ hweight.le
        · rw [hheard]
      · rw [hlane, if_pos rfl]
        exact hweight
  · refine Prod.Lex.toLex_lt_toLex.2 (.inl ?_)
    rw [hcluster]
    exact hprogress.ncard_lt hc.cluster hws

/-- What is left of a pass is run to its end. -/
theorem runPass (hc : c.IsSettling s) {rest : Pass (List String)}
    (hworker : (c.lane h).worker = .leased key rest) :
    Descends s c (c.runPass h key rest) := by
  by_cases hwhole : rest = Pass.sync s h key
  · subst hwhole
    obtain ⟨result, ws, cluster, hprogress, hfinal, hnone, hrun⟩ := runPass_cases hc h key
    obtain ⟨hsettling, hcontinues, -⟩ := hc.endPass hworker hprogress.calm result
    rw [hrun]
    refine ⟨hsettling, hcontinues, hcontinues.rank_lt_of_load ?_, fun _ => ⟨ws, ?_⟩⟩
    · exact hc.load_endPass_lt hworker hprogress hfinal hnone
    · rw [cluster_endPass, cluster_hear]
      exact hprogress.hear hc.heard
  · have hcalm := hc.cluster.perform (hc.legible h key rest hworker)
    have hhalfway : c.IsHalfway s h := ⟨key, rest, hworker, hwhole⟩
    rw [Controller.runPass]
    cases hperform : c.cluster.perform rest with
    | mk result cluster =>
        rw [hperform] at hcalm
        obtain ⟨hsettling, hcontinues, hended⟩ := hc.endPass hworker hcalm result
        exact ⟨hsettling, hcontinues, hcontinues.rank_lt_of_halfway hhalfway hended,
          fun hnone => absurd hhalfway (hnone h)⟩

theorem settle (hc : c.IsSettling s) {result : Except Abort Unit}
    (hworker : (c.lane h).worker = .settling key result) :
    Descends s c (c.settle h key result) := by
  have horderly := hc.toIsOrderly.settle hworker
  obtain ⟨metrics, hsettle⟩ := c.settle_eq h key result
  have hprogress := (Cluster.Progress.refl hc.cluster).setMetrics metrics
  rw [hsettle] at horderly ⊢
  have hcontinues := Continues.of_setLane (s := s) (c := c) { c.cluster with metrics } (h := h)
    (l := { queue := ((c.lane h).queue.afterPass key result).release key }) nofun
  refine ⟨⟨horderly, ?_, ?_, ?_, ?_, hcontinues.legible hc.legible⟩, hcontinues,
    hcontinues.rank_lt_of_load ?_, fun _ => ⟨[], ?_⟩⟩
  · rw [settings_setLane]
    exact hc.settings
  · rw [isReady, phase_setLane]
    exact hc.ready
  · rw [cluster_setLane]
    exact hprogress.calm
  · rw [cluster_setLane]
    exact hc.heard
  · exact load_setLane_lt _ le_rfl (Lane.weight_afterPass_lt hworker)
  · rw [cluster_setLane]
    exact hprogress

theorem advanceTo (hc : c.IsSettling s) {timer : Timer String} {instant : Nanos}
    (htimer : timer ∈ (c.lane h).queue.delayed) (hdue : timer.due ≤ instant) :
    Descends s c (c.advanceTo instant) := by
  have hle : ∀ h', ((c.advanceTo instant).lane h').weight +
      ((c.lane h').queue.delayed.filter fun timer => timer.due ≤ instant).length ≤
        (c.lane h').weight := by
    intro h'
    have hqueue := (c.lane h').queue.weight_advanceTo_add_le instant
    rw [lane_advanceTo, Lane.weight, Lane.weight]
    dsimp only
    omega
  have hfires : 0 <
      ((c.lane h).queue.delayed.filter fun timer => timer.due ≤ instant).length :=
    List.length_pos_of_mem (List.mem_filter.2 ⟨htimer, by simpa using hdue⟩)
  have hcontinues : Continues s c (c.advanceTo instant) := by
    intro h' key' rest hworker
    rw [lane_advanceTo] at hworker
    exact .inl hworker
  refine ⟨⟨hc.toIsOrderly.advanceTo instant, hc.settings, hc.ready, hc.cluster, hc.heard,
    hcontinues.legible hc.legible⟩, hcontinues, hcontinues.rank_lt_of_load ?_,
    fun _ => ⟨[], .refl hc.cluster⟩⟩
  refine load_lt_of_lanes (h := h) le_rfl (fun h' => ?_) ?_
  · calc ((c.advanceTo instant).lane h').weight
      _ ≤ ((c.advanceTo instant).lane h').weight + _ := Nat.le_add_right _ _
      _ ≤ (c.lane h').weight := hle h'
  · have hstrict := hle h
    omega

theorem step (hc : c.IsSettling s) (hstep : SettlingStep c c') : Descends s c c' := by
  cases hstep with
  | lease hready hidle hpending => exact hc.lease hidle hpending
  | pass hworker clock =>
      refine Descends.of_setClock ((hc.setClock clock).runPass ?_)
      rw [lane_setClock]
      exact hworker
  | settle hworker => exact hc.settle hworker
  | advance hlater htimer hdue => exact hc.advanceTo htimer hdue

/-- No run goes on for ever. -/
theorem acc (hc : c.IsSettling s) : Acc (fun c' c => SettlingStep c c') c := by
  induction hrank : c.rank s using WellFoundedLT.induction generalizing c with
  | ind rank ih =>
      refine .intro _ fun c' hstep => ?_
      have hdescends := hc.step hstep
      exact ih _ (hrank ▸ hdescends.rank_lt) hdescends.settling rfl

/-- What the steps of a run write adds up once no pass is half way through. -/
theorem run (hc : c.IsSettling s) (hrun : Relation.ReflTransGen SettlingStep c c') :
    c'.IsSettling s ∧ ((∀ h, ¬c.IsHalfway s h) →
      (∀ h, ¬c'.IsHalfway s h) ∧ ∃ ws, c.cluster.Progress s ws c'.cluster) := by
  induction hrun with
  | refl => exact ⟨hc, fun hnone => ⟨hnone, [], .refl hc.cluster⟩⟩
  | tail _ hlast ih =>
      obtain ⟨hsettling, hwhole⟩ := ih
      have hdescends := hsettling.step hlast
      refine ⟨hdescends.settling, fun hnone => ?_⟩
      obtain ⟨hnone', ws, hprogress⟩ := hwhole hnone
      obtain ⟨ws', hprogress'⟩ := hdescends.progress hnone'
      refine ⟨fun h hhalfway => hnone' h (hdescends.continues.isHalfway hhalfway),
        ws ++ ws', hprogress.trans hprogress'⟩

/-- A controller that cannot go on has nothing left to do. -/
theorem isQuiet_or_step (hc : c.IsSettling s) : c.IsQuiet ∨ ∃ c', SettlingStep c c' := by
  by_cases hstuck : ∃ c', SettlingStep c c'
  · exact .inr hstuck
  · left
    refine ⟨fun h => ?_, hc.cluster.held⟩
    have hidle : (c.lane h).worker = .idle := by
      cases hworker : (c.lane h).worker with
      | idle => rfl
      | leased key rest => exact absurd ⟨_, .pass hworker 0⟩ hstuck
      | settling key result => exact absurd ⟨_, .settle hworker⟩ hstuck
    refine ⟨?_, (hc.lanes h).leased_of_idle hidle, ?_⟩
    · cases hpending : (c.lane h).queue.pending with
      | nil => rfl
      | cons key others =>
          exact absurd ⟨_, .lease hc.ready hidle (List.Perm.of_eq hpending.symm)⟩ hstuck
    · rw [List.eq_nil_iff_forall_not_mem]
      intro timer htimer
      exact hstuck ⟨_, .advance (le_max_left c.now timer.due) htimer (le_max_right _ _)⟩

end IsSettling

/-- Once writes are reported at once, a run that has come to a level cluster can
be left alone. -/
theorem isSettling_of_run {cluster : Cluster} (hfresh : cluster.IsFresh)
    (hrun : FreeRun (create s cluster) c) (hready : c.isReady)
    (hlevel : c.cluster.IsLevel s) : (c.onCluster Cluster.release).IsSettling s := by
  obtain ⟨⟨secrets, hc⟩, hlegible⟩ := FreeRun.sound hfresh hrun (isUp_of_isReady hready)
  have hreleased : c.cluster.release = { c.cluster with holding := false } := by
    rw [Cluster.release, hlevel.held]
    exact congrArg (fun held => { c.cluster with holding := false, held }) hlevel.held.symm
  have hsilent : c.cluster.release.notices = [] := by
    rw [hreleased]
    exact hc.cluster.notices
  rw [onCluster, hear_of_silent (c := { c with cluster := c.cluster.release }) hsilent,
    hreleased]
  exact {
    toIsOrderly := hc.setCluster _
    settings := hc.settings
    ready := hready
    cluster := { hlevel with
      soundRemotes := hc.cluster.remotes
      soundConfigMaps := hc.cluster.configMaps
      soundDeployments := hc.cluster.deployments
      echoing := rfl
      watching := hc.cluster.live.watching }
    heard := hc.cluster.notices
    legible := fun h key rest hworker => hlegible h key rest (by
      rw [lane_setCluster] at hworker
      exact hworker) }

/-- A run may reach any state in which the workers run and the caches show what
the server holds.  From there on nothing happens from outside and no call fails.
Then the controller cannot go on for ever, and as long as it is not quiet it can
go on.  From the moment at which no pass is half way through, no object is
written twice. -/
theorem settles_of_isLevel (s : Settings) {cluster : Cluster} {c : Controller}
    (hfresh : cluster.IsFresh) (hrun : FreeRun (create s cluster) c) (hready : c.isReady)
    (hlevel : c.cluster.IsLevel s) :
    Acc (fun c' c => SettlingStep c c') (c.onCluster Cluster.release) ∧
    ∀ c', Relation.ReflTransGen SettlingStep (c.onCluster Cluster.release) c' →
      (c'.IsQuiet ∨ ∃ c'', SettlingStep c' c'') ∧
      ((∀ h, ¬c'.IsHalfway s h) → ∀ c'', Relation.ReflTransGen SettlingStep c' c'' →
        ∃ ws, c''.cluster.writes = c'.cluster.writes ++ ws ∧
          (ws.map Write.target).Nodup) := by
  have hc := isSettling_of_run hfresh hrun hready hlevel
  refine ⟨hc.acc, fun c' hsteps => ?_⟩
  obtain ⟨hc', -⟩ := hc.run hsteps
  refine ⟨hc'.isQuiet_or_step, fun hnone c'' hsteps' => ?_⟩
  obtain ⟨-, ws, hprogress⟩ := (hc'.run hsteps').2 hnone
  exact ⟨ws, hprogress.writes, hprogress.nodup⟩

/-- An installation whose ConfigMap holds another document and whose Remote has
no status comes to rest, and nothing is written twice. -/
theorem settles_of_isLevel_installation :
    let cluster := Installation.cluster (Installation.remote none) (Installation.configMap "")
    ∃ c, cluster.IsFresh ∧ FreeRun (create {} cluster) c ∧ c.isReady ∧
      c.cluster.IsLevel {} ∧ (∀ h, (c.lane h).queue.pending = [Installation.key h]) ∧
      let settling := c.onCluster Cluster.release
      Acc (fun c' c => SettlingStep c c') settling ∧
      ∀ c', Relation.ReflTransGen SettlingStep settling c' →
        (c'.IsQuiet ∨ ∃ c'', SettlingStep c' c'') ∧
        ∃ ws, c'.cluster.writes = settling.cluster.writes ++ ws ∧
          (ws.map Write.target).Nodup := by
  intro cluster
  have hfresh : cluster.IsFresh := Installation.isFresh_cluster _ _
  obtain ⟨c, hrun, hready, hcluster, hlane⟩ := Installation.exists_run_listed none ""
  have hlevel : c.cluster.IsLevel {} := hcluster ▸ Installation.isLevel_cluster _ _
  have hidle : ∀ h, ((c.onCluster Cluster.release).lane h).worker = .idle := by
    intro h
    rw [onCluster, worker_hear, lane_setCluster]
    exact (hlane h).2.2.2
  have hwhole : ∀ h, ¬(c.onCluster Cluster.release).IsHalfway {} h := by
    rintro h ⟨key, rest, hworker, -⟩
    rw [hidle] at hworker
    cases hworker
  obtain ⟨hacc, hsettles⟩ :=
    settles_of_isLevel {} hfresh (freeRun_of_run hrun) hready hlevel
  refine ⟨c, hfresh, freeRun_of_run hrun, hready, hlevel, fun h => (hlane h).1, hacc, ?_⟩
  intro c' hsteps
  exact ⟨(hsettles c' hsteps).1, (hsettles _ .refl).2 hwhole c' hsteps⟩

/-! ## A pass that was overtaken -/

/-- The next call of the pass is a write. -/
def isWriting (c : Controller) (h : Handler) : Bool :=
  (c.lane h).worker matches .leased _ (.writing _ _)

/-- No pass begins with a write. -/
theorem isHalfway_of_isWriting {h : Handler} (hwriting : c.isWriting h = true) :
    c.IsHalfway s h := by
  rw [isWriting] at hwriting
  split at hwriting
  · rename_i key w next hworker
    refine ⟨key, _, hworker, fun heq => ?_⟩
    cases h with
    | remote =>
        rw [Pass.sync, Pass.syncRemote, Pass.parseKey] at heq
        split at heq <;> cases heq
    | gateway =>
        rw [Pass.sync, Pass.syncGateway, Pass.parseKey] at heq
        split at heq <;> cases heq
    | configMap =>
        rw [Pass.sync, Pass.syncConfigMap, Pass.parseKey] at heq
        split at heq
        · simp only [pure_bind] at heq
          split at heq <;> cases heq
        · cases heq
  · cases hwriting

/-- What a worker does next when nobody interferes. -/
def workThrough (c : Controller) (h : Handler) : Controller :=
  match (c.lane h).worker, (c.lane h).queue.pending with
  | .idle, key :: others => (c.mapQueue h fun q => { q with pending := key :: others }).lease h
  | .idle, [] => c
  | .leased key rest, _ => (c.setClock c.cluster.clock).runPass h key rest
  | .settling key result, _ => c.settle h key result

theorem IsSettling.run_workThrough (hc : c.IsSettling s) (h : Handler) :
    Relation.ReflTransGen SettlingStep c (c.workThrough h) := by
  rw [workThrough]
  split
  · rename_i hidle hpending
    exact .single (.lease hc.ready hidle (.of_eq hpending.symm))
  · exact .refl
  · rename_i hworker
    exact .single (.pass hworker _)
  · rename_i hworker
    exact .single (.settle hworker)

theorem IsSettling.run_foldl_workThrough (hc : c.IsSettling s) (turns : List Handler) :
    Relation.ReflTransGen SettlingStep c (turns.foldl workThrough c) := by
  induction turns generalizing c with
  | nil => exact .refl
  | cons h turns ih =>
      have hfirst := hc.run_workThrough h
      exact hfirst.trans (ih (hc.run hfirst).1)

end Controller

namespace Installation

open Controller (tell work workThrough FreeRun SettlingStep run_foldl_tell run_foldl_work)

/-- A ConfigMap that no document was written to. -/
def unwritten : ConfigMap := { metadata := metadata "kube-system" "gitkube-ci-conf" }

/-- The server holds the gateway's objects only, and no watch has reported anything. -/
def gatewayOnly : Cluster := { cluster (remote none) unwritten with remotes := {} }

theorem isFresh_gatewayOnly : gatewayOnly.IsFresh where
  remotes := rfl
  configMaps := rfl
  deployments := rfl
  services := rfl
  held := rfl
  notices := rfl
  live := ⟨rfl, fun _ => rfl, nofun⟩

def listings : List Report :=
  [.remote .listStart, .remote .listEnd,
    .configMap .listStart, .configMap (.listItem unwritten), .configMap .listEnd,
    .deployment .listStart, .deployment (.listItem deployment), .deployment .listEnd,
    .service .listStart, .service (.listItem service), .service .listEnd]

/-- The workers have been started. -/
def started : Controller := (listings.foldl tell (.create {} gatewayOnly)).start.endListings

theorem run_started : Controller.Run (.create {} gatewayOnly) started := by
  have hlistings : (Controller.create {} gatewayOnly).AdmitsAll listings :=
    ⟨trivial, (by decide +kernel : _ ≠ _),
      trivial,
      ⟨by decide +kernel, isFit_of_metadata rfl (by decide) (by decide),
        Informer.agrees_of_absent (by decide +kernel)⟩, (by decide +kernel : _ ≠ _),
      trivial,
      ⟨by decide +kernel, isFit_of_metadata rfl (by decide) (by decide),
        Informer.agrees_of_absent (by decide +kernel)⟩, (by decide +kernel : _ ≠ _),
      trivial,
      ⟨by decide +kernel, isFit_of_metadata rfl (by decide) (by decide),
        Informer.agrees_of_absent (by decide +kernel)⟩, (by decide +kernel : _ ≠ _),
      trivial⟩
  exact ((run_foldl_tell hlistings).tail (.move .start)).tail (.move .endListings)

/-- The pass for the ConfigMap has built the document and is about to write it. -/
def halfway : Controller :=
  [.configMap, .configMap, .configMap, .configMap].foldl work started

/-- The first Remote, at the next version. -/
def added : Remote := Cached.atVersion (remote none) (Cached.versionText 2)

theorem isFit_added : Cached.IsFit 2 added := by
  have hremote : Cached.IsFit 1 (remote none) := isFit_of_metadata rfl (by decide) (by decide)
  exact Cached.isFit_atVersion hremote.legible 2

/-- Somebody adds a Remote. -/
def withAdded (c : Cluster) : Cluster :=
  Cluster.mapServer { c with version := 2 } fun remotes : SortedMap String Remote =>
    remotes.insert (Cached.key added).path added

theorem keeps_withAdded {c : Cluster} (hle : c.version ≤ 2) : c.Keeps (withAdded c) :=
  ⟨rfl, rfl, rfl, rfl, rfl, rfl, hle, fun hlive =>
    ⟨hlive.holding, hlive.watching, hlive.transient⟩⟩

/-- A Remote is added, and reported, before the document is written. -/
def overtaken : Controller :=
  tell { halfway with cluster := withAdded halfway.cluster } (.remote (.apply added))

theorem freeRun_overtaken : FreeRun (.create {} gatewayOnly) overtaken := by
  have hhalfway : Controller.Run started halfway := run_foldl_work (by decide +kernel) _
  have hadded : Controller.Step halfway { halfway with cluster := withAdded halfway.cluster } :=
    .elsewhere (keeps_withAdded (by decide +kernel)) rfl
  have hadmits : (withAdded halfway.cluster).Admits (.remote (.apply added)) :=
    ⟨by decide +kernel, isFit_added, Informer.agrees_of_absent (by decide +kernel)⟩
  exact Controller.freeRun_of_run
    (((run_started.trans hhalfway).tail hadded).tail (.report _ hadmits))

theorem isLevel_overtaken : overtaken.cluster.IsLevel {} where
  remotes := Replica.isLevel_of_values (by decide +kernel) (by decide +kernel)
  configMaps := Replica.isLevel_of_values (by decide +kernel) (by decide +kernel)
  deployments := Replica.isLevel_of_values (by decide +kernel) (by decide +kernel)
  services := Replica.isLevel_of_values (by decide +kernel) (by decide +kernel)
  configMap := by decide +kernel
  deployment := by decide +kernel
  service := by decide +kernel
  held := rfl
  spares call := by cases call <;> decide +kernel

/-- The overtaken pass comes to its end, and another pass for the ConfigMap follows. -/
def settled : Controller :=
  [.configMap, .configMap, .configMap, .configMap].foldl workThrough
    (overtaken.onCluster Cluster.release)

/-- A document that was built before the last change of a Remote is still written when
nothing happens any more, and then it has to be written again. -/
theorem writes_twice_after_overtaken_pass :
    gatewayOnly.IsFresh ∧ FreeRun (.create {} gatewayOnly) overtaken ∧ overtaken.isReady ∧
    overtaken.cluster.IsLevel {} ∧ overtaken.IsHalfway {} .configMap ∧
    (overtaken.onCluster Cluster.release).cluster.writes = [] ∧
    Relation.ReflTransGen SettlingStep (overtaken.onCluster Cluster.release) settled ∧
    settled.cluster.writes.map Write.target =
      [(.configMap, ⟨"kube-system", "gitkube-ci-conf"⟩), (.deployment, ⟨"kube-system", "gitkubed"⟩),
        (.configMap, ⟨"kube-system", "gitkube-ci-conf"⟩),
        (.deployment, ⟨"kube-system", "gitkubed"⟩)] ∧
    ¬(settled.cluster.writes.map Write.target).Nodup := by
  have hready : overtaken.isReady := by decide +kernel
  have hsettling :=
    Controller.isSettling_of_run isFresh_gatewayOnly freeRun_overtaken hready isLevel_overtaken
  have hwrites : settled.cluster.writes.map Write.target =
      [(.configMap, ⟨"kube-system", "gitkube-ci-conf"⟩), (.deployment, ⟨"kube-system", "gitkubed"⟩),
        (.configMap, ⟨"kube-system", "gitkube-ci-conf"⟩),
        (.deployment, ⟨"kube-system", "gitkubed"⟩)] := by decide +kernel
  refine ⟨isFresh_gatewayOnly, freeRun_overtaken, hready, isLevel_overtaken,
    Controller.isHalfway_of_isWriting (by decide +kernel), by decide +kernel,
    hsettling.run_foldl_workThrough _, hwrites, ?_⟩
  rw [hwrites]
  decide

end Installation

end GatewaySync
