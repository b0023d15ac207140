import GatewaySync.Proofs.SyncCourses
import GatewaySync.Proofs.UnreadableSecrets

/-!
# What a pass writes, and in which order

A pass for a Remote asks for at most three writes: the ConfigMap with the document,
the Deployment with the restart, and the Remote with its address.  The first call
that fails is the last one.  So a Deployment is replaced behind a ConfigMap that was
just written, or to make up for a restart that is missing behind an earlier write;
and a pass that ends well leaves the document of the Remotes in the ConfigMap, and a
Deployment that was rolled for it or was never rolled for any.
-/

namespace GatewaySync

namespace Write

def configMap? : Write → Option ConfigMap
  | .configMap m => some m
  | .deployment _ | .status _ => none

def deployment? : Write → Option Deployment
  | .deployment d => some d
  | .configMap _ | .status _ => none

end Write

namespace Pass

variable {α : Type}

/-- The writes that a pass asks for. -/
def attempts (exchanges : List Exchange) : List Write := exchanges.filterMap Exchange.write?

/-- The writes of a pass that are taken. -/
def taken (exchanges : List Exchange) : List Write := exchanges.filterMap Exchange.taken?

@[simp]
theorem attempts_append (before after : List Exchange) :
    attempts (before ++ after) = attempts before ++ attempts after :=
  List.filterMap_append

@[simp]
theorem taken_append (before after : List Exchange) :
    taken (before ++ after) = taken before ++ taken after :=
  List.filterMap_append

/-- Looking at the caches and reading secrets, with success. -/
def Observes (exchanges : List Exchange) : Prop :=
  ∀ x ∈ exchanges, x.write? = none ∧ x.hasFailed = false

namespace Observes

variable {exchanges : List Exchange}

theorem looks (looks : List Cluster) : Observes (looks.map .looked) := by
  intro x hx
  obtain ⟨_, -, rfl⟩ := List.mem_map.1 hx
  exact ⟨rfl, rfl⟩

theorem lookUps (sources : List Document.Source) :
    Observes (sources.filterMap Document.Source.lookUp?) := by
  intro x hx
  obtain ⟨s, -, hlookUp⟩ := List.mem_filterMap.1 hx
  obtain ⟨_, -, rfl⟩ := Option.map_eq_some_iff.1 hlookUp
  exact ⟨rfl, rfl⟩

theorem attempts_eq (hexchanges : Observes exchanges) : attempts exchanges = [] :=
  List.filterMap_eq_nil_iff.2 fun x hx => (hexchanges x hx).1

theorem taken_eq (hexchanges : Observes exchanges) : taken exchanges = [] := by
  refine List.filterMap_eq_nil_iff.2 fun x hx => ?_
  have hwrite := (hexchanges x hx).1
  cases x with
  | wrote => cases hwrite
  | looked | read | counted => rfl

end Observes

/-! ## What the writes of a pass keep to -/

/-- The text is that of the document of the cached Remotes, with the secrets as the
pass has read them. -/
def Renders (c : Cluster) (exchanges : List Exchange) (text : String) : Prop :=
  ∃ sources, Gathers (c.allCached Remote) (exchanges.filter Exchange.isRead) sources ∧
    text = (Document.build sources).render

/-- One of the gateway's objects is not cached, or a secret cannot be read. -/
def IsBlocked (s : Settings) (c : Cluster) (exchanges : List Exchange) : Prop :=
  c.cached? ConfigMap ⟨s.ns, s.configMap⟩ = none ∨
    c.cached? Deployment ⟨s.ns, s.deployment⟩ = none ∨
    ∃ x ∈ exchanges, x.isRead = true ∧ x.hasFailed = true

/-- The document is in the cached ConfigMap already, and the cached Deployment records
the hash of another one. -/
def MissesRestart (s : Settings) (c : Cluster) (exchanges : List Exchange) : Prop :=
  ∃ m d text, c.cached? ConfigMap ⟨s.ns, s.configMap⟩ = some m ∧
    c.cached? Deployment ⟨s.ns, s.deployment⟩ = some d ∧ Renders c exchanges text ∧
    Document.differs m text = false ∧ d.IsBehind (Document.contentHash text)

/-- The object is a cached one, with what the pass has to bring. -/
def Brings (s : Settings) (c : Cluster) (exchanges : List Exchange) : Write → Prop
  | .configMap m' => ∃ m text, c.cached? ConfigMap ⟨s.ns, s.configMap⟩ = some m ∧
      Renders c exchanges text ∧ m' = Document.putInto m text
  | .deployment d' => ∃ d text now, c.cached? Deployment ⟨s.ns, s.deployment⟩ = some d ∧
      Renders c exchanges text ∧ d' = d.restarted (Document.contentHash text) now
  | .status r' => ∃ name r gateway, c.cached? Remote name = some r ∧
      r' = { r with status := some (r.statusBehind gateway) }

/-- The writes of a pass stand in the order of the kinds, and there are none without
all that the document needs.  A Deployment is written right behind a ConfigMap, or to
make up for a restart. -/
structure Disciplined (s : Settings) (c : Cluster) (kinds : List Kind)
    (exchanges : List Exchange) : Prop where
  inOrder : ((attempts exchanges).map Write.kind).Sublist kinds
  idle : IsBlocked s c exchanges → attempts exchanges = []
  brings : ∀ w ∈ attempts exchanges, Brings s c exchanges w
  restarts : ∀ d answer, .wrote (.deployment d) answer ∈ exchanges →
    (∃ m, [.wrote (.configMap m) (.ok ()), .wrote (.deployment d) answer] <:+:
      exchanges.filter Exchange.isRequest) ∨ MissesRestart s c exchanges

/-- The ConfigMap that a pass leaves, which has found this one. -/
def configMapAfter (m : ConfigMap) (exchanges : List Exchange) : ConfigMap :=
  ((taken exchanges).findSome? Write.configMap?).getD m

/-- The Deployment that a pass leaves, which has found this one. -/
def deploymentAfter (d : Deployment) (exchanges : List Exchange) : Deployment :=
  ((taken exchanges).findSome? Write.deployment?).getD d

/-- The ConfigMap holds the document, unless it holds another text of the same hash,
and the Deployment records no other document than this one. -/
def Settled (s : Settings) (c : Cluster) (exchanges : List Exchange) : Prop :=
  ∃ m d text, c.cached? ConfigMap ⟨s.ns, s.configMap⟩ = some m ∧
    c.cached? Deployment ⟨s.ns, s.deployment⟩ = some d ∧ Renders c exchanges text ∧
    ((∀ held, Document.stored? m = some held →
        Document.contentHash held = Document.contentHash text → held = text) →
      Document.stored? (configMapAfter m exchanges) = some text) ∧
    ∀ hash, (deploymentAfter d exchanges).rolledFor? = some hash →
      hash = Document.contentHash text

theorem mem_attempts {exchanges : List Exchange} {w : Write} {answer : Except Abort Unit}
    (hwrote : .wrote w answer ∈ exchanges) : w ∈ attempts exchanges :=
  List.mem_filterMap.2 ⟨_, hwrote, rfl⟩

theorem mem_attempts_of_mem_taken {exchanges : List Exchange} {w : Write}
    (hw : w ∈ taken exchanges) : w ∈ attempts exchanges := by
  obtain ⟨x, hx, hw⟩ := List.mem_filterMap.1 hw
  cases x with
  | wrote w' answer =>
      cases answer with
      | ok _ =>
          cases hw
          exact mem_attempts hx
      | error => cases hw
  | looked | read | counted => cases hw

/-- A pass that asks for no writes keeps to any order. -/
theorem Disciplined.of_attempts_eq_nil {s : Settings} {c : Cluster} {kinds : List Kind}
    {exchanges : List Exchange} (hnothing : attempts exchanges = []) :
    Disciplined s c kinds exchanges where
  inOrder := by simp [hnothing]
  idle _ := hnothing
  brings w hw := by simp [hnothing] at hw
  restarts d answer hwrote := by
    have hw := mem_attempts hwrote
    simp [hnothing] at hw

namespace Restarts

variable {d : Deployment} {hash : String} {a : α} {exchanges : List Exchange}
  {result : Except Abort α}

theorem attempts_eq (hrestart : Restarts d hash a exchanges result) :
    ∃ now, attempts exchanges = [.deployment (d.restarted hash now)] := by
  cases hrestart with
  | rolled c | failed c => exact ⟨c.clock, rfl⟩

theorem filter_isRead (hrestart : Restarts d hash a exchanges result) :
    exchanges.filter Exchange.isRead = [] := by
  cases hrestart <;> rfl

/-- The restart is the only request. -/
theorem filter_isRequest (hrestart : Restarts d hash a exchanges result) {d' : Deployment}
    {answer : Except Abort Unit} (hwrote : .wrote (.deployment d') answer ∈ exchanges) :
    exchanges.filter Exchange.isRequest = [.wrote (.deployment d') answer] := by
  cases hrestart with
  | rolled c | failed c =>
      simp only [List.mem_cons, reduceCtorEq, false_or, List.not_mem_nil, or_false] at hwrote
      rw [hwrote]
      rfl

/-- A restart that comes to a value was taken. -/
theorem taken_of_ok {b : α} (hrestart : Restarts d hash a exchanges (.ok b)) :
    b = a ∧ ∃ now, taken exchanges = [.deployment (d.restarted hash now)] := by
  cases hrestart with
  | rolled c => exact ⟨rfl, c.clock, rfl⟩

theorem taken_of_error {reason : Abort}
    (hrestart : Restarts d hash a exchanges (.error reason)) : taken exchanges = [] := by
  cases hrestart
  rfl

end Restarts

namespace Publishes

variable {m : ConfigMap} {d : Deployment} {text : String} {exchanges : List Exchange}
  {result : Except Abort Bool}

theorem filter_isRead (hpublishes : Publishes m d text exchanges result) :
    exchanges.filter Exchange.isRead = [] := by
  cases hpublishes with
  | current | refused => rfl
  | behind _ _ hrestart => exact hrestart.filter_isRead
  | written hrestart => exact hrestart.filter_isRead

/-- At most the ConfigMap with the text and the restart are asked for. -/
theorem attempts_sublist (hpublishes : Publishes m d text exchanges result) :
    ∃ now, (attempts exchanges).Sublist [.configMap (Document.putInto m text),
      .deployment (d.restarted (Document.contentHash text) now)] := by
  cases hpublishes with
  | current => exact ⟨0, List.nil_sublist _⟩
  | refused => exact ⟨0, (List.nil_sublist _).cons_cons _⟩
  | behind _ _ hrestart =>
      obtain ⟨now, hattempts⟩ := hrestart.attempts_eq
      rw [hattempts]
      exact ⟨now, (List.Sublist.refl _).cons _⟩
  | @written later _ hrestart =>
      obtain ⟨now, hattempts⟩ := hrestart.attempts_eq
      change ∃ now, (_ :: attempts later).Sublist _
      rw [hattempts]
      exact ⟨now, List.Sublist.refl _⟩

theorem restart_cases (hpublishes : Publishes m d text exchanges result) {d' : Deployment}
    {answer : Except Abort Unit} (hwrote : .wrote (.deployment d') answer ∈ exchanges) :
    exchanges.filter Exchange.isRequest =
        [.wrote (.configMap (Document.putInto m text)) (.ok ()),
          .wrote (.deployment d') answer] ∨
      Document.differs m text = false ∧ d.IsBehind (Document.contentHash text) := by
  cases hpublishes with
  | current => cases hwrote
  | refused => simp at hwrote
  | behind hdiffers hbehind => exact .inr ⟨hdiffers, hbehind⟩
  | @written later _ hrestart =>
      have hlater : .wrote (.deployment d') answer ∈ later := by simpa using hwrote
      refine .inl ?_
      change _ :: later.filter Exchange.isRequest = _
      rw [hrestart.filter_isRequest hlater]

/-- Publishing tells that the document was written exactly when it wrote both objects. -/
theorem eq_ok_true_iff (hpublishes : Publishes m d text exchanges result) :
    result = .ok true ↔
      (∃ m', .configMap m' ∈ taken exchanges) ∧ ∃ d', .deployment d' ∈ taken exchanges := by
  cases hpublishes with
  | current | refused => simp [taken, Exchange.taken?]
  | behind _ _ hrestart =>
      cases result with
      | error => simp [hrestart.taken_of_error]
      | ok b =>
          obtain ⟨rfl, now, htaken⟩ := hrestart.taken_of_ok
          simp [htaken]
  | @written later _ hrestart =>
      change _ ↔ (∃ m', _ ∈ _ :: taken later) ∧ ∃ d', _ ∈ _ :: taken later
      cases result with
      | error => simp [hrestart.taken_of_error]
      | ok b =>
          obtain ⟨rfl, now, htaken⟩ := hrestart.taken_of_ok
          simp [htaken]

/-- Publishing that ends well leaves the document, as far as hashes can tell. -/
theorem stored?_of_ok {b : Bool} (hpublishes : Publishes m d text exchanges (.ok b))
    (htells : ∀ held, Document.stored? m = some held →
      Document.contentHash held = Document.contentHash text → held = text) :
    Document.stored? (configMapAfter m exchanges) = some text := by
  have hsame : Document.differs m text = false → Document.stored? m = some text := by
    intro hdiffers
    obtain ⟨held, hstored, hhash⟩ := Document.differs_eq_false_iff.1 hdiffers
    rw [hstored, htells held hstored hhash]
  cases hpublishes with
  | current hdiffers => exact hsame hdiffers
  | behind hdiffers _ hrestart =>
      obtain ⟨-, now, htaken⟩ := hrestart.taken_of_ok
      rw [configMapAfter, htaken]
      exact hsame hdiffers
  | written => exact Document.stored?_putInto m text

/-- Publishing that ends well leaves a Deployment that records no other document. -/
theorem rolledFor?_of_ok {b : Bool} (hpublishes : Publishes m d text exchanges (.ok b))
    {hash : String} (hrolled : (deploymentAfter d exchanges).rolledFor? = some hash) :
    hash = Document.contentHash text := by
  have hrestarted : ∀ now,
      (d.restarted (Document.contentHash text) now).rolledFor? = some hash →
        hash = Document.contentHash text := by
    intro now hrolled
    rw [Deployment.rolledFor?_restarted] at hrolled
    exact (Option.some.inj hrolled).symm
  cases hpublishes with
  | current _ hcurrent =>
      by_contra hne
      exact hcurrent ⟨hash, hrolled, hne⟩
  | behind _ _ hrestart =>
      obtain ⟨-, now, htaken⟩ := hrestart.taken_of_ok
      rw [deploymentAfter, htaken] at hrolled
      exact hrestarted now hrolled
  | @written later _ hrestart =>
      obtain ⟨-, now, htaken⟩ := hrestart.taken_of_ok
      change (((_ :: taken later).findSome? Write.deployment?).getD d).rolledFor? = _ at hrolled
      rw [htaken] at hrolled
      exact hrestarted now hrolled

end Publishes

/-! ## A pass for the document -/

variable {s : Settings} {c : Cluster}

section Published

variable (looks : List Cluster) (sources : List Document.Source) (later : List Exchange)

theorem attempts_published :
    attempts (looks.map .looked ++ (sources.filterMap Document.Source.lookUp? ++ later)) =
      attempts later := by
  rw [attempts_append, attempts_append, (Observes.looks looks).attempts_eq,
    (Observes.lookUps sources).attempts_eq, List.nil_append, List.nil_append]

theorem taken_published :
    taken (looks.map .looked ++ (sources.filterMap Document.Source.lookUp? ++ later)) =
      taken later := by
  rw [taken_append, taken_append, (Observes.looks looks).taken_eq,
    (Observes.lookUps sources).taken_eq, List.nil_append, List.nil_append]

/-- Of the calls before the document is published, only the reading of secrets is
asked of the server. -/
theorem filter_published {p : Exchange → Bool} (hlook : ∀ c, p (.looked c) = false)
    (hread : ∀ ref answer, p (.read ref answer) = true) :
    (looks.map Exchange.looked ++
        (sources.filterMap Document.Source.lookUp? ++ later)).filter p =
      sources.filterMap Document.Source.lookUp? ++ later.filter p := by
  have hlooks : (looks.map Exchange.looked).filter p = [] := by
    refine List.filter_eq_nil_iff.2 fun x hx => ?_
    obtain ⟨c, -, rfl⟩ := List.mem_map.1 hx
    simp [hlook]
  have hlookUps : (sources.filterMap Document.Source.lookUp?).filter p =
      sources.filterMap Document.Source.lookUp? := by
    refine List.filter_eq_self.2 fun x hx => ?_
    obtain ⟨s, -, hlookUp⟩ := List.mem_filterMap.1 hx
    obtain ⟨ref, -, rfl⟩ := Option.map_eq_some_iff.1 hlookUp
    exact hread ref _
  rw [List.filter_append, List.filter_append, hlooks, hlookUps, List.nil_append]

variable {sources later}

/-- What is published is the document of the Remotes with the secrets as they were read. -/
theorem renders_published {m : ConfigMap} {d : Deployment} {text : String}
    {result : Except Abort Bool}
    (hgathers : Gathers (c.allCached Remote)
      (sources.filterMap Document.Source.lookUp?) sources)
    (hpublishes : Publishes m d text later result) :
    Renders c (looks.map .looked ++ (sources.filterMap Document.Source.lookUp? ++ later))
      (Document.build sources).render := by
  refine ⟨sources, ?_, rfl⟩
  rw [filter_published _ _ _ (fun _ => rfl) fun _ _ => rfl, hpublishes.filter_isRead,
    List.append_nil]
  exact hgathers

variable {looks}

/-- Once the document is published, both objects are cached and all secrets were read. -/
theorem not_isBlocked_published {m : ConfigMap} {d : Deployment} {text : String}
    {result : Except Abort Bool}
    (hconfigMap : c.cached? ConfigMap ⟨s.ns, s.configMap⟩ = some m)
    (hdeployment : c.cached? Deployment ⟨s.ns, s.deployment⟩ = some d)
    (hpublishes : Publishes m d text later result) :
    ¬IsBlocked s c
      (looks.map .looked ++ (sources.filterMap Document.Source.lookUp? ++ later)) := by
  rintro (hnone | hnone | ⟨x, hx, hread, hfailed⟩)
  · cases hconfigMap.symm.trans hnone
  · cases hdeployment.symm.trans hnone
  · rw [List.mem_append, List.mem_append] at hx
    obtain hx | hx | hx := hx
    · cases hfailed.symm.trans ((Observes.looks looks) x hx).2
    · cases hfailed.symm.trans ((Observes.lookUps sources) x hx).2
    · exact absurd hread (List.filter_eq_nil_iff.1 hpublishes.filter_isRead x hx)

end Published

namespace SyncsDocument

variable {exchanges : List Exchange} {result : Except Abort Bool}

theorem disciplined (hsyncs : SyncsDocument s c exchanges result) :
    Disciplined s c [.configMap, .deployment] exchanges := by
  cases hsyncs with
  | missing looks => exact .of_attempts_eq_nil (Observes.looks looks).attempts_eq
  | unreadable looks sources => exact .of_attempts_eq_nil (attempts_published looks sources _)
  | @published looks sources m d later _ hconfigMap hdeployment hgathers hpublishes =>
      have hattempts := attempts_published looks sources later
      have hrequests := filter_published looks sources later
        (p := Exchange.isRequest) (fun _ => rfl) fun _ _ => rfl
      have hrenders := renders_published looks hgathers hpublishes
      obtain ⟨now, hsublist⟩ := hpublishes.attempts_sublist
      rw [← hattempts] at hsublist
      refine ⟨hsublist.map Write.kind, ?_, ?_, ?_⟩
      · exact fun hblocked =>
          absurd hblocked (not_isBlocked_published hconfigMap hdeployment hpublishes)
      · intro w hw
        have hpair := hsublist.subset hw
        rw [List.mem_pair] at hpair
        obtain rfl | rfl := hpair
        · exact ⟨m, _, hconfigMap, hrenders, rfl⟩
        · exact ⟨d, _, now, hdeployment, hrenders, rfl⟩
      · intro d' answer hwrote
        have hlater : .wrote (.deployment d') answer ∈ later := by
          rw [List.mem_append, List.mem_append] at hwrote
          obtain hlook | hread | hlater := hwrote
          · cases ((Observes.looks looks) _ hlook).1
          · cases ((Observes.lookUps sources) _ hread).1
          · exact hlater
        obtain hboth | hmisses := hpublishes.restart_cases hlater
        · refine .inl ⟨Document.putInto m (Document.build sources).render, ?_⟩
          rw [hrequests, hboth]
          exact (List.suffix_append _ _).isInfix
        · exact .inr ⟨m, d, _, hconfigMap, hdeployment, hrenders, hmisses⟩

theorem eq_ok_true_iff (hsyncs : SyncsDocument s c exchanges result) :
    result = .ok true ↔
      (∃ m, .configMap m ∈ taken exchanges) ∧ ∃ d, .deployment d ∈ taken exchanges := by
  cases hsyncs with
  | missing looks => simp [(Observes.looks looks).taken_eq]
  | unreadable looks sources ref reason =>
      rw [taken_published]
      simp [taken, Exchange.taken?]
  | published looks _ _ _ hpublishes =>
      rw [taken_published]
      exact hpublishes.eq_ok_true_iff

theorem settled {written : Bool} (hsyncs : SyncsDocument s c exchanges (.ok written)) :
    Settled s c exchanges := by
  cases hsyncs with
  | @published looks sources m d later _ hconfigMap hdeployment hgathers hpublishes =>
      refine ⟨m, d, _, hconfigMap, hdeployment, renders_published looks hgathers hpublishes, ?_, ?_⟩
      · rw [configMapAfter, taken_published]
        exact hpublishes.stored?_of_ok
      · rw [deploymentAfter, taken_published]
        exact fun _ => hpublishes.rolledFor?_of_ok

end SyncsDocument

/-! ## A pass for a Remote -/

namespace Addresses

variable {r : Remote} {exchanges : List Exchange} {result : Except Abort Unit}

theorem filter_isRead (haddresses : Addresses r exchanges result) :
    exchanges.filter Exchange.isRead = [] := by
  cases haddresses <;> rfl

theorem inOrder (haddresses : Addresses r exchanges result) :
    ((attempts exchanges).map Write.kind).Sublist [.remote] := by
  cases haddresses with
  | missing | current => exact List.nil_sublist _
  | patched | unpatched => exact List.Sublist.refl _

theorem eq_of_mem (haddresses : Addresses r exchanges result) {w : Write}
    (hw : w ∈ attempts exchanges) :
    ∃ gateway, w = .status { r with status := some (r.statusBehind gateway) } := by
  cases haddresses with
  | missing | current => cases hw
  | patched _ gateway | unpatched _ gateway => exact ⟨gateway, List.mem_singleton.1 hw⟩

end Addresses

section Extend

variable {kinds : List Kind} {exchanges later : List Exchange}

theorem Disciplined.mono {more : List Kind} (hdisciplined : Disciplined s c kinds exchanges)
    (hkinds : kinds.Sublist more) : Disciplined s c more exchanges :=
  { hdisciplined with inOrder := hdisciplined.inOrder.trans hkinds }

theorem Disciplined.look (hdisciplined : Disciplined s c kinds exchanges) (c₁ : Cluster) :
    Disciplined s c kinds (.looked c₁ :: exchanges) where
  inOrder := hdisciplined.inOrder
  idle hblocked := by
    refine hdisciplined.idle (hblocked.imp_right fun hblocked => hblocked.imp_right ?_)
    rintro ⟨x, hx, hread, hfailed⟩
    obtain rfl | hx := List.mem_cons.1 hx
    · cases hread
    · exact ⟨x, hx, hread, hfailed⟩
  brings w hw := by
    have hbrings := hdisciplined.brings w hw
    cases w <;> exact hbrings
  restarts d answer hwrote := by
    obtain hlook | hwrote := List.mem_cons.1 hwrote
    · cases hlook
    · exact hdisciplined.restarts d answer hwrote

theorem Settled.look (hsettled : Settled s c exchanges) (c₁ : Cluster) :
    Settled s c (.looked c₁ :: exchanges) := hsettled

variable (hlater : later.filter Exchange.isRead = [])
include hlater

/-- The same document is rendered where the same secrets are read. -/
theorem renders_append : Renders c (exchanges ++ later) = Renders c exchanges := by
  funext text
  rw [Renders, List.filter_append, hlater, List.append_nil, Renders]

variable (hkinds : ((attempts later).map Write.kind).Sublist [.remote])

omit hlater in
include hkinds in
theorem eq_remote_of_mem {w : Write} (hw : w ∈ attempts later) : w.kind = .remote :=
  List.mem_singleton.1 (hkinds.subset (List.mem_map_of_mem hw))

include hkinds

/-- A pass that keeps its discipline may go on with the Remote's status, if nothing kept
it from the document. -/
theorem Disciplined.append (hdisciplined : Disciplined s c kinds exchanges)
    (hbrings : ∀ w ∈ attempts later, Brings s c exchanges w) (hfree : ¬IsBlocked s c exchanges) :
    Disciplined s c (kinds ++ [.remote]) (exchanges ++ later) where
  inOrder := by
    rw [attempts_append, List.map_append]
    exact hdisciplined.inOrder.append hkinds
  idle hblocked := by
    refine absurd (hblocked.imp_right fun hblocked => hblocked.imp_right ?_) hfree
    rintro ⟨x, hx, hread, hfailed⟩
    refine ⟨x, (List.mem_append.1 hx).resolve_right fun hx => ?_, hread, hfailed⟩
    exact absurd hread (List.filter_eq_nil_iff.1 hlater x hx)
  brings w hw := by
    have hbrings : Brings s c exchanges w := by
      rw [attempts_append, List.mem_append] at hw
      exact hw.elim (hdisciplined.brings w) (hbrings w)
    cases w with
    | configMap | deployment =>
        rw [Brings, renders_append hlater]
        exact hbrings
    | status => exact hbrings
  restarts d answer hwrote := by
    have hdocument : .wrote (.deployment d) answer ∈ exchanges := by
      refine (List.mem_append.1 hwrote).resolve_right fun hwrote => ?_
      cases eq_remote_of_mem hkinds (mem_attempts hwrote)
    obtain ⟨m, hinfix⟩ | hmisses := hdisciplined.restarts d answer hdocument
    · refine .inl ⟨m, hinfix.trans ?_⟩
      rw [List.filter_append]
      exact (List.prefix_append _ _).isInfix
    · rw [MissesRestart, renders_append hlater]
      exact .inr hmisses

/-- A status that is written later unsettles nothing. -/
theorem Settled.append (hsettled : Settled s c exchanges) :
    Settled s c (exchanges ++ later) := by
  have hremote : ∀ w ∈ taken later, w.kind = .remote :=
    fun w hw => eq_remote_of_mem hkinds (mem_attempts_of_mem_taken hw)
  have hconfigMaps : (taken later).findSome? Write.configMap? = none := by
    refine List.findSome?_eq_none_iff.2 fun w hw => ?_
    cases w with
    | configMap => cases hremote _ hw
    | deployment | status => rfl
  have hdeployments : (taken later).findSome? Write.deployment? = none := by
    refine List.findSome?_eq_none_iff.2 fun w hw => ?_
    cases w with
    | deployment => cases hremote _ hw
    | configMap | status => rfl
  obtain ⟨m, d, text, hm, hd, hrenders, hdocument, hrolled⟩ := hsettled
  refine ⟨m, d, text, hm, hd, ?_, ?_, ?_⟩
  · rw [renders_append hlater]
    exact hrenders
  · rw [configMapAfter, taken_append, List.findSome?_append, hconfigMaps, Option.or_none]
    exact hdocument
  · rw [deploymentAfter, taken_append, List.findSome?_append, hdeployments, Option.or_none]
    exact hrolled

end Extend

theorem SyncsDocument.not_isBlocked {exchanges : List Exchange} {written : Bool}
    (hsyncs : SyncsDocument s c exchanges (.ok written)) : ¬IsBlocked s c exchanges := by
  cases hsyncs with
  | published looks hconfigMap hdeployment hgathers hpublishes =>
      exact not_isBlocked_published hconfigMap hdeployment hpublishes

namespace SyncsRemote

variable {key : String} {exchanges : List Exchange} {result : Except Abort Unit}

theorem disciplined (hsyncs : SyncsRemote s c key exchanges result) :
    Disciplined s c [.configMap, .deployment, .remote] exchanges := by
  cases hsyncs with
  | invalid | gone => exact .of_attempts_eq_nil rfl
  | stopped c₁ hdocument =>
      exact (hdocument.disciplined.mono (List.sublist_append_left _ [.remote])).look c₁
  | @synced c₁ name r _ _ _ _ hcached hdocument haddresses =>
      refine (hdocument.disciplined.append haddresses.filter_isRead haddresses.inOrder ?_
        hdocument.not_isBlocked).look c₁
      intro w hw
      obtain ⟨gateway, rfl⟩ := haddresses.eq_of_mem hw
      exact ⟨name, r, gateway, hcached, rfl⟩

/-- A pass that ends well leaves the document and the Deployment as they should be,
unless the Remote is gone and it does nothing. -/
theorem settled_of_ok (hsyncs : SyncsRemote s c key exchanges (.ok ())) :
    Settled s c exchanges ∨ exchanges.filter Exchange.isRequest = [] ∧
      ∃ name, NamespacedName.ofString? key = some name ∧ c.cached? Remote name = none := by
  cases hsyncs with
  | gone c₁ hkey hgone => exact .inr ⟨rfl, _, hkey, hgone⟩
  | synced c₁ hcached hdocument haddresses =>
      exact .inl ((hdocument.settled.append haddresses.filter_isRead haddresses.inOrder).look c₁)

end SyncsRemote

/-! ## Every course of a pass -/

/-- The first call that fails is the last one, and the pass fails with it. -/
def EndsOnFailure (exchanges : List Exchange) (result : Except Abort α) : Prop :=
  ∀ before x after, exchanges = before ++ x :: after → x.hasFailed = true →
    after = [] ∧ ∃ reason, result = .error reason

/-- Whatever the calls of a pass are answered, the writes for a Remote stand in the
order ConfigMap, Deployment, status, and the first failure is the last that happens.
Nothing is written without both objects and all secrets; a Deployment is written right
behind a ConfigMap that was taken, or to make up for a restart; and a pass that ends
well leaves the document.  Of the document's own pass the same is true, and it tells
that it wrote exactly when both objects were taken.  A pass that is run in a cluster
takes such a course. -/
theorem writes_in_order (s : Settings) (c : Cluster) :
    (∀ key exchanges result, (syncRemote s key).Course exchanges result →
      FirstSees c.caches exchanges →
      Disciplined s c [.configMap, .deployment, .remote] exchanges ∧
        EndsOnFailure exchanges result ∧
        (result = .ok () → Settled s c exchanges ∨
          exchanges.filter Exchange.isRequest = [] ∧ ∃ name,
            NamespacedName.ofString? key = some name ∧ c.cached? Remote name = none)) ∧
    (∀ exchanges result, (syncDocument s).Course exchanges result →
      FirstSees c.caches exchanges →
      Disciplined s c [.configMap, .deployment] exchanges ∧
        EndsOnFailure exchanges result ∧
        (result = .ok true ↔
          (∃ m, .configMap m ∈ taken exchanges) ∧ ∃ d, .deployment d ∈ taken exchanges) ∧
        ∀ written, result = .ok written → Settled s c exchanges) ∧
    (∀ key, ∃ exchanges held, Runs c (syncRemote s key) exchanges held) ∧
    ∃ exchanges held, Runs c (syncDocument s) exchanges held := by
  refine ⟨?_, ?_, fun key => exists_runs c (syncRemote s key), exists_runs c (syncDocument s)⟩
  · intro key exchanges result hcourse hsees
    have hsyncs := course_syncRemote hcourse hsees
    refine ⟨hsyncs.disciplined, fun before x after => hcourse.nil_of_hasFailed, ?_⟩
    rintro rfl
    exact hsyncs.settled_of_ok
  · intro exchanges result hcourse hsees
    have hsyncs := course_syncDocument hcourse hsees
    refine ⟨hsyncs.disciplined, fun before x after => hcourse.nil_of_hasFailed,
      hsyncs.eq_ok_true_iff, ?_⟩
    rintro written rfl
    exact hsyncs.settled

/-- The gateway's objects and two Remotes.  The first restart fails. -/
def unrolled : Cluster :=
  neighbours.setFaults .replaceDeployment
    [some (.failure (.reported 500 "InternalError" "injected failure"))]

/-- Without failures a pass for `default/b` settles, and the document's own pass tells
that it wrote both objects.  Where the restart fails, the ConfigMap is written and the
status is not. -/
theorem writes_in_order_neighbours :
    (∃ exchanges, (syncRemote {} "default/b").Course exchanges (.ok ()) ∧
      Settled {} neighbours exchanges) ∧
    (∃ exchanges m d, (syncDocument {}).Course exchanges (.ok true) ∧
      .configMap m ∈ taken exchanges ∧ .deployment d ∈ taken exchanges) ∧
    ∃ exchanges held, (syncRemote {} "default/b").Course exchanges
        (.error (.failed (.reported 500 "InternalError" "injected failure"))) ∧
      Disciplined {} unrolled [.configMap, .deployment, .remote] exchanges ∧
      AreHeld exchanges held ∧ held.map Write.kind = [.configMap] := by
  refine ⟨?_, ?_, ?_⟩
  · obtain ⟨hremote, -, hruns, -⟩ := writes_in_order {} neighbours
    obtain ⟨exchanges, held, hcourse, hsees, -⟩ := hruns "default/b"
    have hresult : (neighbours.perform (syncRemote {} "default/b")).1 = .ok () := by
      decide +kernel
    rw [hresult] at hcourse
    obtain hsettled | ⟨-, name, hkey, hgone⟩ := (hremote _ _ _ hcourse hsees).2.2 rfl
    · exact ⟨exchanges, hcourse, hsettled⟩
    · have hname : NamespacedName.ofString? "default/b" = some ⟨"default", "b"⟩ := by
        decide +kernel
      obtain rfl := Option.some.inj (hname.symm.trans hkey)
      exact absurd hgone (by decide +kernel)
  · obtain ⟨-, hdocument, -, exchanges, held, hcourse, hsees, -⟩ := writes_in_order {} neighbours
    have hresult : (neighbours.perform (syncDocument {})).1 = .ok true := by decide +kernel
    rw [hresult] at hcourse
    obtain ⟨⟨m, hm⟩, d, hd⟩ := (hdocument _ _ hcourse hsees).2.2.1.1 rfl
    exact ⟨exchanges, m, d, hcourse, hm, hd⟩
  · obtain ⟨hremote, -, hruns, -⟩ := writes_in_order {} unrolled
    obtain ⟨exchanges, held, hcourse, hsees, hwrites, hheld⟩ := hruns "default/b"
    have hresult : (unrolled.perform (syncRemote {} "default/b")).1 =
        .error (.failed (.reported 500 "InternalError" "injected failure")) := by
      decide +kernel
    have hkinds : (unrolled.perform (syncRemote {} "default/b")).2.writes.map Write.kind =
        [.configMap] := by
      decide +kernel
    have hnothing : unrolled.writes = [] := by decide +kernel
    rw [hresult] at hcourse
    rw [hwrites, hnothing, List.nil_append] at hkinds
    exact ⟨exchanges, held, hcourse, (hremote _ _ _ hcourse hsees).1, hheld, hkinds⟩

end Pass

end GatewaySync
