import GatewaySync.Proofs.Amendments
import GatewaySync.Proofs.Run

/-!
# The course of a pass

What a pass does depends on what its calls are answered, and between two calls
anything may happen.  The course of a pass is the list of its calls with their
answers, whatever they are: the same secret may be read twice and be another one
the second time, and a write may be taken or not.  A pass that is run in a cluster
takes one of its courses.
-/

namespace GatewaySync

/-- A call of a pass and what it was answered. -/
inductive Exchange where
  | looked (c : Cluster)
  | read (secret : NamespacedName) (answer : Except Abort (Option Secret))
  | wrote (write : Write) (answer : Except Abort Unit)
  | counted (series : Series)

namespace Exchange

/-- The server is asked for something. -/
def isRequest : Exchange → Bool
  | .read .. | .wrote .. => true
  | .looked _ | .counted _ => false

def isRead : Exchange → Bool
  | .read .. => true
  | .looked _ | .wrote .. | .counted _ => false

def hasFailed : Exchange → Bool
  | .read _ (.error _) | .wrote _ (.error _) => true
  | _ => false

/-- The object that is to be written, whether it is taken or not. -/
def write? : Exchange → Option Write
  | .wrote w _ => some w
  | .looked _ | .read .. | .counted _ => none

/-- The object that is written. -/
def taken? : Exchange → Option Write
  | .wrote w (.ok _) => some w
  | _ => none

end Exchange

namespace Pass

variable {α β : Type}

/-- The calls of a pass in order, with any answers, and what the pass comes to. -/
inductive Course : Pass α → List Exchange → Except Abort α → Prop
  | done (a : α) : Course (.done a) [] (.ok a)
  | abort (reason : Abort) : Course (.abort reason) [] (.error reason)
  | looking {next : Cluster → Pass α} {later : List Exchange} {result : Except Abort α}
      (c : Cluster) (hnext : Course (next c) later result) :
      Course (.looking next) (.looked c :: later) result
  | reading {secret : NamespacedName} {next : Option Secret → Pass α} {later : List Exchange}
      {result : Except Abort α} (found : Option Secret)
      (hnext : Course (next found) later result) :
      Course (.reading secret next) (.read secret (.ok found) :: later) result
  | unreadable {secret : NamespacedName} {next : Option Secret → Pass α} (reason : Abort) :
      Course (.reading secret next) [.read secret (.error reason)] (.error reason)
  | writing {w : Write} {next : Pass α} {later : List Exchange} {result : Except Abort α}
      (hnext : Course next later result) :
      Course (.writing w next) (.wrote w (.ok ()) :: later) result
  | unwritten {w : Write} {next : Pass α} (reason : Abort) :
      Course (.writing w next) [.wrote w (.error reason)] (.error reason)
  | counting {series : Series} {next : Pass α} {later : List Exchange}
      {result : Except Abort α} (hnext : Course next later result) :
      Course (.counting series next) (.counted series :: later) result

/-- Until the server is asked for something, this is what the caches show. -/
def FirstSees (caches : Caches) : List Exchange → Prop
  | .looked c :: later => c.caches = caches ∧ FirstSees caches later
  | .counted _ :: later => FirstSees caches later
  | .read .. :: _ | .wrote .. :: _ | [] => True

theorem FirstSees.of_append {caches : Caches} {before after : List Exchange}
    (hsees : FirstSees caches (before ++ after)) : FirstSees caches before := by
  induction before with
  | nil => trivial
  | cons x before ih =>
      cases x with
      | looked => exact ⟨hsees.1, ih hsees.2⟩
      | counted => exact ih hsees
      | read | wrote => trivial

/-- A failure is the last that happens. -/
theorem Course.nil_of_hasFailed {p : Pass α} {exchanges : List Exchange}
    {result : Except Abort α} (hcourse : p.Course exchanges result)
    {before after : List Exchange} {x : Exchange} (hsplit : exchanges = before ++ x :: after)
    (hx : x.hasFailed = true) : after = [] ∧ ∃ reason, result = .error reason := by
  have hgoOn : ∀ {first : Exchange} {later before : List Exchange} {result : Except Abort α},
      first.hasFailed = false → first :: later = before ++ x :: after →
      (∀ {before : List Exchange}, later = before ++ x :: after →
        after = [] ∧ ∃ reason, result = .error reason) →
      after = [] ∧ ∃ reason, result = .error reason := by
    intro first later before result hfirst hsplit ih
    cases before with
    | nil =>
        obtain ⟨rfl, -⟩ := List.cons.inj hsplit
        exact absurd hx (by simp [hfirst])
    | cons _ before => exact ih (List.cons.inj hsplit).2
  induction hcourse generalizing before with
  | done | abort => simp at hsplit
  | looking _ _ ih | reading _ _ ih | writing _ ih | counting _ ih =>
      exact hgoOn rfl hsplit fun hlater => ih hlater
  | unreadable reason | unwritten reason =>
      cases before with
      | nil => exact ⟨(List.cons.inj hsplit).2.symm, reason, rfl⟩
      | cons => simp at hsplit

theorem course_pure_iff {a : α} {exchanges : List Exchange} {result : Except Abort α} :
    (pure a : Pass α).Course exchanges result ↔ exchanges = [] ∧ result = .ok a := by
  constructor
  · rintro ⟨⟩
    exact ⟨rfl, rfl⟩
  · rintro ⟨rfl, rfl⟩
    exact .done a

/-- A pass that fails does not go on. -/
theorem Course.bind_of_error {p : Pass α} {f : α → Pass β} {exchanges : List Exchange}
    {reason : Abort} (herror : p.Course exchanges (.error reason)) :
    (p >>= f).Course exchanges (.error reason) := by
  change (p.andThen f).Course exchanges (.error reason)
  generalize hresult : (Except.error reason : Except Abort α) = failed at herror
  induction herror with
  | done => cases hresult
  | abort reason' =>
      cases hresult
      exact .abort reason
  | looking c _ ih => exact .looking c (ih hresult)
  | reading found _ ih => exact .reading found (ih hresult)
  | writing _ ih => exact .writing (ih hresult)
  | counting _ ih => exact .counting (ih hresult)
  | unreadable | unwritten =>
      cases hresult
      constructor

/-- A pass that ends well goes on from its value. -/
theorem Course.bind_of_ok {p : Pass α} {f : α → Pass β} {before after : List Exchange} {a : α}
    {result : Except Abort β} (hok : p.Course before (.ok a)) (hf : (f a).Course after result) :
    (p >>= f).Course (before ++ after) result := by
  change (p.andThen f).Course (before ++ after) result
  generalize hresult : (Except.ok a : Except Abort α) = value at hok
  induction hok with
  | done =>
      cases hresult
      exact hf
  | abort | unreadable | unwritten => cases hresult
  | looking c _ ih => exact .looking c (ih hresult)
  | reading found _ ih => exact .reading found (ih hresult)
  | writing _ ih => exact .writing (ih hresult)
  | counting _ ih => exact .counting (ih hresult)

/-- A pass that goes on with another one fails before it does, or takes a course of
each. -/
theorem course_bind_iff {p : Pass α} {f : α → Pass β} {exchanges : List Exchange}
    {result : Except Abort β} :
    (p >>= f).Course exchanges result ↔
      (∃ reason, result = .error reason ∧ p.Course exchanges (.error reason)) ∨
      ∃ a before after, exchanges = before ++ after ∧ p.Course before (.ok a) ∧
        (f a).Course after result := by
  constructor
  · intro hcourse
    replace hcourse : (p.andThen f).Course exchanges result := hcourse
    induction p generalizing exchanges with
    | done a => exact .inr ⟨a, [], exchanges, rfl, .done a, hcourse⟩
    | abort reason =>
        cases hcourse
        exact .inl ⟨reason, rfl, .abort reason⟩
    | looking next ih =>
        cases hcourse with
        | looking c hnext =>
            obtain ⟨reason, rfl, herror⟩ | ⟨a, before, after, rfl, hok, hf⟩ := ih c hnext
            · exact .inl ⟨reason, rfl, .looking c herror⟩
            · exact .inr ⟨a, _ :: before, after, rfl, .looking c hok, hf⟩
    | reading secret next ih =>
        cases hcourse with
        | unreadable reason => exact .inl ⟨reason, rfl, .unreadable reason⟩
        | reading found hnext =>
            obtain ⟨reason, rfl, herror⟩ | ⟨a, before, after, rfl, hok, hf⟩ := ih found hnext
            · exact .inl ⟨reason, rfl, .reading found herror⟩
            · exact .inr ⟨a, _ :: before, after, rfl, .reading found hok, hf⟩
    | writing w next ih =>
        cases hcourse with
        | unwritten reason => exact .inl ⟨reason, rfl, .unwritten reason⟩
        | writing hnext =>
            obtain ⟨reason, rfl, herror⟩ | ⟨a, before, after, rfl, hok, hf⟩ := ih hnext
            · exact .inl ⟨reason, rfl, .writing herror⟩
            · exact .inr ⟨a, _ :: before, after, rfl, .writing hok, hf⟩
    | counting series next ih =>
        cases hcourse with
        | counting hnext =>
            obtain ⟨reason, rfl, herror⟩ | ⟨a, before, after, rfl, hok, hf⟩ := ih hnext
            · exact .inl ⟨reason, rfl, .counting herror⟩
            · exact .inr ⟨a, _ :: before, after, rfl, .counting hok, hf⟩
  · rintro (⟨reason, rfl, herror⟩ | ⟨a, before, after, rfl, hok, hf⟩)
    · exact herror.bind_of_error
    · exact hok.bind_of_ok hf

theorem course_fail_iff {f : Failure} {exchanges : List Exchange} {result : Except Abort α} :
    (fail f : Pass α).Course exchanges result ↔
      exchanges = [] ∧ result = .error (.failed f) := by
  constructor
  · rintro ⟨⟩
    exact ⟨rfl, rfl⟩
  · rintro ⟨rfl, rfl⟩
    exact .abort _

theorem course_look_bind_iff {f : Cluster → Pass α} {exchanges : List Exchange}
    {result : Except Abort α} :
    (look >>= f).Course exchanges result ↔
      ∃ c later, exchanges = .looked c :: later ∧ (f c).Course later result := by
  constructor
  · rintro (_ | _ | ⟨c, hnext⟩)
    exact ⟨c, _, rfl, hnext⟩
  · rintro ⟨c, later, rfl, hnext⟩
    exact .looking c hnext

/-- One of the gateway's objects is cached when the pass looks for it, or the pass
ends. -/
theorem course_gatewayObject_bind_iff [Stored α] {name : NamespacedName} {f : α → Pass β}
    {exchanges : List Exchange} {result : Except Abort β} :
    (gatewayObject α name >>= f).Course exchanges result ↔
      ∃ (c : Cluster) (later : List Exchange), exchanges = .looked c :: later ∧
        ((∃ a, c.cached? α name = some a ∧ (f a).Course later result) ∨
          c.cached? α name = none ∧ later = [] ∧ result =
            .error (.failed (.missingObject (Cached.kind α).name name.ns name.name))) := by
  rw [gatewayObject, bind_assoc, course_look_bind_iff]
  refine exists_congr fun c => exists_congr fun later => and_congr_right fun _ => ?_
  cases hcached : c.cached? α name with
  | some a => simp only [Option.some.injEq, exists_eq_left', reduceCtorEq, false_and, or_false,
      pure_bind]
  | none =>
      simp only [reduceCtorEq, false_and, exists_false, true_and, false_or]
      exact course_fail_iff

/-! ## Running a pass -/

/-- The server holds each object that was taken, at a version of its own. -/
def AreHeld (exchanges : List Exchange) (held : List Write) : Prop :=
  (exchanges.filterMap Exchange.taken?).Forall₂ (fun w h => ∃ version, h = w.atVersion version)
    held

/-- A pass that is run in a cluster takes this course, and the server holds these
objects behind it. -/
def Runs (c : Cluster) (p : Pass α) (exchanges : List Exchange) (held : List Write) : Prop :=
  p.Course exchanges (c.perform p).1 ∧ FirstSees c.caches exchanges ∧
    (c.perform p).2.writes = c.writes ++ held ∧ AreHeld exchanges held

/-- A pass that is run to its end takes one of its courses. -/
theorem exists_runs (c : Cluster) (p : Pass α) :
    ∃ exchanges held, Runs c p exchanges held := by
  unfold Runs
  induction p generalizing c with
  | done a => exact ⟨[], [], .done a, trivial, (List.append_nil _).symm, .nil⟩
  | abort reason => exact ⟨[], [], .abort reason, trivial, (List.append_nil _).symm, .nil⟩
  | looking next ih =>
      obtain ⟨exchanges, held, hcourse, hsees, hwrites, hheld⟩ := ih c c
      exact ⟨_, held, .looking c hcourse, ⟨rfl, hsees⟩, hwrites, hheld⟩
  | reading secret next ih =>
      rw [Cluster.perform, c.fetch_eq secret]
      cases c.nextFault? .readSecret with
      | none =>
          obtain ⟨exchanges, held, hcourse, -, hwrites, hheld⟩ :=
            ih (c.secrets.get? secret) (c.past .readSecret)
          exact ⟨_, held, .reading _ hcourse, trivial, hwrites, hheld⟩
      | some fault =>
          exact ⟨_, [], .unreadable fault.abort, trivial, (List.append_nil _).symm, .nil⟩
  | writing w next ih =>
      rw [Cluster.perform]
      obtain ⟨-, htaken⟩ | ⟨reason, hfailed, -⟩ := c.submit_cases_of_accepts w
      · rw [htaken]
        obtain ⟨exchanges, held, hcourse, -, hwrites, hheld⟩ := ih ((c.past w.call).take w)
        refine ⟨_, w.atVersion (Cached.versionText (c.version + 1)) :: held, .writing hcourse,
          trivial, ?_, .cons ⟨_, rfl⟩ hheld⟩
        dsimp only
        rw [hwrites, Cluster.writes_take, List.append_assoc]
        rfl
      · rw [hfailed]
        exact ⟨_, [], .unwritten reason, trivial, (List.append_nil _).symm, .nil⟩
  | counting series next ih =>
      obtain ⟨exchanges, held, hcourse, hsees, hwrites, hheld⟩ := ih (c.count series)
      exact ⟨_, held, .counting hcourse, hsees, hwrites, hheld⟩

end Pass

/-! ## Looking up the secrets -/

/-- The call that looks up the secret that a Remote refers to, if it does. -/
def Document.Source.lookUp? (s : Source) : Option Exchange :=
  (secretRef? s.remote).map fun ref => .read ref (.ok s.secret)

namespace Pass

/-- The Remotes with the secrets that looking them up has brought, each by a call of
its own. -/
structure Gathers (remotes : List Remote) (exchanges : List Exchange)
    (sources : List Document.Source) : Prop where
  remotes : sources.map Document.Source.remote = remotes
  lookUps : exchanges = sources.filterMap Document.Source.lookUp?
  others : ∀ s ∈ sources, Document.secretRef? s.remote = none → s.secret = none

theorem course_gatherOne_ok {r : Remote} {exchanges : List Exchange} {s : Document.Source}
    (hcourse : (Document.gatherOne readSecret r).Course exchanges (.ok s)) :
    s.remote = r ∧ exchanges = s.lookUp?.toList ∧
      (Document.secretRef? s.remote = none → s.secret = none) := by
  rw [Document.gatherOne] at hcourse
  cases href : Document.secretRef? r with
  | none =>
      rw [href] at hcourse
      obtain ⟨rfl, hs⟩ := course_pure_iff.1 hcourse
      cases hs
      exact ⟨rfl, by simp [Document.Source.lookUp?, href], fun _ => rfl⟩
  | some ref =>
      rw [href] at hcourse
      cases hcourse with
      | reading found hnext =>
          obtain ⟨rfl, hs⟩ := course_pure_iff.1 hnext
          cases hs
          exact ⟨rfl, by simp [Document.Source.lookUp?, href], by simp [href]⟩

theorem course_gatherOne_error {r : Remote} {exchanges : List Exchange} {reason : Abort}
    (hcourse : (Document.gatherOne readSecret r).Course exchanges (.error reason)) :
    ∃ ref, exchanges = [.read ref (.error reason)] := by
  rw [Document.gatherOne] at hcourse
  cases href : Document.secretRef? r with
  | none =>
      rw [href] at hcourse
      cases (course_pure_iff.1 hcourse).2
  | some ref =>
      rw [href] at hcourse
      cases hcourse with
      | unreadable => exact ⟨ref, rfl⟩
      | reading found hnext => cases (course_pure_iff.1 hnext).2

/-- However the secret is answered, looking it up is a course of the pass. -/
theorem course_gatherOne {s : Document.Source}
    (hsecret : Document.secretRef? s.remote = none → s.secret = none) :
    (Document.gatherOne readSecret s.remote).Course s.lookUp?.toList (.ok s) := by
  rw [Document.gatherOne, Document.Source.lookUp?]
  cases href : Document.secretRef? s.remote with
  | none =>
      obtain ⟨r, secret⟩ := s
      obtain rfl : secret = none := hsecret href
      exact .done _
  | some ref => exact .reading s.secret (.done s)

theorem lookUps_cons (s : Document.Source) (rest : List Document.Source) :
    (s :: rest).filterMap Document.Source.lookUp? =
      s.lookUp?.toList ++ rest.filterMap Document.Source.lookUp? := by
  cases hlookUp : s.lookUp? <;> simp [hlookUp]

/-- The secrets are looked up one by one, and each may be answered by any secret or
none. -/
theorem course_gather_ok_iff {remotes : List Remote} {exchanges : List Exchange}
    {sources : List Document.Source} :
    (Document.gather readSecret remotes).Course exchanges (.ok sources) ↔
      Gathers remotes exchanges sources := by
  rw [Document.gather]
  constructor
  · intro hcourse
    induction remotes generalizing exchanges sources with
    | nil =>
        obtain ⟨rfl, hsources⟩ := course_pure_iff.1 hcourse
        cases hsources
        exact ⟨rfl, rfl, by simp⟩
    | cons r rest ih =>
        rw [List.mapM_cons, course_bind_iff] at hcourse
        obtain ⟨_, herror, -⟩ | ⟨s, before, _, rfl, hfirst, hcourse⟩ := hcourse
        case inl => cases herror
        rw [course_bind_iff] at hcourse
        obtain ⟨_, herror, -⟩ | ⟨later, after, _, rfl, hrest, hdone⟩ := hcourse
        case inl => cases herror
        obtain ⟨rfl, hsources⟩ := course_pure_iff.1 hdone
        cases hsources
        obtain ⟨rfl, rfl, hsecret⟩ := course_gatherOne_ok hfirst
        obtain ⟨rfl, rfl, hothers⟩ := ih hrest
        refine ⟨rfl, by rw [lookUps_cons, List.append_nil], ?_⟩
        intro s' hs'
        rcases List.mem_cons.1 hs' with rfl | hs'
        · exact hsecret
        · exact hothers s' hs'
  · rintro ⟨rfl, rfl, hothers⟩
    induction sources with
    | nil => exact .done []
    | cons s rest ih =>
        have hfirst := course_gatherOne (hothers s List.mem_cons_self)
        have hrest := ih fun s' hs' => hothers s' (List.mem_cons_of_mem s hs')
        rw [List.map_cons, List.mapM_cons, lookUps_cons,
          ← List.append_nil (rest.filterMap Document.Source.lookUp?)]
        exact hfirst.bind_of_ok (hrest.bind_of_ok (.done _))

/-- The first secret that cannot be read is the last that is looked up. -/
theorem course_gather_error {remotes : List Remote} {exchanges : List Exchange}
    {reason : Abort}
    (hcourse : (Document.gather readSecret remotes).Course exchanges (.error reason)) :
    ∃ (sources : List Document.Source) (ref : NamespacedName),
      exchanges = sources.filterMap Document.Source.lookUp? ++ [.read ref (.error reason)] := by
  rw [Document.gather] at hcourse
  induction remotes generalizing exchanges with
  | nil => cases (course_pure_iff.1 hcourse).2
  | cons r rest ih =>
      rw [List.mapM_cons, course_bind_iff] at hcourse
      obtain ⟨_, hreason, hfirst⟩ | ⟨s, before, _, rfl, hfirst, hcourse⟩ := hcourse
      · cases hreason
        obtain ⟨ref, rfl⟩ := course_gatherOne_error hfirst
        exact ⟨[], ref, rfl⟩
      rw [course_bind_iff] at hcourse
      obtain ⟨_, hreason, hrest⟩ | ⟨_, _, _, rfl, -, hdone⟩ := hcourse
      · cases hreason
        obtain ⟨-, rfl, -⟩ := course_gatherOne_ok hfirst
        obtain ⟨sources, ref, rfl⟩ := ih hrest
        exact ⟨s :: sources, ref, by rw [lookUps_cons, List.append_assoc]⟩
      · cases (course_pure_iff.1 hdone).2

end Pass

end GatewaySync
