/-!
# Names of objects in a namespace

Queues carry objects by their written name: `namespace/name`, or `name` alone where there is no
namespace.
-/

namespace GatewaySync

/-- A name and the namespace around it, which is empty when there is none. -/
structure NamespacedName where
  ns : String
  name : String
deriving DecidableEq, Repr, Inhabited

namespace NamespacedName

/-- Names are ordered by namespace and then by name, character by character. -/
instance : Ord NamespacedName :=
  ⟨compareLex (compareOn ns) (compareOn name)⟩

instance : Std.TransOrd NamespacedName :=
  inferInstanceAs (Std.TransCmp (compareLex (compareOn ns) (compareOn name)))

instance : Std.LawfulEqOrd NamespacedName where
  compare_self := Std.ReflCmp.compare_self
  eq_of_compare {a b} h := by
    have h : (compareOn ns a b).then (compareOn name a b) = .eq := h
    rw [Ordering.then_eq_eq] at h
    have hn : a.ns = b.ns := Std.LawfulEqCmp.eq_of_compare h.1
    have hm : a.name = b.name := Std.LawfulEqCmp.eq_of_compare h.2
    cases a; cases b; cases hn; cases hm; rfl

/-- The written form. -/
def toString (key : NamespacedName) : String :=
  if key.ns.isEmpty then key.name else key.ns ++ "/" ++ key.name

instance : ToString NamespacedName := ⟨toString⟩

/-- The written form in which the slash always stands. -/
def path (key : NamespacedName) : String := key.ns ++ "/" ++ key.name

/-- Reads a written name: at most one slash, and a name that is not empty. -/
def ofString? (s : String) : Option NamespacedName :=
  let before := s.toList.takeWhile (· != '/')
  match s.toList.dropWhile (· != '/') with
  | [] => if before.isEmpty then none else some ⟨"", s⟩
  | _ :: after =>
    if after.isEmpty ∨ '/' ∈ after then none
    else some ⟨String.ofList before, String.ofList after⟩

end NamespacedName

end GatewaySync
