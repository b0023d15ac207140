import GatewaySync.Json.Reader
import GatewaySync.Proofs.JsonNumber

/-!
# Reading what was written

Compact text loses nothing.  A value of texts, integers, arrays and objects is
read back from it exactly as it was written, whatever characters the texts are
made of, as long as it is not nested more deeply than the reader allows.  So two
such values have the same text only if they are the same.
-/

namespace GatewaySync.Json

/-- Nothing but null, truth values, exact integers and texts stands in it, inside
at most so many arrays and objects. -/
inductive IsTextual : Nat → Json → Prop where
  | null {depth : Nat} : IsTextual depth .null
  | bool {depth : Nat} (value : Bool) : IsTextual depth (.bool value)
  | int {depth : Nat} {n : Int} (hn : Number.isExactInteger n = true) : IsTextual depth (.int n)
  | str {depth : Nat} (s : String) : IsTextual depth (.str s)
  | arr {depth : Nat} {items : List Json} (hitems : ∀ j ∈ items, IsTextual depth j) :
      IsTextual (depth + 1) (.arr items)
  | obj {depth : Nat} {members : List (String × Json)}
      (hmembers : ∀ m ∈ members, IsTextual depth m.2) : IsTextual (depth + 1) (.obj members)

theorem IsTextual.mono {depth depth' : Nat} {j : Json} (hj : j.IsTextual depth)
    (hle : depth ≤ depth') : j.IsTextual depth' := by
  induction hj generalizing depth' with
  | null => exact .null
  | bool value => exact .bool value
  | int hn => exact .int hn
  | str s => exact .str s
  | arr _ ih =>
      obtain ⟨deeper, rfl⟩ := Nat.exists_eq_add_of_lt hle
      exact .arr fun j hj => ih j hj (Nat.le_add_right _ _)
  | obj _ ih =>
      obtain ⟨deeper, rfl⟩ := Nat.exists_eq_add_of_lt hle
      exact .obj fun m hm => ih m hm (Nat.le_add_right _ _)

namespace Reader

/-! ## Strings -/

/-- What is read of one written character: itself, or the number that it is
escaped by. -/
def Piece.IsOf (piece : Piece) (c : Char) : Prop :=
  piece = .char c ∨ piece = .unit c.toNat ∧ c.toNat < 0x20

theorem unitOf?_hexDigits (n : Nat) (hn : n < 0x20) :
    unitOf? '0' '0' (hexDigit (n / 16)) (hexDigit (n % 16)) = some n := by
  revert n
  decide

theorem exists_stringBody_escapedChar (c : Char) :
    ∃ piece : Piece, piece.IsOf c ∧ ∀ rest, stringBody (escapedChar c ++ rest) =
      (stringBody rest).map fun r => (piece :: r.1, r.2) := by
  unfold escapedChar
  split
  case h_8 hquote hslash _ _ _ _ _ =>
    split
    case isTrue hcontrol =>
      refine ⟨.unit c.toNat, .inr ⟨rfl, hcontrol⟩, fun rest => ?_⟩
      simp only [List.cons_append, List.nil_append, stringBody, unitOf?_hexDigits _ hcontrol]
    case isFalse hprintable =>
      refine ⟨.char c, .inl rfl, fun rest => ?_⟩
      rw [List.singleton_append, stringBody, if_neg hprintable]
      · exact hquote
      · intro _ _ _ _ _ heq _
        exact hslash heq
      · intro _ _ heq _
        exact hslash heq
  -- the other characters have an escape of their own, of one letter
  all_goals exact ⟨.char _, .inl rfl, fun rest => rfl⟩

theorem charsOf?_cons_of_isOf {piece : Piece} {c : Char} (hpiece : piece.IsOf c) (body : Body) :
    charsOf? (piece :: body) = (charsOf? body).map (c :: ·) := by
  obtain rfl | ⟨rfl, hcontrol⟩ := hpiece
  · rfl
  · have hunit : unitChar? c.toNat = some c := by
      rw [unitChar?, if_neg (by omega), Char.ofNat_toNat]
    rw [charsOf?.eq_def (.unit c.toNat :: body)]
    simp only [hunit]

theorem exists_stringBody (s : String) :
    ∃ body, textOf? body = some s ∧ ∀ rest,
      stringBody (s.toList.flatMap escapedChar ++ '"' :: rest) = some (body, rest) := by
  have hchars : ∀ cs : List Char, ∃ body, charsOf? body = some cs ∧ ∀ rest,
      stringBody (cs.flatMap escapedChar ++ '"' :: rest) = some (body, rest) := by
    intro cs
    induction cs with
    | nil => exact ⟨[], rfl, fun _ => rfl⟩
    | cons c cs ih =>
        obtain ⟨piece, hpiece, hread⟩ := exists_stringBody_escapedChar c
        obtain ⟨body, hbody, hrest⟩ := ih
        refine ⟨piece :: body, ?_, fun rest => ?_⟩
        · rw [charsOf?_cons_of_isOf hpiece, hbody]
          rfl
        · rw [List.flatMap_cons, List.append_assoc, hread, hrest]
          rfl
  obtain ⟨body, hbody, hread⟩ := hchars s.toList
  exact ⟨body, by rw [textOf?, hbody, Option.map_some, String.ofList_toList], hread⟩

/-! ## Where a value starts -/

/-- An integer starts with a digit or a sign, and with nothing else. -/
theorem exists_ofInt_eq_cons (n : Int) :
    ∃ c more, Text.Decimal.ofInt n = c :: more ∧
      ∀ other : Char, other.isDigit = false → other ≠ '-' → c ≠ other := by
  cases n with
  | ofNat n =>
      obtain ⟨c, more, heq, -⟩ := Number.exists_ofNat_eq_cons n
      have hdigit : c.isDigit = true := Number.isDigit_of_mem_ofNat (heq ▸ List.mem_cons_self)
      refine ⟨c, more, heq, fun other hother _ => ?_⟩
      rintro rfl
      exact Bool.false_ne_true (hother.symm.trans hdigit)
  | negSucc n => exact ⟨'-', _, rfl, fun _ _ hother => hother.symm⟩

theorem exists_chars_eq_cons {depth : Nat} {j : Json} (hj : j.IsTextual depth) :
    ∃ c more, j.chars = c :: more ∧ isBlank c = false ∧ c ≠ ']' := by
  cases hj with
  | null => exact ⟨_, _, rfl, rfl, by decide⟩
  | bool value => cases value <;> exact ⟨_, _, rfl, rfl, by decide⟩
  | @int _ n _ =>
      obtain ⟨c, more, heq, hc⟩ := exists_ofInt_eq_cons n
      refine ⟨c, more, heq, ?_, hc ']' (by decide) (by decide)⟩
      simp [isBlank, hc ' ' (by decide) (by decide), hc '\n' (by decide) (by decide),
        hc '\r' (by decide) (by decide), hc '\t' (by decide) (by decide)]
  | str s => exact ⟨_, _, rfl, rfl, by decide⟩
  | @arr _ items _ => cases items <;> exact ⟨_, _, rfl, rfl, by decide⟩
  | @obj _ members _ => cases members <;> exact ⟨_, _, rfl, rfl, by decide⟩

theorem skipBlanks_cons {c : Char} (hc : isBlank c = false) (rest : List Char) :
    skipBlanks (c :: rest) = c :: rest :=
  List.dropWhile_cons_of_neg (by simp [hc])

theorem skipBlanks_chars {depth : Nat} {j : Json} (hj : j.IsTextual depth) (rest : List Char) :
    skipBlanks (j.chars ++ rest) = j.chars ++ rest := by
  obtain ⟨c, more, hchars, hblank, -⟩ := exists_chars_eq_cons hj
  rw [hchars, List.cons_append, skipBlanks_cons hblank]

theorem skipBlanks_stringChars (name : String) (rest : List Char) :
    skipBlanks (stringChars name ++ rest) = stringChars name ++ rest := by
  rw [stringChars, List.cons_append, List.cons_append, skipBlanks_cons (by rfl)]

/-! ## Items and members -/

theorem length_lt_length_itemsChars (items : List Json) :
    items.length < (itemsChars items).length := by
  induction items with
  | nil => exact Nat.zero_lt_one
  | cons j items ih =>
      simp only [itemsChars, List.length_cons, List.length_append]
      omega

theorem length_lt_length_membersChars (members : List (String × Json)) :
    members.length < (membersChars members).length := by
  induction members with
  | nil => exact Nat.zero_lt_one
  | cons m members ih =>
      simp only [membersChars, List.length_cons, List.length_append]
      omega

/-! What stands behind an item or a member does not prolong it. -/

theorem endsNumber_cons {c : Char} (hc : c.isDigit = false ∧ c ≠ '.' ∧ c ≠ 'e' ∧ c ≠ 'E')
    (rest : List Char) : Number.EndsNumber (c :: rest) := by
  intro d hd
  obtain rfl := Option.some.inj hd
  exact hc

theorem endsNumber_itemsChars (items : List Json) (rest : List Char) :
    Number.EndsNumber (itemsChars items ++ rest) := by
  cases items <;> exact endsNumber_cons (by decide) _

theorem endsNumber_membersChars (members : List (String × Json)) (rest : List Char) :
    Number.EndsNumber (membersChars members ++ rest) := by
  cases members <;> exact endsNumber_cons (by decide) _

section Sequences

variable {depth fuel : Nat} {value : List Char → Option (Json × List Char)}

theorem itemsAfter_itemsChars {items : List Json} (hitems : ∀ j ∈ items, j.IsTextual depth)
    (hvalue : ∀ j ∈ items, ∀ rest, Number.EndsNumber rest →
      value (j.chars ++ rest) = some (j, rest))
    (hfuel : items.length < fuel) (rest : List Char) :
    itemsAfter value fuel (itemsChars items ++ rest) = some (items, rest) := by
  induction items generalizing fuel with
  | nil =>
      obtain ⟨fuel, rfl⟩ := Nat.exists_eq_add_of_lt hfuel
      rfl
  | cons j items ih =>
      obtain ⟨fuel, rfl⟩ : ∃ n, fuel = n + 1 := Nat.exists_eq_succ_of_ne_zero (by omega)
      have hrest := ih (fun j hj => hitems j (List.mem_cons_of_mem _ hj))
        (fun j hj => hvalue j (List.mem_cons_of_mem _ hj)) (Nat.lt_of_succ_lt_succ hfuel)
      rw [itemsChars, List.cons_append, List.append_assoc, itemsAfter,
        skipBlanks_cons (by rfl)]
      simp only [skipBlanks_chars (hitems j List.mem_cons_self),
        hvalue j List.mem_cons_self _ (endsNumber_itemsChars _ _), hrest, Option.bind_eq_bind,
        Option.bind_some, Option.pure_def]

/-- A member is read with the pieces of its name. -/
theorem exists_member_chars {j : Json} (hj : j.IsTextual depth)
    (hvalue : ∀ rest, Number.EndsNumber rest → value (j.chars ++ rest) = some (j, rest))
    (name : String) :
    ∃ body, textOf? body = some name ∧ ∀ rest, Number.EndsNumber rest →
      member value (stringChars name ++ ':' :: (j.chars ++ rest)) = some ((body, j), rest) := by
  obtain ⟨body, hbody, hread⟩ := exists_stringBody name
  refine ⟨body, hbody, fun rest hrest => ?_⟩
  have hcolon : skipBlanks (':' :: (j.chars ++ rest)) = ':' :: (j.chars ++ rest) :=
    skipBlanks_cons (by rfl) _
  simp only [member, stringChars, List.cons_append, List.append_assoc, List.nil_append,
    skipBlanks_cons (c := '"') (by rfl), hread, hcolon, skipBlanks_chars hj,
    hvalue rest hrest,
    Option.bind_eq_bind, Option.bind_some, Option.pure_def]

/-- The members with their names put together. -/
def named? (members : List (Body × Json)) : Option (List (String × Json)) :=
  members.mapM fun m => (textOf? m.1).map (·, m.2)

theorem named?_cons {body : Body} {name : String} (hbody : textOf? body = some name) (j : Json)
    (members : List (Body × Json)) :
    named? ((body, j) :: members) = (named? members).map ((name, j) :: ·) := by
  rw [named?, List.mapM_cons, hbody, named?]
  cases members.mapM fun m => (textOf? m.1).map (·, m.2) <;> rfl

theorem ofMembers_of_named? {found : List (Body × Json)} {members : List (String × Json)}
    (hnamed : named? found = some members) : ofMembers found = .obj members := by
  rw [named?] at hnamed
  rw [ofMembers, hnamed]

theorem exists_membersAfter_membersChars {members : List (String × Json)}
    (hmembers : ∀ m ∈ members, m.2.IsTextual depth)
    (hvalue : ∀ m ∈ members, ∀ rest, Number.EndsNumber rest →
      value (m.2.chars ++ rest) = some (m.2, rest)) :
    ∃ found, named? found = some members ∧ ∀ fuel, members.length < fuel → ∀ rest,
      membersAfter value fuel (membersChars members ++ rest) = some (found, rest) := by
  induction members with
  | nil =>
      refine ⟨[], rfl, fun fuel hfuel rest => ?_⟩
      obtain ⟨fuel, rfl⟩ := Nat.exists_eq_add_of_lt hfuel
      rfl
  | cons m members ih =>
      obtain ⟨name, j⟩ := m
      obtain ⟨found, hfound, hrest⟩ := ih (fun m hm => hmembers m (List.mem_cons_of_mem _ hm))
        (fun m hm => hvalue m (List.mem_cons_of_mem _ hm))
      obtain ⟨body, hbody, hread⟩ := exists_member_chars (hmembers _ List.mem_cons_self)
        (hvalue _ List.mem_cons_self) name
      refine ⟨(body, j) :: found, ?_, fun fuel hfuel rest => ?_⟩
      · rw [named?_cons hbody, hfound]
        rfl
      · obtain ⟨fuel, rfl⟩ : ∃ n, fuel = n + 1 := Nat.exists_eq_succ_of_ne_zero (by omega)
        rw [membersChars, List.cons_append, List.append_assoc, List.cons_append,
          List.append_assoc, membersAfter, skipBlanks_cons (by rfl)]
        simp only [hread _ (endsNumber_membersChars _ _), hrest fuel (Nat.lt_of_succ_lt_succ hfuel),
          Option.bind_eq_bind, Option.bind_some, Option.pure_def]

end Sequences

/-! ## Values -/

theorem value_ofInt {n : Int} (hn : Number.isExactInteger n = true) (depth : Nat)
    {rest : List Char} (hrest : Number.EndsNumber rest) :
    value depth (Text.Decimal.ofInt n ++ rest) = some (.int n, rest) := by
  have hread := Number.read?_ofInt hn hrest
  obtain ⟨c, more, heq, hc⟩ := exists_ofInt_eq_cons n
  rw [heq] at hread ⊢
  unfold value
  split
  case h_7 => exact hread
  -- no other value starts with a digit or a sign
  all_goals
    next heq => exact absurd (List.cons.inj heq).1 (hc _ (by decide) (by decide))

section Containers

variable {depth : Nat}

/-- A list is read if its items are. -/
theorem value_arr_cons {j : Json} {items : List Json}
    (hitems : ∀ j' ∈ j :: items, j'.IsTextual depth)
    (hvalue : ∀ j' ∈ j :: items, ∀ rest, Number.EndsNumber rest →
      value depth (j'.chars ++ rest) = some (j', rest)) (rest : List Char) :
    value (depth + 1) ((Json.arr (j :: items)).chars ++ rest) = some (.arr (j :: items), rest) := by
  have hj := hitems j List.mem_cons_self
  have hfuel : items.length < (itemsChars items ++ rest).length + 1 := by
    have := length_lt_length_itemsChars items
    rw [List.length_append]
    omega
  have hafter : itemsAfter (value depth) ((itemsChars items ++ rest).length + 1)
      (itemsChars items ++ rest) = some (items, rest) :=
    itemsAfter_itemsChars (fun j' hj' => hitems j' (List.mem_cons_of_mem _ hj'))
      (fun j' hj' => hvalue j' (List.mem_cons_of_mem _ hj')) hfuel rest
  unfold value
  simp only [chars, List.cons_append, List.append_assoc]
  split
  next heq =>
    obtain ⟨c, more, hchars, -, hc⟩ := exists_chars_eq_cons hj
    rw [skipBlanks_chars hj, hchars] at heq
    exact absurd (List.cons.inj heq).1 hc
  next =>
    rw [skipBlanks_chars hj]
    simp only [hvalue j List.mem_cons_self _ (endsNumber_itemsChars _ _), hafter,
      Option.bind_eq_bind, Option.bind_some, Option.pure_def]

/-- An object is read if the values of its members are. -/
theorem value_obj_cons {name : String} {j : Json} {members : List (String × Json)}
    (hmembers : ∀ m ∈ (name, j) :: members, m.2.IsTextual depth)
    (hvalue : ∀ m ∈ (name, j) :: members, ∀ rest, Number.EndsNumber rest →
      value depth (m.2.chars ++ rest) = some (m.2, rest)) (rest : List Char) :
    value (depth + 1) ((Json.obj ((name, j) :: members)).chars ++ rest) =
      some (.obj ((name, j) :: members), rest) := by
  have hj := hmembers _ List.mem_cons_self
  obtain ⟨body, hbody, hmember⟩ := exists_member_chars hj (hvalue _ List.mem_cons_self) name
  obtain ⟨found, hfound, hfounds⟩ := exists_membersAfter_membersChars
    (fun m hm => hmembers m (List.mem_cons_of_mem _ hm))
    (fun m hm => hvalue m (List.mem_cons_of_mem _ hm))
  have hfuel : members.length < (membersChars members ++ rest).length + 1 := by
    have := length_lt_length_membersChars members
    rw [List.length_append]
    omega
  unfold value
  simp only [chars, List.cons_append, List.append_assoc]
  split
  next heq =>
    rw [skipBlanks_stringChars] at heq
    exact absurd (List.cons.inj heq).1 (by decide)
  next =>
    have hnamed : named? ((body, j) :: found) = some ((name, j) :: members) := by
      rw [named?_cons hbody, hfound]
      rfl
    rw [skipBlanks_stringChars]
    simp only [hmember _ (endsNumber_membersChars _ _), hfounds _ hfuel,
      Option.bind_eq_bind, Option.bind_some, Option.pure_def, ofMembers_of_named? hnamed]

end Containers

theorem value_chars {depth : Nat} {j : Json} (hj : j.IsTextual depth) (rest : List Char)
    (hrest : Number.EndsNumber rest) : value depth (j.chars ++ rest) = some (j, rest) := by
  induction hj generalizing rest with
  | null => unfold value; rfl
  | bool value => cases value <;> (unfold Reader.value; rfl)
  | int hn => exact value_ofInt hn _ hrest
  | str s =>
      obtain ⟨body, hbody, hread⟩ := exists_stringBody s
      unfold value
      simp only [chars, stringChars, List.cons_append, List.append_assoc, List.nil_append, hread,
        Option.map_some, ofBody, hbody]
  | @arr depth items hitems ih =>
      cases items with
      | nil => unfold value; rfl
      | cons j items => exact value_arr_cons hitems ih rest
  | @obj depth members hmembers ih =>
      cases members with
      | nil => unfold value; rfl
      | cons m members => exact value_obj_cons hmembers ih rest

/-- A value is read back from its own text. -/
theorem whole?_text {depth : Nat} {j : Json} (hj : j.IsTextual depth) :
    whole? depth j.text = some j := by
  have hread := value_chars hj [] nofun
  have hblanks := skipBlanks_chars hj []
  rw [List.append_nil] at hread hblanks
  rw [whole?, text, String.toList_ofList, hblanks, hread]
  rfl

end Reader

/-! ## However deep -/

theorem length_itemsChars_le (items : List Json) :
    (itemsChars items).length ≤ (chars (.arr items)).length := by
  cases items <;> simp [itemsChars, chars]

theorem length_chars_lt_of_mem_items {items : List Json} {j : Json} (hj : j ∈ items) :
    j.chars.length < (itemsChars items).length := by
  induction items with
  | nil => cases hj
  | cons i items ih =>
      simp only [itemsChars, List.length_cons, List.length_append]
      obtain rfl | hj := List.mem_cons.1 hj
      · omega
      · have := ih hj
        omega

theorem length_membersChars_le (members : List (String × Json)) :
    (membersChars members).length ≤ (chars (.obj members)).length := by
  cases members <;> simp [membersChars, chars]

theorem length_chars_lt_of_mem_members {members : List (String × Json)} {m : String × Json}
    (hm : m ∈ members) : m.2.chars.length < (membersChars members).length := by
  induction members with
  | nil => cases hm
  | cons n members ih =>
      simp only [membersChars, List.length_cons, List.length_append]
      obtain rfl | hm := List.mem_cons.1 hm
      · omega
      · have := ih hm
        omega

/-- A text is at least as long as it is deep. -/
theorem IsTextual.length_chars {depth : Nat} {j : Json} (hj : j.IsTextual depth) :
    j.IsTextual j.chars.length := by
  induction hj with
  | null => exact .null
  | bool value => exact .bool value
  | int hn => exact .int hn
  | str s => exact .str s
  | @arr _ items _ ih =>
      have hlength := length_itemsChars_le items
      have hinside : ((chars (.arr items)).length - 1) + 1 = (chars (.arr items)).length :=
        Nat.sub_add_cancel (by cases items <;> simp [chars])
      rw [← hinside]
      refine .arr fun j hj => (ih j hj).mono ?_
      have := length_chars_lt_of_mem_items hj
      omega
  | @obj _ members _ ih =>
      have hlength := length_membersChars_le members
      have hinside : ((chars (.obj members)).length - 1) + 1 = (chars (.obj members)).length :=
        Nat.sub_add_cancel (by cases members <;> simp [chars])
      rw [← hinside]
      refine .obj fun m hm => (ih m hm).mono ?_
      have := length_chars_lt_of_mem_members hm
      omega

/-- A text is read back as it is written, however deep. -/
theorem outline?_text {depth : Nat} {j : Json} (hj : j.IsTextual depth) :
    outline? j.text = some j := by
  rw [outline?, text, String.length_ofList]
  exact Reader.whole?_text hj.length_chars

end GatewaySync.Json
