import GatewaySync.Remote.Json
import GatewaySync.Proofs.JsonText
import GatewaySync.Proofs.SortedMap

/-!
# Records that are read back

What is written of a typed value is read back as that value.  A record needs
this of its fields only: each is read from its own member, or it is left out and
its value is the one that an absent field has.
-/

namespace GatewaySync

namespace Json

/-- A field's value is read from its member, or the member is left out and the
value is the one that its absence stands for. -/
def StandsFor {α : Type} (decodeField : Json → Decoded α) (absent : α) :
    Option Json → α → Prop
  | none, a => a = absent
  | some j, a => decodeField j = .ok a

theorem nodup_ofMembers {members : List (String × Option Json)}
    (hnames : (members.map Prod.fst).Nodup) :
    ((members.filterMap fun m => m.2.map (m.1, ·)).map Prod.fst).Nodup := by
  refine hnames.sublist ?_
  induction members with
  | nil => exact .slnil
  | cons m members ih =>
      obtain ⟨name, _ | j⟩ := m
      · exact (ih (List.nodup_cons.1 hnames).2).cons _
      · exact (ih (List.nodup_cons.1 hnames).2).cons_cons _

section Named

variable {members : List (String × Json)} {name : String}

theorem filter_of_notMem (hname : name ∉ members.map Prod.fst) :
    (members.filter fun m => m.1 == name) = [] := by
  rw [List.filter_eq_nil_iff]
  intro m hm heq
  exact hname (List.mem_map.2 ⟨m, hm, by simpa using heq⟩)

theorem filter_of_mem (hnames : (members.map Prod.fst).Nodup) {j : Json}
    (hmem : (name, j) ∈ members) : (members.filter fun m => m.1 == name) = [(name, j)] := by
  induction members with
  | nil => cases hmem
  | cons m members ih =>
      obtain ⟨hfirst, hrest⟩ := List.nodup_cons.1 hnames
      rw [List.filter_cons]
      obtain rfl | hmem := List.mem_cons.1 hmem
      · rw [if_pos (beq_self_eq_true _), filter_of_notMem hfirst]
      · have hne : ¬(m.1 == name) = true := fun heq =>
          hfirst (by
            rw [beq_iff_eq.1 heq]
            exact List.mem_map.2 ⟨_, hmem, rfl⟩)
        rw [if_neg hne]
        exact ih hrest hmem

end Named

section OfMembers

variable {members : List (String × Option Json)} {name : String} {member? : Option Json}

/-- A name stands for one member, which is written or left out. -/
theorem mem_filterMap_iff (hnames : (members.map Prod.fst).Nodup)
    (hmem : (name, member?) ∈ members) (j : Json) :
    (name, j) ∈ (members.filterMap fun m => m.2.map (m.1, ·)) ↔ member? = some j := by
  simp only [List.mem_filterMap, Option.map_eq_some_iff, Prod.mk.injEq]
  constructor
  · rintro ⟨m, hm, _, hj, hname, rfl⟩
    have heq : m = (name, member?) := List.inj_on_of_nodup_map hnames hm hmem hname
    rw [heq] at hj
    exact hj
  · rintro rfl
    exact ⟨_, hmem, j, rfl, rfl, rfl⟩

theorem filter_filterMap (hnames : (members.map Prod.fst).Nodup)
    (hmem : (name, member?) ∈ members) :
    ((members.filterMap fun m => m.2.map (m.1, ·)).filter fun m => m.1 == name) =
      member?.toList.map (name, ·) := by
  have hiff := mem_filterMap_iff hnames hmem
  cases member? with
  | some j => exact filter_of_mem (nodup_ofMembers hnames) ((hiff j).2 rfl)
  | none =>
      refine filter_of_notMem fun hname => ?_
      obtain ⟨m, hm, rfl⟩ := List.mem_map.1 hname
      cases (hiff m.2).1 hm

end OfMembers

namespace RecordForm

variable {form : RecordForm}

section Given

variable {members : List (String × Json)} {field : String}

theorem given_of_mem (hnames : (members.map Prod.fst).Nodup) {j : Json}
    (hmem : (field, j) ∈ members) : form.given (.named members) field = [j] := by
  rw [given, filter_of_mem hnames hmem, List.map_singleton]

end Given

/-- The value of a field is read from a record that is written as an object. -/
def Reads {α : Type} (form : RecordForm) (j : Json) (field : String)
    (decodeField : Json → Decoded α) (absent a : α) : Prop :=
  ∀ members, j = .obj members →
    errorOf (form.read (.named members) field decodeField) = none ∧
      valueOr absent (form.read (.named members) field decodeField) = a

section Reads

variable {α : Type} {decodeField : Json → Decoded α} {absent a : α} {field : String}

theorem reads_obj {members : List (String × Json)} (hnames : (members.map Prod.fst).Nodup)
    {j : Json} (hmem : (field, j) ∈ members) (hread : decodeField j = .ok a) :
    form.Reads (.obj members) field decodeField absent a := by
  intro _ heq
  obtain rfl := Json.obj.inj heq
  simp only [read, given_of_mem hnames hmem, hread]
  exact ⟨rfl, rfl⟩

theorem reads_ofMembers {members : List (String × Option Json)}
    (hnames : (members.map Prod.fst).Nodup) {member? : Option Json}
    (hmem : (field, member?) ∈ members) (hstands : StandsFor decodeField absent member? a) :
    form.Reads (.ofMembers members) field decodeField absent a := by
  cases member? with
  | some j =>
      exact reads_obj (nodup_ofMembers hnames) (List.mem_filterMap.2 ⟨_, hmem, rfl⟩) hstands
  | none =>
      intro _ heq
      obtain rfl := Json.obj.inj heq
      rw [read, given, filter_filterMap hnames hmem]
      exact ⟨rfl, hstands.symm⟩

end Reads

/-- The record that was written is the one that is read, when every field was
read and none that must be present was left out. -/
theorem finish_named {members : List (String × Json)}
    {errors : List (String × Option DecodeError)} (herrors : ∀ e ∈ errors, e.2 = none)
    (hrequired : ∀ field ∈ form.fields, field.2 = true → field.1 ∈ members.map Prod.fst)
    {α : Type} (record : α) :
    form.finish (.named members) errors record = .ok record := by
  have hread : (SortedMap.ofList errors).toList.findSome? Prod.snd = none := by
    rw [List.findSome?_eq_none_iff]
    intro e he
    have hget := SortedMap.get?_eq_some_iff.2 he
    rw [SortedMap.get?_ofList, Option.map_eq_some_iff] at hget
    obtain ⟨e', hfind, heq⟩ := hget
    rw [← heq]
    exact herrors e' (List.mem_reverse.1 (List.mem_of_find?_eq_some hfind))
  have hpresent :
      (form.fields.find? fun f => f.2 && (form.given (.named members) f.1).isEmpty) =
        none := by
    rw [List.find?_eq_none]
    intro field hfield hmissing
    obtain ⟨hmust, hempty⟩ := Bool.and_eq_true_iff.1 hmissing
    obtain ⟨m, hm, hname⟩ := List.mem_map.1 (hrequired field hfield hmust)
    rw [List.isEmpty_iff, given, List.map_eq_nil_iff, List.filter_eq_nil_iff] at hempty
    exact hempty m hm (beq_iff_eq.2 hname)
  rw [finish, problem?]
  simp only [hread, hpresent, Option.map_none]

end RecordForm

/-! ## Texts, integers, lists, maps and what may be absent -/

theorem decodeInt64_toInt (g : Int64) : decodeInt64 (.int g.toInt) = .ok g := by
  have hrange : Text.Decimal.int64Min ≤ g.toInt ∧ g.toInt ≤ Text.Decimal.int64Max :=
    ⟨g.le_toInt, Int.le_of_lt_add_one g.toInt_lt⟩
  rw [decodeInt64, decodeIntIn, if_pos hrange]
  exact congrArg Except.ok (Int64.ofInt_toInt g)

theorem standsFor_ofNonEmptyText (s : String) :
    StandsFor (decode : Json → Decoded String) "" (ofNonEmptyText s) s := by
  rw [ofNonEmptyText]
  split
  case isTrue hempty => exact String.isEmpty_iff.1 hempty
  case isFalse => rfl

section Containers

variable {α : Type} {toJson : α → Json} {ofJson : Json → Decoded α}

theorem mapM_decode {β : Type} {encode : α → β} {decodeItem : β → Decoded α} {items : List α}
    (hitems : ∀ a ∈ items, decodeItem (encode a) = .ok a) :
    (items.map encode).mapM decodeItem = .ok items := by
  induction items with
  | nil => rfl
  | cons a items ih =>
      rw [List.map_cons, List.mapM_cons, hitems a List.mem_cons_self,
        ih fun b hb => hitems b (List.mem_cons_of_mem _ hb)]
      rfl

theorem decodeListWith_map {items : List α} (hitems : ∀ a ∈ items, ofJson (toJson a) = .ok a) :
    decodeListWith ofJson (.arr (items.map toJson)) = .ok items :=
  mapM_decode hitems

theorem decodeMapWith_map {m : SortedMap String α}
    (hvalues : ∀ e ∈ m.toList, ofJson (toJson e.2) = .ok e.2) :
    decodeMapWith ofJson (.obj (m.toList.map fun e => (e.1, toJson e.2))) = .ok m := by
  have hentries : (m.toList.map fun e => (e.1, toJson e.2)).mapM
      (fun m => do return (m.1, ← ofJson m.2)) = (.ok m.toList : Decoded _) :=
    mapM_decode fun e he => by
      rw [hvalues e he]
      rfl
  rw [decodeMapWith, hentries]
  exact congrArg Except.ok (SortedMap.ofList_toList m)

/-- What may be absent is read back from null, and from the value that is never
written as null. -/
theorem decodeOptionWith_map {value : Option α} (hread : ∀ a, ofJson (toJson a) = .ok a)
    (hnull : ∀ a, toJson a ≠ .null) :
    decodeOptionWith ofJson ((value.map toJson).getD .null) = .ok value := by
  cases value with
  | none => rfl
  | some a =>
      rw [Option.map_some, Option.getD_some, decodeOptionWith, hread]
      · rfl
      · exact hnull a

theorem standsFor_ofNonEmpty {items : List α}
    (hitems : ∀ a ∈ items, ofJson (toJson a) = .ok a) :
    StandsFor (decodeListWith ofJson) [] (ofNonEmpty toJson items) items := by
  cases items with
  | nil => rfl
  | cons a items => exact decodeListWith_map hitems

theorem standsFor_map {value : Option α} (hread : ∀ a, ofJson (toJson a) = .ok a)
    (hnull : ∀ a, toJson a ≠ .null) :
    StandsFor (decodeOptionWith ofJson) none (value.map toJson) value := by
  have hoption : decodeOptionWith ofJson ((value.map toJson).getD .null) = .ok value :=
    decodeOptionWith_map hread hnull
  cases value with
  | none => rfl
  | some a => exact hoption

end Containers

/-! ## What is written in texts -/

section Forms

variable {α : Type} {depth : Nat} {toJson : α → Json}

theorem isTextual_ofMembers {members : List (String × Option Json)}
    (hmembers : ∀ m ∈ members, ∀ j ∈ m.2, IsTextual depth j) :
    IsTextual (depth + 1) (.ofMembers members) := by
  refine .obj fun m hm => ?_
  obtain ⟨member, hmember, hm⟩ := List.mem_filterMap.1 hm
  obtain ⟨j, hj, rfl⟩ := Option.map_eq_some_iff.1 hm
  exact hmembers member hmember j hj

theorem isTextual_arr_map (hitems : ∀ a, IsTextual depth (toJson a)) (items : List α) :
    IsTextual (depth + 1) (.arr (items.map toJson)) := by
  refine .arr fun j hj => ?_
  obtain ⟨a, -, rfl⟩ := List.mem_map.1 hj
  exact hitems a

theorem isTextual_obj_map (hvalues : ∀ a, IsTextual depth (toJson a)) (m : SortedMap String α) :
    IsTextual (depth + 1) (.obj (m.toList.map fun e => (e.1, toJson e.2))) := by
  refine .obj fun m hm => ?_
  obtain ⟨e, -, rfl⟩ := List.mem_map.1 hm
  exact hvalues e.2

theorem isTextual_of_mem_ofNonEmpty (hitems : ∀ a, IsTextual depth (toJson a)) {items : List α}
    {j : Json} (hj : j ∈ ofNonEmpty toJson items) : IsTextual (depth + 1) j := by
  cases items with
  | nil => cases hj
  | cons a items =>
      obtain rfl := Option.some.inj hj
      exact isTextual_arr_map hitems (a :: items)

theorem isTextual_of_mem_map (hvalue : ∀ a, IsTextual depth (toJson a)) {value : Option α}
    {j : Json} (hj : j ∈ value.map toJson) : IsTextual depth j := by
  obtain ⟨a, -, rfl⟩ := Option.mem_map.1 hj
  exact hvalue a

theorem isTextual_getD_map (hvalue : ∀ a, IsTextual depth (toJson a)) (value : Option α) :
    IsTextual depth ((value.map toJson).getD .null) := by
  cases value with
  | none => exact .null
  | some a => exact hvalue a

theorem isTextual_of_mem_ofNonEmptyText {s : String} {j : Json}
    (hj : j ∈ ofNonEmptyText s) : IsTextual depth j := by
  rw [ofNonEmptyText] at hj
  split at hj
  case isTrue => cases hj
  case isFalse =>
    obtain rfl := Option.some.inj hj
    exact .str s

end Forms

end Json

/-! ## What a Remote asks for -/

open Json (IsTextual decode decodeListWith decodeOptionWith isTextual_of_mem_map
  isTextual_of_mem_ofNonEmpty isTextual_of_mem_ofNonEmptyText isTextual_ofMembers standsFor_map
  standsFor_ofNonEmpty standsFor_ofNonEmptyText)
open Json.RecordForm (reads_obj reads_ofMembers finish_named)

namespace HelmValue

theorem ofJson_toJson (v : HelmValue) : ofJson v.toJson = .ok v := by
  have hnames : ["name", "value"].Nodup := by decide
  have hname : form.Reads v.toJson "name" decode "" v.name :=
    reads_obj hnames (.head _) rfl
  have hvalue : form.Reads v.toJson "value" decode "" v.value :=
    reads_obj hnames (.tail _ (.head _)) rfl
  change form.finish (.named _) _ _ = _
  rw [finish_named]
  · rw [(hname _ rfl).2, (hvalue _ rfl).2]
  · exact List.forall_mem_cons.2 ⟨(hname _ rfl).1, List.forall_mem_singleton.2 (hvalue _ rfl).1⟩
  · simp [form]

theorem isTextual_toJson (v : HelmValue) : IsTextual 1 v.toJson := .obj (by simp [IsTextual.str])

end HelmValue

namespace HelmRelease

theorem ofJson_toJson (h : HelmRelease) : ofJson h.toJson = .ok h := by
  have hnames : ["release", "values"].Nodup := by decide
  have hrelease : form.Reads h.toJson "release" decode "" h.release :=
    reads_ofMembers hnames (.head _) rfl
  have hvalues : form.Reads h.toJson "values" (decodeListWith HelmValue.ofJson) [] h.values :=
    reads_ofMembers hnames (.tail _ (.head _))
      (standsFor_ofNonEmpty fun v _ => v.ofJson_toJson)
  change form.finish (.named _) _ _ = _
  rw [finish_named]
  · rw [(hrelease _ rfl).2, (hvalues _ rfl).2]
  · exact List.forall_mem_cons.2 ⟨(hrelease _ rfl).1, List.forall_mem_singleton.2 (hvalues _ rfl).1⟩
  · simp [form]

theorem isTextual_toJson (h : HelmRelease) : IsTextual 3 h.toJson := by
  refine isTextual_ofMembers (List.forall_mem_cons.2 ⟨?release,
    List.forall_mem_singleton.2 ?values⟩)
  case release => exact fun j hj => Option.some.inj hj ▸ .str h.release
  case values => exact fun j hj => isTextual_of_mem_ofNonEmpty HelmValue.isTextual_toJson hj

end HelmRelease

namespace Manifests

theorem ofJson_toJson (m : Manifests) : ofJson m.toJson = .ok m := by
  have hnames : ["path", "helm"].Nodup := by decide
  have hpath : form.Reads m.toJson "path" decode "" m.path :=
    reads_ofMembers hnames (.head _) (standsFor_ofNonEmptyText m.path)
  have hhelm : form.Reads m.toJson "helm" (decodeOptionWith HelmRelease.ofJson) none m.helm :=
    reads_ofMembers hnames (.tail _ (.head _))
      (standsFor_map HelmRelease.ofJson_toJson fun _ hnull => by cases hnull)
  change form.finish (.named _) _ _ = _
  rw [finish_named]
  · rw [(hpath _ rfl).2, (hhelm _ rfl).2]
  · exact List.forall_mem_cons.2 ⟨(hpath _ rfl).1, List.forall_mem_singleton.2 (hhelm _ rfl).1⟩
  · simp [form]

theorem isTextual_toJson (m : Manifests) : IsTextual 4 m.toJson := by
  refine isTextual_ofMembers (List.forall_mem_cons.2 ⟨?path, List.forall_mem_singleton.2 ?helm⟩)
  case path => exact fun j hj => isTextual_of_mem_ofNonEmptyText hj
  case helm => exact fun j hj => isTextual_of_mem_map HelmRelease.isTextual_toJson hj

end Manifests

namespace BuildArg

theorem ofJson_toJson (a : BuildArg) : ofJson a.toJson = .ok a := by
  have hnames : ["name", "value"].Nodup := by decide
  have hname : form.Reads a.toJson "name" decode "" a.name :=
    reads_obj hnames (.head _) rfl
  have hvalue : form.Reads a.toJson "value" decode "" a.value :=
    reads_obj hnames (.tail _ (.head _)) rfl
  change form.finish (.named _) _ _ = _
  rw [finish_named]
  · rw [(hname _ rfl).2, (hvalue _ rfl).2]
  · exact List.forall_mem_cons.2 ⟨(hname _ rfl).1, List.forall_mem_singleton.2 (hvalue _ rfl).1⟩
  · simp [form]

theorem isTextual_toJson (a : BuildArg) : IsTextual 1 a.toJson := .obj (by simp [IsTextual.str])

end BuildArg

end GatewaySync
