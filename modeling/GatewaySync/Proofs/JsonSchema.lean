import GatewaySync.Proofs.JsonRecords
import GatewaySync.Remote.Schema

/-!
# Values that a schema admits

A published schema is JSON itself: its keywords say which form a value has, whether null may stand
in its place, and what its items and members are.  Below is what these keywords mean, then what
they come to for the JSON of a `Schema`, and then the two halves of an agreement between a schema
and a type.  A record is read from every object that its schema admits, if its fields are; and what
is written of a record is admitted, if what is written of its fields is.
-/

namespace GatewaySync

namespace Json

/-- What a published schema admits.  A keyword that is missing asks for nothing, and a member that
is no property may be anything. -/
inductive Conforms : Json → Json → Prop where
  | null {schema : Json} (hnullable : schema.member? "nullable" = some (.bool true)) :
      Conforms schema .null
  | text {schema : Json} (htype : schema.member? "type" = some (.str "string")) (s : String) :
      Conforms schema (.str s)
  | list {schema : Json} (htype : schema.member? "type" = some (.str "array"))
      {items : List Json}
      (hitems : ∀ item, schema.member? "items" = some item → ∀ j ∈ items, Conforms item j) :
      Conforms schema (.arr items)
  | object {schema : Json} (htype : schema.member? "type" = some (.str "object"))
      {members : List (String × Json)}
      (hrequired : ∀ names, schema.member? "required" = some (.arr names) →
        ∀ name, .str name ∈ names → name ∈ members.map Prod.fst)
      -- the members of an object have names of their own
      (honce : ∀ properties, schema.member? "properties" = some (.obj properties) →
        ∀ p ∈ properties, (members.filter fun m => m.1 == p.1).length ≤ 1)
      (hproperties : ∀ properties, schema.member? "properties" = some (.obj properties) →
        ∀ p ∈ properties, ∀ j, (p.1, j) ∈ members → Conforms p.2 j) :
      Conforms schema (.obj members)

/-! ## The members of a written object -/

theorem lookup_of_mem {members : List (String × Json)} (hnames : (members.map Prod.fst).Nodup)
    {name : String} {j : Json} (hmem : (name, j) ∈ members) : members.lookup name = some j := by
  obtain ⟨before, after, rfl⟩ := List.append_of_mem hmem
  rw [List.lookup_eq_some_iff]
  refine ⟨before, after, rfl, fun m hm => bne_iff_ne.2 fun heq => ?_⟩
  rw [List.map_append, List.map_cons] at hnames
  exact List.disjoint_of_nodup_append hnames (List.mem_map_of_mem hm) (heq ▸ List.mem_cons_self)

section OfMembers

variable {members : List (String × Option Json)} {name : String} {member? : Option Json}

theorem member?_ofMembers (hnames : (members.map Prod.fst).Nodup)
    (hmem : (name, member?) ∈ members) : (ofMembers members).member? name = member? := by
  have hwritten := nodup_ofMembers hnames
  have hiff := mem_filterMap_iff hnames hmem
  rw [ofMembers, Json.member?]
  cases member? with
  | some j =>
      refine lookup_of_mem ?_ (List.mem_reverse.2 ((hiff j).2 rfl))
      rwa [List.map_reverse, List.nodup_reverse]
  | none =>
      rw [List.lookup_eq_none_iff]
      intro m hm
      rw [List.mem_reverse] at hm
      refine bne_iff_ne.2 fun heq => ?_
      subst heq
      cases (hiff m.2).1 hm

end OfMembers

theorem exists_mapM_eq_ok {α β : Type} {decodeItem : β → Decoded α} {items : List β}
    (hitems : ∀ i ∈ items, ∃ a, decodeItem i = .ok a) : ∃ as, items.mapM decodeItem = .ok as := by
  induction items with
  | nil => exact ⟨[], rfl⟩
  | cons i items ih =>
      obtain ⟨a, ha⟩ := hitems i List.mem_cons_self
      obtain ⟨as, has⟩ := ih fun i hi => hitems i (List.mem_cons_of_mem _ hi)
      refine ⟨a :: as, ?_⟩
      rw [List.mapM_cons, ha, has]
      rfl

end Json

namespace Schema

open Json (Conforms)

/-! ## The keywords of a schema -/

section Keywords

variable {s : Schema} {items properties required : Option Json}

/-- A keyword stands at its own place among the members of a schema's JSON. -/
theorem member?_members {name : String} {keyword? : Option Json}
    (hmem : (name, keyword?) ∈ [
      ("default", s.notes.default),
      ("description", s.notes.description.map .str),
      ("items", items),
      ("nullable", if s.notes.nullable then some (.bool true) else none),
      ("properties", properties),
      ("required", required),
      ("title", s.notes.title.map .str),
      ("type", some (.str s.form))]) :
    (s.members items properties required).member? name = keyword? :=
  have hnames : ["default", "description", "items", "nullable", "properties", "required", "title",
    "type"].Nodup := by decide
  Json.member?_ofMembers hnames hmem

end Keywords

theorem exists_toJson_eq (s : Schema) :
    ∃ items properties required, s.toJson = s.members items properties required := by
  cases s <;> exact ⟨_, _, _, by rw [toJson]⟩

theorem member?_type (s : Schema) : s.toJson.member? "type" = some (.str s.form) := by
  obtain ⟨items, properties, required, heq⟩ := s.exists_toJson_eq
  rw [heq]
  exact member?_members (by simp)

theorem member?_nullable_iff (s : Schema) :
    s.toJson.member? "nullable" = some (.bool true) ↔ s.notes.nullable = true := by
  obtain ⟨items, properties, required, heq⟩ := s.exists_toJson_eq
  have hkeyword : s.toJson.member? "nullable" =
      if s.notes.nullable then some (.bool true) else none := by
    rw [heq]
    exact member?_members (by simp)
  rw [hkeyword]
  split <;> simp_all

theorem member?_items (n : Notes) (item : Schema) :
    (list n item).toJson.member? "items" = some item.toJson := by
  rw [toJson]
  exact member?_members (by simp)

theorem member?_properties (n : Notes) (ps : List (String × Bool × Schema)) :
    (object n ps).toJson.member? "properties" = some (.obj (propertiesToJson ps)) := by
  rw [toJson]
  exact member?_members (by simp)

theorem member?_required (n : Notes) (ps : List (String × Bool × Schema)) :
    (object n ps).toJson.member? "required" = requiredToJson ps := by
  rw [toJson]
  exact member?_members (by simp)

theorem propertiesToJson_eq_map (ps : List (String × Bool × Schema)) :
    propertiesToJson ps = ps.map fun p => (p.1, p.2.2.toJson) := by
  induction ps with
  | nil => rw [propertiesToJson, List.map_nil]
  | cons p ps ih => rw [propertiesToJson, ih, List.map_cons]

/-! ## What a schema admits, by its form -/

section Forms

variable {n : Notes} {item : Schema} {ps : List (String × Bool × Schema)} {j : Json}

theorem conforms_null_iff {s : Schema} : Conforms s.toJson .null ↔ s.notes.nullable = true := by
  rw [← member?_nullable_iff]
  constructor
  · rintro ⟨hnullable⟩
    exact hnullable
  · exact .null

theorem conforms_text_iff :
    Conforms (text n).toJson j ↔ (j = .null ∧ n.nullable = true) ∨ ∃ s, j = .str s := by
  have htype := (text n).member?_type
  constructor
  · intro h
    cases h with
    | null hnullable => exact .inl ⟨rfl, (member?_nullable_iff _).1 hnullable⟩
    | text _ s => exact .inr ⟨s, rfl⟩
    | list hlist => rw [htype] at hlist; simp [form] at hlist
    | object hobject => rw [htype] at hobject; simp [form] at hobject
  · rintro (⟨rfl, hnullable⟩ | ⟨s, rfl⟩)
    · exact conforms_null_iff.2 hnullable
    · exact .text htype s

theorem conforms_list_iff :
    Conforms (list n item).toJson j ↔
      (j = .null ∧ n.nullable = true) ∨ ∃ items, j = .arr items ∧
        ∀ i ∈ items, Conforms item.toJson i := by
  have htype := (list n item).member?_type
  have hitem := member?_items n item
  constructor
  · intro h
    cases h with
    | null hnullable => exact .inl ⟨rfl, (member?_nullable_iff _).1 hnullable⟩
    | text htext => rw [htype] at htext; simp [form] at htext
    | list _ hitems => exact .inr ⟨_, rfl, hitems _ hitem⟩
    | object hobject => rw [htype] at hobject; simp [form] at hobject
  · rintro (⟨rfl, hnullable⟩ | ⟨items, rfl, hitems⟩)
    · exact conforms_null_iff.2 hnullable
    · refine .list htype fun item' hitem' => ?_
      obtain rfl := Option.some.inj (hitem.symm.trans hitem')
      exact hitems

/-- What an object's members have to be for a list of properties. -/
structure MembersConform (ps : List (String × Bool × Schema)) (members : List (String × Json)) :
    Prop where
  required : ∀ name ∈ required ps, name ∈ members.map Prod.fst
  once : ∀ p ∈ ps, (members.filter fun m => m.1 == p.1).length ≤ 1
  properties : ∀ p ∈ ps, ∀ j, (p.1, j) ∈ members → Conforms p.2.2.toJson j

theorem requires_iff {name : String} :
    (∃ names, requiredToJson ps = some (.arr names) ∧ .str name ∈ names) ↔
      name ∈ required ps := by
  unfold requiredToJson
  split
  case h_1 hnone => simp [hnone]
  case h_2 => simp

theorem conforms_object_iff :
    Conforms (object n ps).toJson j ↔
      (j = .null ∧ n.nullable = true) ∨
        ∃ members, j = .obj members ∧ MembersConform ps members := by
  have htype := (object n ps).member?_type
  have hrequired := member?_required n ps
  have hproperties := member?_properties n ps
  rw [propertiesToJson_eq_map] at hproperties
  constructor
  · intro h
    cases h with
    | null hnullable => exact .inl ⟨rfl, (member?_nullable_iff _).1 hnullable⟩
    | text htext => rw [htype] at htext; simp [form] at htext
    | list hlist => rw [htype] at hlist; simp [form] at hlist
    | object _ hnames honce hmembers =>
        refine .inr ⟨_, rfl, fun name hname => ?required, fun p hp => ?once, fun p hp => ?member⟩
        case required =>
          obtain ⟨names, heq, hmem⟩ := requires_iff.2 hname
          exact hnames names (hrequired.trans heq) name hmem
        case once => exact honce _ hproperties _ (List.mem_map_of_mem hp)
        case member => exact hmembers _ hproperties _ (List.mem_map_of_mem hp)
  · rintro (⟨rfl, hnullable⟩ | ⟨members, rfl, hmembers⟩)
    · exact conforms_null_iff.2 hnullable
    · refine .object htype (fun names heq name hname => ?required) ?once ?member
      case required =>
        exact hmembers.required name (requires_iff.1 ⟨names, hrequired.symm.trans heq, hname⟩)
      all_goals
        intro properties heq p hp
        obtain rfl := Json.obj.inj (Option.some.inj (hproperties.symm.trans heq))
        obtain ⟨p, hmem, rfl⟩ := List.mem_map.1 hp
      case once => exact hmembers.once p hmem
      case member => exact hmembers.properties p hmem

end Forms

/-! ## What is admitted can be read -/

open Json (Decoded DecodeError Fields RecordForm decode decodeListWith decodeOptionWith)
open Json.RecordForm (errorOf)

section Reading

variable {α : Type} {n : Notes} {s : Schema} {ps : List (String × Bool × Schema)}
variable {decodeValue : Json → Decoded α}

/-- Whatever the schema admits is read. -/
def IsReadBy (s : Schema) (decodeValue : Json → Decoded α) : Prop :=
  ∀ j, Conforms s.toJson j → ∃ a, decodeValue j = .ok a

/-- Whatever the schema admits beside null is read. -/
def IsReadUnlessNull (s : Schema) (decodeValue : Json → Decoded α) : Prop :=
  ∀ j, j ≠ .null → Conforms s.toJson j → ∃ a, decodeValue j = .ok a

theorem IsReadUnlessNull.isReadBy (hread : s.IsReadUnlessNull decodeValue)
    (hnullable : s.notes.nullable = false) : s.IsReadBy decodeValue := by
  refine fun j hj => hread j ?_ hj
  rintro rfl
  rw [conforms_null_iff, hnullable] at hj
  cases hj

theorem IsReadUnlessNull.option (hread : s.IsReadUnlessNull decodeValue) :
    s.IsReadBy (decodeOptionWith decodeValue) := by
  intro j hj
  by_cases hnull : j = .null
  · exact ⟨none, by rw [hnull, decodeOptionWith]⟩
  · obtain ⟨a, ha⟩ := hread j hnull hj
    refine ⟨some a, ?_⟩
    rw [decodeOptionWith, ha]
    · rfl
    · exact hnull

theorem isReadUnlessNull_text : (text n).IsReadUnlessNull (decode : Json → Decoded String) := by
  intro j hnull hj
  obtain ⟨heq, -⟩ | ⟨s, rfl⟩ := conforms_text_iff.1 hj
  · exact absurd heq hnull
  · exact ⟨s, rfl⟩

theorem isReadUnlessNull_list (hread : s.IsReadBy decodeValue) :
    (list n s).IsReadUnlessNull (decodeListWith decodeValue) := by
  intro j hnull hj
  obtain ⟨heq, -⟩ | ⟨items, rfl, hitems⟩ := conforms_list_iff.1 hj
  · exact absurd heq hnull
  · exact Json.exists_mapM_eq_ok fun i hi => hread i (hitems i hi)

theorem isReadUnlessNull_object
    (hread : ∀ members, MembersConform ps members → ∃ a, decodeValue (.obj members) = .ok a) :
    (object n ps).IsReadUnlessNull decodeValue := by
  intro j hnull hj
  obtain ⟨heq, -⟩ | ⟨members, rfl, hmembers⟩ := conforms_object_iff.1 hj
  · exact absurd heq hnull
  · exact hread members hmembers

namespace MembersConform

variable {members : List (String × Json)} {form : RecordForm}

/-- A field is read if its property can be. -/
theorem errorOf_read (hmembers : MembersConform ps members) {field : String} {must : Bool}
    (hfield : (field, must, s) ∈ ps) (hread : s.IsReadBy decodeValue) :
    errorOf (form.read (.named members) field decodeValue) = none := by
  have honce := hmembers.once _ hfield
  have hgiven : ∀ j ∈ form.given (.named members) field, Conforms s.toJson j := by
    intro j hj
    obtain ⟨m, hm, rfl⟩ := List.mem_map.1 hj
    obtain ⟨hm, hname⟩ := List.mem_filter.1 hm
    exact hmembers.properties _ hfield _ (beq_iff_eq.1 hname ▸ hm)
  have hlength : (form.given (.named members) field).length ≤ 1 := by
    rw [RecordForm.given, List.length_map]
    exact honce
  rw [RecordForm.read]
  cases hcases : form.given (.named members) field with
  | nil => rfl
  | cons j rest =>
      rw [hcases, List.length_cons] at hlength
      obtain rfl : rest = [] := List.eq_nil_of_length_eq_zero (by omega)
      obtain ⟨a, ha⟩ := hread j (hgiven j (hcases ▸ List.mem_cons_self))
      simp only [ha]
      rfl

/-- A record is read if each of its fields is, and if the schema requires the fields that must be
present. -/
theorem finish_eq_ok (hmembers : MembersConform ps members)
    {errors : List (String × Option DecodeError)} (herrors : ∀ e ∈ errors, e.2 = none)
    (hrequired : ∀ field ∈ form.fields, field.2 = true → field.1 ∈ Schema.required ps)
    (record : α) : form.finish (.named members) errors record = .ok record :=
  RecordForm.finish_named herrors
    (fun field hfield hmust => hmembers.required _ (hrequired field hfield hmust)) record

end MembersConform

end Reading

/-! ## What is written is admitted -/

section Writing

variable {α : Type} {n : Notes} {s : Schema} {ps : List (String × Bool × Schema)}
variable {toJson : α → Json}

/-- Whatever is written is admitted by the schema. -/
def Admits (s : Schema) (toJson : α → Json) : Prop := ∀ a, Conforms s.toJson (toJson a)

theorem admits_text : (text n).Admits Json.str := fun s => .text (member?_type _) s

theorem conforms_arr (hwritten : s.Admits toJson) (items : List α) :
    Conforms (list n s).toJson (.arr (items.map toJson)) := by
  refine conforms_list_iff.2 (.inr ⟨_, rfl, fun i hi => ?_⟩)
  obtain ⟨a, -, rfl⟩ := List.mem_map.1 hi
  exact hwritten a

/-- A property among the members that a record has: one that is required is written, and what is
written is admitted. -/
def IsWrittenIn (members : List (String × Option Json)) (p : String × Bool × Schema) : Prop :=
  ∃ member?, (p.1, member?) ∈ members ∧ (p.2.1 = true → member?.isSome = true) ∧
    ∀ j, member? = some j → Conforms p.2.2.toJson j

variable {members : List (String × Option Json)} {name : String}

theorem isWrittenIn_some {must : Bool} {j : Json} (hmem : (name, some j) ∈ members)
    (hj : Conforms s.toJson j) : IsWrittenIn members (name, must, s) :=
  ⟨some j, hmem, fun _ => rfl, fun _ heq => Option.some.inj heq ▸ hj⟩

theorem isWrittenIn_map {value : Option α} (hmem : (name, value.map toJson) ∈ members)
    (hwritten : s.Admits toJson) : IsWrittenIn members (name, false, s) := by
  refine ⟨_, hmem, nofun, fun j hj => ?_⟩
  obtain ⟨a, -, rfl⟩ := Option.map_eq_some_iff.1 hj
  exact hwritten a

theorem isWrittenIn_ofNonEmpty {items : List α}
    (hmem : (name, Json.ofNonEmpty toJson items) ∈ members) (hwritten : s.Admits toJson) :
    IsWrittenIn members (name, false, list n s) := by
  refine ⟨_, hmem, nofun, fun j hj => ?_⟩
  cases items with
  | nil => cases hj
  | cons a items =>
      obtain rfl := Option.some.inj hj
      exact conforms_arr hwritten (a :: items)

theorem isWrittenIn_ofNonEmptyText {t : String} (hmem : (name, Json.ofNonEmptyText t) ∈ members) :
    IsWrittenIn members (name, false, text n) := by
  refine ⟨_, hmem, nofun, fun j hj => ?_⟩
  rw [Json.ofNonEmptyText, Option.ite_none_left_eq_some] at hj
  obtain rfl := Option.some.inj hj.2
  exact admits_text t

theorem conforms_ofMembers (hnames : (members.map Prod.fst).Nodup)
    (hwritten : ∀ p ∈ ps, IsWrittenIn members p) :
    Conforms (object n ps).toJson (.ofMembers members) := by
  refine conforms_object_iff.2 (.inr ⟨_, rfl, ⟨fun name hname => ?required, fun p hp => ?once,
    fun p hp j hj => ?member⟩⟩)
  case required =>
    obtain ⟨p, hp, hmust⟩ := List.mem_filterMap.1 hname
    obtain ⟨member?, hmem, hpresent, -⟩ := hwritten p hp
    rw [Option.ite_none_right_eq_some] at hmust
    obtain ⟨j, rfl⟩ := Option.isSome_iff_exists.1 (hpresent hmust.1)
    obtain rfl := Option.some.inj hmust.2
    exact List.mem_map_of_mem ((Json.mem_filterMap_iff hnames hmem j).2 rfl)
  case once =>
    obtain ⟨member?, hmem, -⟩ := hwritten p hp
    rw [Json.filter_filterMap hnames hmem]
    cases member? <;> simp
  case member =>
    obtain ⟨member?, hmem, -, hconforms⟩ := hwritten p hp
    exact hconforms j ((Json.mem_filterMap_iff hnames hmem j).1 hj)

end Writing

end Schema

end GatewaySync
