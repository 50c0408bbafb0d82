import Stencil.Proofs.Definition.Inversion
import Stencil.Proofs.Fields
import Stencil.Template.Filter

/-! Descriptions of types.

A type is described twice: by itself, and as templates see it in a definition, where the
descriptions of enums also list the values of the enum. The two differ in nothing else
(`withoutEnumValues_of_describeType`), and the helpers of templates read the type back from what
they see. -/

namespace Stencil

namespace Value

/-- A description of an enum type. -/
def IsEnum (v : Value) : Prop := (v.field? "dataType").bind asText? = some "enum"

instance (v : Value) : Decidable v.IsEnum := inferInstanceAs (Decidable (_ = _))

mutual

/-- A value without the values that are listed in the descriptions of enum types in it. -/
def withoutEnumValues : Value → Value
  | .object fields =>
    let kept := fieldsWithoutEnumValues fields
    .object (if (Value.object fields).IsEnum then kept.filter (·.1 ≠ "values") else kept)
  | .list items => .list (itemsWithoutEnumValues items)
  | v => v

/-- The items of a list without the values of enum types in them. -/
def itemsWithoutEnumValues : List Value → List Value
  | [] => []
  | v :: rest => withoutEnumValues v :: itemsWithoutEnumValues rest

/-- Fields without the values of enum types in them. -/
def fieldsWithoutEnumValues : List (String × Value) → List (String × Value)
  | [] => []
  | (k, v) :: rest => (k, withoutEnumValues v) :: fieldsWithoutEnumValues rest

end

/-- A value that stands in another one, at any depth. -/
inductive Within (v : Value) : Value → Prop
  | here : Within v v
  | field {fields : Fields} {key : String} {inner : Value} (mem : (key, inner) ∈ fields)
    (within : Within v inner) : Within v (.object fields)
  | item {items : List Value} {inner : Value} (mem : inner ∈ items) (within : Within v inner) :
    Within v (.list items)

theorem record_kind (kind nullable : Value) :
    record [("dataType", kind), ("nullable", nullable)] =
      .object [("dataType", kind), ("nullable", nullable)] := by
  have hnullable : ¬ "nullable" = "dataType" ∧ ¬ "nullable" < "dataType" := by decide
  simp only [record, Fields.ofList, List.foldl_cons, List.foldl_nil, Fields.insert, hnullable,
    if_false]

/-- A further field of a description comes between the two that every description has. -/
theorem record_detail (key : String) (hkind : "dataType" < key) (hnullable : key < "nullable")
    (kind nullable detail : Value) :
    record [("dataType", kind), ("nullable", nullable), (key, detail)] =
      .object [("dataType", kind), (key, detail), ("nullable", nullable)] := by
  have hfields := Value.object.inj (record_kind kind nullable)
  change Value.object ((Fields.ofList [("dataType", kind), ("nullable", nullable)]).insert key
    detail) = _
  rw [hfields]
  simp only [Fields.insert, if_neg (ne_of_gt hkind), if_neg (lt_asymm hkind),
    if_neg (ne_of_lt hnullable), if_pos hnullable]

/-- The values of an enum come last. -/
theorem record_values (kind nullable name values : Value) :
    record [("dataType", kind), ("nullable", nullable), ("enumName", name), ("values", values)] =
      .object [("dataType", kind), ("enumName", name), ("nullable", nullable),
        ("values", values)] := by
  have hfields :=
    Value.object.inj (record_detail "enumName" (by decide) (by decide) kind nullable name)
  change Value.object ((Fields.ofList [("dataType", kind), ("nullable", nullable),
    ("enumName", name)]).insert "values" values) = _
  rw [hfields, Fields.insert_of_lt]
  · rfl
  · simp only [List.forall_mem_cons]
    exact ⟨by decide, by decide, by decide, nofun⟩

end Value

theorem Primitive.name_injective : Function.Injective Primitive.name := by
  intro a b h
  cases a <;> cases b <;> simp_all [name]

namespace DataType

/-- The name of the kind of the items; empty for a type that has no items. -/
def itemKindName : DataType → String
  | .list item _ => item.kindName
  | _ => ""

theorem kindName_eq_enum {t : DataType} : t.kindName = "enum" ↔ ∃ name n, t = .enum name n := by
  cases t with
  | primitive kind n => cases kind <;> simp [kindName, Primitive.name]
  | _ => simp [kindName]

theorem kindName_eq_list {t : DataType} : t.kindName = "list" ↔ ∃ item n, t = .list item n := by
  cases t with
  | primitive kind n => cases kind <;> simp [kindName, Primitive.name]
  | _ => simp [kindName]

theorem descriptor_primitive (kind : Primitive) (n : Bool) :
    (DataType.primitive kind n).descriptor =
      .object [("dataType", .str kind.name), ("nullable", .bool n)] :=
  Value.record_kind ..

theorem descriptor_enum (name : String) (n : Bool) :
    (DataType.enum name n).descriptor =
      .object [("dataType", .str "enum"), ("enumName", .str name), ("nullable", .bool n)] :=
  Value.record_detail "enumName" (by decide) (by decide) ..

theorem descriptor_model (name : String) (n : Bool) :
    (DataType.model name n).descriptor =
      .object [("dataType", .str "model"), ("modelName", .str name), ("nullable", .bool n)] :=
  Value.record_detail "modelName" (by decide) (by decide) ..

theorem descriptor_list (item : DataType) (n : Bool) :
    (DataType.list item n).descriptor =
      .object [("dataType", .str "list"), ("itemType", item.descriptor), ("nullable", .bool n)] :=
  Value.record_detail "itemType" (by decide) (by decide) ..

/-- The description of a type settles the type. -/
theorem descriptor_injective : Function.Injective descriptor := by
  intro t
  induction t with
  | primitive kind n =>
    intro t' h
    cases t' with
    | primitive kind' n' =>
      have ⟨hkind, hn⟩ : kind.name = kind'.name ∧ n = n' := by simpa [descriptor_primitive] using h
      rw [Primitive.name_injective hkind, hn]
    | _ => simp [descriptor_primitive, descriptor_enum, descriptor_model, descriptor_list] at h
  | enum name n =>
    intro t' h
    cases t' with
    | enum name' n' =>
      have ⟨hname, hn⟩ : name = name' ∧ n = n' := by simpa [descriptor_enum] using h
      rw [hname, hn]
    | _ => simp [descriptor_primitive, descriptor_enum, descriptor_model, descriptor_list] at h
  | model name n =>
    intro t' h
    cases t' with
    | model name' n' =>
      have ⟨hname, hn⟩ : name = name' ∧ n = n' := by simpa [descriptor_model] using h
      rw [hname, hn]
    | _ => simp [descriptor_primitive, descriptor_enum, descriptor_model, descriptor_list] at h
  | list item n ih =>
    intro t' h
    cases t' with
    | list item' n' =>
      have ⟨hitem, hn⟩ : item.descriptor = item'.descriptor ∧ n = n' := by
        simpa [descriptor_list] using h
      rw [ih hitem, hn]
    | _ => simp [descriptor_primitive, descriptor_enum, descriptor_model, descriptor_list] at h

end DataType

namespace Definition

open Outcome Value

variable {d : Definition} {j : Value}

/-! ### What templates see -/

theorem describeType_primitive {kind : Primitive} {n : Bool} :
    d.describeType (.primitive kind n) = .ok j ↔
      j = .object [("dataType", .str kind.name), ("nullable", .bool n)] := by
  rw [describeType, DataType.descriptor_primitive, Except.ok.injEq, eq_comm]

theorem describeType_enum {name : String} {n : Bool} :
    d.describeType (.enum name n) = .ok j ↔ ∃ e, d.enum? name = some e ∧
      j = .object [("dataType", .str "enum"), ("enumName", .str name), ("nullable", .bool n),
        ("values", .strings e.values)] := by
  rw [describeType]
  cases d.enum? name with
  | none => simp
  | some e => simp [record_values, eq_comm]

theorem describeType_model {name : String} {n : Bool} :
    d.describeType (.model name n) = .ok j ↔ (∃ m, d.model? name = some m) ∧
      j = .object [("dataType", .str "model"), ("modelName", .str name), ("nullable", .bool n)] := by
  rw [describeType, DataType.descriptor_model]
  cases d.model? name with
  | none => simp
  | some m => simp [eq_comm]

theorem describeType_list {item : DataType} {n : Bool} :
    d.describeType (.list item n) = .ok j ↔ ∃ v, d.describeType item = .ok v ∧
      j = .object [("dataType", .str "list"), ("itemType", v), ("nullable", .bool n)] := by
  simp only [describeType, bind_eq_ok, pure_eq_ok]
  simp only [record_detail "itemType" (by decide) (by decide)]

/-- What every description says of its type. -/
theorem field?_of_describeType {t : DataType} (h : d.describeType t = .ok j) :
    j.field? "dataType" = some (.str t.kindName) ∧ j.field? "nullable" = some (.bool t.nullable) := by
  cases t with
  | primitive kind n =>
    cases describeType_primitive.mp h
    exact ⟨rfl, rfl⟩
  | enum name n =>
    obtain ⟨e, _, rfl⟩ := describeType_enum.mp h
    exact ⟨rfl, rfl⟩
  | model name n =>
    obtain ⟨_, rfl⟩ := describeType_model.mp h
    exact ⟨rfl, rfl⟩
  | list item n =>
    obtain ⟨v, _, rfl⟩ := describeType_list.mp h
    exact ⟨rfl, rfl⟩

theorem isEnum_of_describeType {t : DataType} (h : d.describeType t = .ok j) :
    j.IsEnum ↔ ∃ name n, t = .enum name n := by
  rw [IsEnum, (field?_of_describeType h).1, ← DataType.kindName_eq_enum]
  simp [asText?]

/-- Without the values of enums, a description as seen by templates is that of the type itself. -/
theorem withoutEnumValues_of_describeType {t : DataType} (h : d.describeType t = .ok j) :
    j.withoutEnumValues = t.descriptor := by
  have henum := isEnum_of_describeType h
  induction t generalizing j with
  | primitive kind n =>
    cases describeType_primitive.mp h
    rw [withoutEnumValues, if_neg (by simp [henum]), DataType.descriptor_primitive]
    rfl
  | enum name n =>
    obtain ⟨e, _, rfl⟩ := describeType_enum.mp h
    rw [withoutEnumValues, if_pos (by simp [henum]), DataType.descriptor_enum]
    rfl
  | model name n =>
    obtain ⟨_, rfl⟩ := describeType_model.mp h
    rw [withoutEnumValues, if_neg (by simp [henum]), DataType.descriptor_model]
    rfl
  | list item n ih =>
    obtain ⟨v, hv, rfl⟩ := describeType_list.mp h
    rw [withoutEnumValues, if_neg (by simp [henum]), DataType.descriptor_list,
      ← ih hv (isEnum_of_describeType hv)]
    rfl

/-! ### The values of enums -/

/-- A description of an enum with the values of the first enum of the name. -/
def ShowsEnum (d : Definition) (v : Value) : Prop :=
  ∃ name e, v.field? "enumName" = some (.str name) ∧
    d.enums.find? (·.name = name) = some e ∧ v.field? "values" = some (.strings e.values)

/-- All descriptions of enums in a value list the values of the first enum of the name. -/
def ShowsEnums (d : Definition) (j : Value) : Prop :=
  ∀ v : Value, v.Within j → v.IsEnum → d.ShowsEnum v

theorem showsEnums_str (s : String) : d.ShowsEnums (.str s) := by
  intro v hv henum
  cases hv
  cases henum

theorem showsEnums_bool (b : Bool) : d.ShowsEnums (.bool b) := by
  intro v hv henum
  cases hv
  cases henum

theorem showsEnums_list {items : List Value} (h : ∀ item ∈ items, d.ShowsEnums item) :
    d.ShowsEnums (.list items) := by
  intro v hv henum
  cases hv with
  | here => cases henum
  | item mem within => exact h _ mem v within henum

theorem showsEnums_object {fields : Fields}
    (hself : (Value.object fields).IsEnum → d.ShowsEnum (.object fields))
    (h : ∀ f ∈ fields, d.ShowsEnums f.2) : d.ShowsEnums (.object fields) := by
  intro v hv henum
  cases hv with
  | here => exact hself henum
  | field mem within => exact h _ mem v within henum

/-- By induction on the type; the item of a list is described in its own field. -/
theorem showsEnums_of_describeType {t : DataType} (h : d.describeType t = .ok j) :
    d.ShowsEnums j := by
  have henum := isEnum_of_describeType h
  induction t generalizing j with
  | primitive kind n =>
    cases describeType_primitive.mp h
    refine showsEnums_object (fun hself => by simp [henum] at hself) ?_
    simp [showsEnums_str, showsEnums_bool]
  | enum name n =>
    obtain ⟨e, he, rfl⟩ := describeType_enum.mp h
    refine showsEnums_object (fun _ => ⟨name, e, rfl, he, rfl⟩) ?_
    have hvalues : d.ShowsEnums (.strings e.values) :=
      showsEnums_list fun item hitem => by
        obtain ⟨s, _, rfl⟩ := List.mem_map.mp hitem
        exact showsEnums_str s
    simp [showsEnums_str, showsEnums_bool, hvalues]
  | model name n =>
    obtain ⟨_, rfl⟩ := describeType_model.mp h
    refine showsEnums_object (fun hself => by simp [henum] at hself) ?_
    simp [showsEnums_str, showsEnums_bool]
  | list item n ih =>
    obtain ⟨v, hv, rfl⟩ := describeType_list.mp h
    refine showsEnums_object (fun hself => by simp [henum] at hself) ?_
    simp [showsEnums_str, showsEnums_bool, ih hv (isEnum_of_describeType hv)]

/-! ### Reading the type back -/

open Template

theorem listItemType_of_describeType {t : DataType} (h : d.describeType t = .ok j) :
    listItemType j = .str t.itemKindName := by
  have hlist : (j.field? "dataType").bind asText? = some "list" ↔ ∃ item n, t = .list item n := by
    rw [(field?_of_describeType h).1, ← DataType.kindName_eq_list]
    simp [asText?]
  cases t with
  | list item n =>
    obtain ⟨v, hv, rfl⟩ := describeType_list.mp h
    have hitem : (v.field? "dataType").getD (.str "") = .str item.kindName := by
      rw [(field?_of_describeType hv).1, Option.getD_some]
    rw [listItemType, if_pos (hlist.mpr ⟨item, n, rfl⟩)]
    exact hitem
  | _ =>
    rw [listItemType, if_neg (by simp [hlist])]
    rfl

/-- What templates see of a type is its description, where the descriptions of enums in it list the
values of the first enum of the name besides. A description settles its type, and the tests and the
filter on descriptions read the type back: whether it is nullable, its kind, and the kind of its
items. -/
theorem descriptions_read_back (d : Definition) (t : DataType) (j : Value)
    (h : d.describeType t = .ok j) :
    j.withoutEnumValues = t.descriptor ∧ d.ShowsEnums j ∧
    Function.Injective DataType.descriptor ∧
    (∀ args, runTest "nullable" (some j) args = .ok t.nullable) ∧
    (∀ s args, runTest "data_type" (some j) (.str s :: args) = .ok (decide (s = t.kindName))) ∧
    ∀ args, applyFilter "list_item_type" j args = .ok (.str t.itemKindName) := by
  obtain ⟨hkind, hnullable⟩ := field?_of_describeType h
  refine ⟨withoutEnumValues_of_describeType h, showsEnums_of_describeType h,
    DataType.descriptor_injective, fun args => ?_, fun s args => ?_, fun args => ?_⟩
  · rw [runTest, isNullable, Option.bind_some, hnullable]
  · rw [runTest, isDataType]
    simp only [List.head?_cons, Option.bind_some, asText?, hkind, Except.ok.injEq]
    rw [Bool.eq_iff_iff, beq_iff_eq, decide_eq_true_iff, Option.some.injEq, eq_comm]
  · rw [← listItemType_of_describeType h]
    rfl

/-- A definition in which two enums have one name. -/
def palette : Definition where
  name := "Palette"
  nameSpace := none
  options := []
  enums := [⟨"Colour", ["red", "green"], []⟩, ⟨"Colour", ["blue"], []⟩]
  contracts := []
  models := []
  services := []
  extensions := []

/-- What templates see of a list of colours that may be null. -/
def colours : Value :=
  .object [("dataType", .str "list"),
    ("itemType", .object [("dataType", .str "enum"), ("enumName", .str "Colour"),
      ("nullable", .bool true), ("values", .strings ["red", "green"])]),
    ("nullable", .bool false)]

theorem descriptions_read_back_colours :
    palette.describeType (.list (.enum "Colour" true) false) = .ok colours ∧
    colours.withoutEnumValues = (DataType.list (.enum "Colour" true) false).descriptor ∧
    palette.ShowsEnums colours ∧ runTest "nullable" (some colours) [] = .ok false ∧
    runTest "data_type" (some colours) [.str "list"] = .ok true ∧
    applyFilter "list_item_type" colours [] = .ok (.str "enum") := by
  have hcolour : palette.enum? "Colour" = some ⟨"Colour", ["red", "green"], []⟩ := rfl
  have hdescribed : palette.describeType (.list (.enum "Colour" true) false) = .ok colours :=
    describeType_list.mpr ⟨_, describeType_enum.mpr ⟨_, hcolour, rfl⟩, rfl⟩
  obtain ⟨hwithout, hshows, _, hnullable, hkind, hitem⟩ :=
    descriptions_read_back palette _ colours hdescribed
  exact ⟨hdescribed, hwithout, hshows, hnullable [], hkind "list" [], hitem []⟩

end Definition

end Stencil
