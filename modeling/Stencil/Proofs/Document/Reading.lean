import Mathlib.Data.List.Forall2
import Stencil.Augmentation.Write
import Stencil.Proofs.Fields

/-! Documents that are written as values and read back.

Reading a record takes each field by its name. Fields of other names are passed over, and one that
is left out counts as if its default had been written. Two values that differ in nothing else are
the same as a record (`SameRecord`). Each format is shown to read back what it writes and to read
values alike that are the same (`Reads`): for scalars, for lists, and for each record from its
fields. -/

namespace Stencil

namespace Value

open Source

/-- A field of a record: its name, its value when it is left out, and which of its values are the
same. -/
structure FieldRule where
  name : String
  default : Value
  same : Value → Value → Prop

/-- The value of a field, where one that is left out has its default. -/
def FieldRule.valueIn (r : FieldRule) (entries : List (String × Value)) : Value :=
  (entries.lookup r.name).getD r.default

/-- Two values are the same as a record: both are records whose fields of the given names are the
same, whatever other fields they have, or neither is a record. -/
def SameRecord (rules : List FieldRule) (v w : Value) : Prop :=
  Option.Rel (fun es fs => ∀ r ∈ rules, r.same (r.valueIn es) (r.valueIn fs))
    (recordEntries? (rules.map (·.name)) v) (recordEntries? (rules.map (·.name)) w)

/-- Two values are the same as a list: both are lists of items that are the same one by one, or they
are equal. -/
def SameList (same : Value → Value → Prop) (v w : Value) : Prop :=
  v = w ∨ ∃ vs ws, v = .list vs ∧ w = .list ws ∧ List.Forall₂ same vs ws

/-- A way of reading and a way of writing that belong together: what is written is read back, and
values that are the same are read alike. -/
structure Reads {α : Type} (same : Value → Value → Prop) (read : Value → Reading α)
    (write : α → Value) : Prop where
  back : ∀ a, read (write a) = pure a
  alike : ∀ {v w}, same v w → read v = read w

variable {α : Type}

/-! ### Scalars and lists -/

theorem reads_text : Reads Eq text? Value.str where
  back _ := rfl
  alike h := congrArg _ h

theorem reads_optionalText : Reads Eq optionalText? Value.optional where
  back o := by cases o <;> rfl
  alike h := congrArg _ h

theorem reads_flag : Reads Eq flag? Value.bool where
  back _ := rfl
  alike h := congrArg _ h

theorem reads_fields : Reads Eq fields? Value.object where
  back _ := rfl
  alike h := congrArg _ h

theorem list?_list (read : Value → Reading α) (vs : List Value) :
    list? read (.list vs) = vs.mapM read := rfl

theorem reads_list {same : Value → Value → Prop} {read : Value → Reading α} {write : α → Value}
    (h : Reads same read write) :
    Reads (SameList same) (list? read) (fun items => .list (items.map write)) where
  back items := by
    rw [list?_list]
    induction items with
    | nil => rfl
    | cons a items ih => rw [List.map_cons, List.mapM_cons, h.back, pure_bind, ih, pure_bind]
  alike hsame := by
    rcases hsame with rfl | ⟨vs, ws, rfl, rfl, hitems⟩
    · rfl
    · rw [list?_list, list?_list]
      induction hitems with
      | nil => rfl
      | cons hitem _ ih => rw [List.mapM_cons, List.mapM_cons, h.alike hitem, ih]

theorem reads_texts : Reads (SameList Eq) (list? text?) Value.strings := reads_list reads_text

/-! ### Records -/

namespace Reads

variable {same : Value → Value → Prop} {read : Value → Reading α} {write : α → Value}

/-- A field that has been written is read back. -/
theorem field_back (h : Reads same read write) {es : List (String × Value)} {name : String}
    {a d : α} (hwritten : es.lookup name = some (write a)) : field es name read d = pure a := by
  rw [field, hwritten]
  exact h.back a

/-- A field that is left out is read as if its default had been written. -/
theorem field_eq (h : Reads same read write) (es : List (String × Value)) (name : String) (d : α) :
    field es name read d = read ((es.lookup name).getD (write d)) := by
  rw [field]
  cases es.lookup name with
  | some v => rfl
  | none => exact (h.back d).symm

/-- A field is read alike from two records where it is the same. -/
theorem field_alike (h : Reads same read write) {es fs : List (String × Value)} {name : String}
    {d : α} (hsame : same ((es.lookup name).getD (write d)) ((fs.lookup name).getD (write d))) :
    field es name read d = field fs name read d := by
  rw [h.field_eq, h.field_eq, h.alike hsame]

theorem read?_back (h : Reads same read write) (a : α) : Value.read? read (write a) = some a := by
  rw [Value.read?, h.back]
  rfl

theorem read?_again (h : Reads same read write) (v : Value) :
    ((Value.read? read v).bind fun a => Value.read? read (write a)) = Value.read? read v := by
  simp only [h.read?_back, Option.bind_fun_some]

theorem read?_alike (h : Reads same read write) {v w : Value} (hsame : same v w) :
    Value.read? read v = Value.read? read w := by
  rw [Value.read?, Value.read?, h.alike hsame]

end Reads

/-- A record reads back what it writes if its fields do, and reads values alike that are the same if
its fields do. -/
theorem reads_record {rules : List FieldRule} {build : List (String × Value) → Reading α}
    {pairs : α → List (String × Value)}
    (hback : ∀ a, build (Fields.ofList (pairs a)) = pure a)
    (halike : ∀ es fs, (∀ r ∈ rules, r.same (r.valueIn es) (r.valueIn fs)) → build es = build fs) :
    Reads (SameRecord rules) (fun v => entries? (rules.map (·.name)) v >>= build)
      (fun a => .record (pairs a)) where
  back a := hback a
  alike {v w} hsame := by
    have hbind (v : Value) : (entries? (rules.map (·.name)) v >>= build) =
        match recordEntries? (rules.map (·.name)) v with
        | some es => build es
        | none => failure := by
      show (Reading.of (recordEntries? (rules.map (·.name)) v) >>= build) = _
      cases recordEntries? (rules.map (·.name)) v <;> rfl
    rw [hbind, hbind]
    unfold SameRecord at hsame
    generalize recordEntries? (rules.map (·.name)) v = vs at hsame ⊢
    generalize recordEntries? (rules.map (·.name)) w = ws at hsame ⊢
    cases hsame with
    | none => rfl
    | some h => exact halike _ _ h

end Value

open Value

namespace Document

/-- When two values are the same as a property. -/
def Property.Same : Value → Value → Prop :=
  SameRecord [⟨"name", .str "", Eq⟩, ⟨"type", .str "", Eq⟩, ⟨"extensions", .object [], Eq⟩]

theorem Property.reads : Reads Property.Same Property.read? Property.toValue := by
  refine reads_record (fun p => ?_) fun es fs h => ?_
  · rw [reads_text.field_back (a := p.name), reads_text.field_back (a := p.type),
      reads_fields.field_back (a := p.extensions)]
    · rfl
    all_goals simp [Fields.lookup_ofList, lookup_cons_eq]
  · simp only [List.forall_mem_cons] at h
    obtain ⟨hname, htype, hextensions, -⟩ := h
    rw [reads_text.field_alike hname, reads_text.field_alike htype,
      reads_fields.field_alike hextensions]

/-- When two values are the same as a parameter. -/
def Param.Same : Value → Value → Prop :=
  SameRecord [⟨"name", .str "", Eq⟩, ⟨"type", .str "", Eq⟩]

theorem Param.reads : Reads Param.Same Param.read? Param.toValue := by
  refine reads_record (fun p => ?_) fun es fs h => ?_
  · rw [reads_text.field_back (a := p.name), reads_text.field_back (a := p.type)]
    · rfl
    all_goals simp [Fields.lookup_ofList, lookup_cons_eq]
  · simp only [List.forall_mem_cons] at h
    obtain ⟨hname, htype, -⟩ := h
    rw [reads_text.field_alike hname, reads_text.field_alike htype]

/-- When two values are the same as a method. -/
def Method.Same : Value → Value → Prop :=
  SameRecord [⟨"name", .str "", Eq⟩, ⟨"returnType", .null, Eq⟩,
    ⟨"params", .list [], SameList Param.Same⟩, ⟨"extensions", .object [], Eq⟩]

theorem Method.reads : Reads Method.Same Method.read? Method.toValue := by
  refine reads_record (fun m => ?_) fun es fs h => ?_
  · rw [reads_text.field_back (a := m.name), reads_optionalText.field_back (a := m.returnType),
      (reads_list Param.reads).field_back (a := m.params),
      reads_fields.field_back (a := m.extensions)]
    · rfl
    all_goals simp [Fields.lookup_ofList, lookup_cons_eq]
  · simp only [List.forall_mem_cons] at h
    obtain ⟨hname, hreturn, hparams, hextensions, -⟩ := h
    rw [reads_text.field_alike hname, reads_optionalText.field_alike (d := none) hreturn,
      (reads_list Param.reads).field_alike (d := []) hparams, reads_fields.field_alike hextensions]

/-- When two values are the same as an enum. -/
def Enum.Same : Value → Value → Prop :=
  SameRecord [⟨"name", .str "", Eq⟩, ⟨"values", .list [], SameList Eq⟩,
    ⟨"extensions", .object [], Eq⟩]

theorem Enum.reads : Reads Enum.Same Enum.read? Enum.toValue := by
  refine reads_record (fun e => ?_) fun es fs h => ?_
  · rw [reads_text.field_back (a := e.name), reads_texts.field_back (a := e.values),
      reads_fields.field_back (a := e.extensions)]
    · rfl
    all_goals simp [Fields.lookup_ofList, lookup_cons_eq]
  · simp only [List.forall_mem_cons] at h
    obtain ⟨hname, hvalues, hextensions, -⟩ := h
    rw [reads_text.field_alike hname, reads_texts.field_alike (d := []) hvalues,
      reads_fields.field_alike hextensions]

/-- When two values are the same as a contract. -/
def Contract.Same : Value → Value → Prop :=
  SameRecord [⟨"name", .str "", Eq⟩, ⟨"properties", .list [], SameList Property.Same⟩,
    ⟨"extensions", .object [], Eq⟩]

theorem Contract.reads : Reads Contract.Same Contract.read? Contract.toValue := by
  refine reads_record (fun c => ?_) fun es fs h => ?_
  · rw [reads_text.field_back (a := c.name),
      (reads_list Property.reads).field_back (a := c.properties),
      reads_fields.field_back (a := c.extensions)]
    · rfl
    all_goals simp [Fields.lookup_ofList, lookup_cons_eq]
  · simp only [List.forall_mem_cons] at h
    obtain ⟨hname, hproperties, hextensions, -⟩ := h
    rw [reads_text.field_alike hname, (reads_list Property.reads).field_alike (d := []) hproperties,
      reads_fields.field_alike hextensions]

/-- When two values are the same as a model. -/
def Model.Same : Value → Value → Prop :=
  SameRecord [⟨"name", .str "", Eq⟩, ⟨"abstract", .bool false, Eq⟩, ⟨"baseModel", .null, Eq⟩,
    ⟨"properties", .list [], SameList Property.Same⟩, ⟨"methods", .list [], SameList Method.Same⟩,
    ⟨"contracts", .list [], SameList Eq⟩, ⟨"extensions", .object [], Eq⟩]

theorem Model.reads : Reads Model.Same Model.read? Model.toValue := by
  refine reads_record (fun m => ?_) fun es fs h => ?_
  · rw [reads_text.field_back (a := m.name), reads_flag.field_back (a := m.isAbstract),
      reads_optionalText.field_back (a := m.baseModel),
      (reads_list Property.reads).field_back (a := m.properties),
      (reads_list Method.reads).field_back (a := m.methods),
      reads_texts.field_back (a := m.contracts), reads_fields.field_back (a := m.extensions)]
    · rfl
    all_goals simp [Fields.lookup_ofList, lookup_cons_eq]
  · simp only [List.forall_mem_cons] at h
    obtain ⟨hname, habstract, hbase, hproperties, hmethods, hcontracts, hextensions, -⟩ := h
    rw [reads_text.field_alike hname, reads_flag.field_alike habstract,
      reads_optionalText.field_alike (d := none) hbase,
      (reads_list Property.reads).field_alike (d := []) hproperties,
      (reads_list Method.reads).field_alike (d := []) hmethods,
      reads_texts.field_alike (d := []) hcontracts, reads_fields.field_alike hextensions]

/-- When two values are the same as a service. -/
def Service.Same : Value → Value → Prop :=
  SameRecord [⟨"name", .str "", Eq⟩, ⟨"methods", .list [], SameList Method.Same⟩,
    ⟨"extensions", .object [], Eq⟩]

theorem Service.reads : Reads Service.Same Service.read? Service.toValue := by
  refine reads_record (fun s => ?_) fun es fs h => ?_
  · rw [reads_text.field_back (a := s.name), (reads_list Method.reads).field_back (a := s.methods),
      reads_fields.field_back (a := s.extensions)]
    · rfl
    all_goals simp [Fields.lookup_ofList, lookup_cons_eq]
  · simp only [List.forall_mem_cons] at h
    obtain ⟨hname, hmethods, hextensions, -⟩ := h
    rw [reads_text.field_alike hname, (reads_list Method.reads).field_alike (d := []) hmethods,
      reads_fields.field_alike hextensions]

/-- When two values are the same as a document. -/
def Same : Value → Value → Prop :=
  SameRecord [⟨"namespace", .null, Eq⟩, ⟨"options", .object [], Eq⟩,
    ⟨"enums", .list [], SameList Enum.Same⟩, ⟨"contracts", .list [], SameList Contract.Same⟩,
    ⟨"models", .list [], SameList Model.Same⟩, ⟨"services", .list [], SameList Service.Same⟩,
    ⟨"extensions", .object [], Eq⟩]

theorem reads : Reads Same read? toValue := by
  refine reads_record (fun d => ?_) fun es fs h => ?_
  · rw [reads_optionalText.field_back (a := d.nameSpace), reads_fields.field_back (a := d.options),
      (reads_list Enum.reads).field_back (a := d.enums),
      (reads_list Contract.reads).field_back (a := d.contracts),
      (reads_list Model.reads).field_back (a := d.models),
      (reads_list Service.reads).field_back (a := d.services),
      reads_fields.field_back (a := d.extensions)]
    · rfl
    all_goals simp [Fields.lookup_ofList, lookup_cons_eq]
  · simp only [List.forall_mem_cons] at h
    obtain ⟨hspace, hoptions, henums, hcontracts, hmodels, hservices, hextensions, -⟩ := h
    rw [reads_optionalText.field_alike (d := none) hspace, reads_fields.field_alike hoptions,
      (reads_list Enum.reads).field_alike (d := []) henums,
      (reads_list Contract.reads).field_alike (d := []) hcontracts,
      (reads_list Model.reads).field_alike (d := []) hmodels,
      (reads_list Service.reads).field_alike (d := []) hservices,
      reads_fields.field_alike hextensions]

end Document

namespace Augmentation

/-- When two values are the same as a patch. -/
def Patch.Same : Value → Value → Prop :=
  SameRecord [⟨"name", .str "", Eq⟩, ⟨"extensions", .object [], Eq⟩,
    ⟨"methods", .list [], SameList Document.Method.Same⟩]

theorem Patch.reads : Reads Patch.Same Patch.read? Patch.toValue := by
  refine reads_record (fun p => ?_) fun es fs h => ?_
  · rw [reads_text.field_back (a := p.name), reads_fields.field_back (a := p.extensions),
      (reads_list Document.Method.reads).field_back (a := p.methods)]
    · rfl
    all_goals simp [Fields.lookup_ofList, lookup_cons_eq]
  · simp only [List.forall_mem_cons] at h
    obtain ⟨hname, hextensions, hmethods, -⟩ := h
    rw [reads_text.field_alike hname, reads_fields.field_alike hextensions,
      (reads_list Document.Method.reads).field_alike (d := []) hmethods]

/-- When two values are the same as an augmentation. -/
def Same : Value → Value → Prop :=
  SameRecord [⟨"fqn", .null, Eq⟩, ⟨"extensions", .object [], Eq⟩,
    ⟨"models", .list [], SameList Patch.Same⟩]

theorem reads : Reads Same read? toValue := by
  refine reads_record (fun a => ?_) fun es fs h => ?_
  · rw [reads_optionalText.field_back (a := a.fqn), reads_fields.field_back (a := a.extensions),
      (reads_list Patch.reads).field_back (a := a.models)]
    · rfl
    all_goals simp [Fields.lookup_ofList, lookup_cons_eq]
  · simp only [List.forall_mem_cons] at h
    obtain ⟨hfqn, hextensions, hmodels, -⟩ := h
    rw [reads_optionalText.field_alike (d := none) hfqn, reads_fields.field_alike hextensions,
      (reads_list Patch.reads).field_alike (d := []) hmodels]

end Augmentation

/-- Every document that is written is read back as it was, and so is every augmentation; hence
writing and reading again changes nothing in what has been read from any value. What is read does
not depend on fields that are not of the format, nor on which fields are written out with their
defaults. -/
theorem documents_read_back :
    (∀ d : Document, Value.read? Document.read? d.toValue = some d) ∧
    (∀ a : Augmentation, Value.read? Augmentation.read? a.toValue = some a) ∧
    (∀ v, ((Value.read? Document.read? v).bind fun d => Value.read? Document.read? d.toValue) =
      Value.read? Document.read? v) ∧
    (∀ v, ((Value.read? Augmentation.read? v).bind fun a =>
      Value.read? Augmentation.read? a.toValue) = Value.read? Augmentation.read? v) ∧
    (∀ v w, Document.Same v w → Value.read? Document.read? v = Value.read? Document.read? w) ∧
    ∀ v w, Augmentation.Same v w →
      Value.read? Augmentation.read? v = Value.read? Augmentation.read? w :=
  ⟨Document.reads.read?_back, Augmentation.reads.read?_back, Document.reads.read?_again,
    Augmentation.reads.read?_again, fun _ _ => Document.reads.read?_alike,
    fun _ _ => Augmentation.reads.read?_alike⟩

/-- A document with one model, which has a note that is not of the format. -/
def terse : Value :=
  .object [("colour", .str "red"),
    ("models", .list [.object [("abstract", .bool true), ("note", .null)]])]

theorem documents_read_back_terse :
    Document.Same terse (Document.toValue { models := [{ isAbstract := true }] }) ∧
      Value.read? Document.read? terse = some { models := [{ isAbstract := true }] } := by
  have hsame : Document.Same terse (Document.toValue { models := [{ isAbstract := true }] }) := by
    have hmodel : Document.Model.Same (.object [("abstract", .bool true), ("note", .null)])
        (Document.Model.toValue { isAbstract := true }) := by
      refine .some ?_
      simp [FieldRule.valueIn, Fields.lookup_ofList, lookup_cons_eq, SameList, Value.optional,
        Value.strings]
    refine .some ?_
    simp [FieldRule.valueIn, Fields.lookup_ofList, lookup_cons_eq, SameList, Value.optional, hmodel]
  obtain ⟨hback, _, _, _, halike, _⟩ := documents_read_back
  exact ⟨hsame, (halike _ _ hsame).trans (hback _)⟩

end Stencil
