import Mathlib.Data.List.Basic
import Stencil.DataType

/-! The written form of types.

A type is written as `k` list marks, a base and `m` question marks, where `m` is at most `k + 1`.
The base is a keyword in any ASCII case or a declared name. Reading takes one question mark from the
end and one list mark from the front in turn, so the question marks belong to the layers from the
outside in.

    text:      list:  list:  base  ?  ?
    layer:     0      1      2
    nullable:  yes    yes    no

`parse_iff_written` says that `DataType.parse` accepts exactly these texts, that each of them has
only one such form, and which type it gives. -/

namespace Stencil

namespace DataType

/-- What stands in front of the type of the items of a list. -/
def listMark : List Char := ['l', 'i', 's', 't', ':']

/-- A text that neither starts like a list nor ends like a nullable type. -/
def IsPlain (cs : List Char) : Prop := ¬ listMark <+: cs ∧ cs.getLast? ≠ some '?'

instance (cs : List Char) : Decidable (IsPlain cs) := inferInstanceAs (Decidable (_ ∧ _))

end DataType

/-- Declared names that cannot be taken for a list or for a nullable type. -/
def KnownNames.IsPlain (known : KnownNames) : Prop :=
  ∀ name ∈ known.enums ++ known.models, DataType.IsPlain name.toList

namespace DataType

/-- The text of `k` list marks, a base and `m` question marks. -/
def layeredText (k : Nat) (base : List Char) (m : Nat) : List Char :=
  (List.replicate k listMark).flatten ++ base ++ List.replicate m '?'

/-- A type inside list layers, whose nullability is given from the outside in. -/
def wrap (inner : DataType) : List Bool → DataType
  | [] => inner
  | n :: more => .list (wrap inner more) n

/-- `k` list layers around a kind of type. Layer `i` from the outside is nullable iff `i < m`; the
kind itself is layer `k`. -/
def layered (kind : Bool → DataType) (k m : Nat) : DataType :=
  wrap (kind (decide (k < m))) ((List.range k).map fun i => decide (i < m))

/-- A base is spelled like a keyword, up to ASCII case. -/
def IsKeyword (base : List Char) (kind : Primitive) : Prop :=
  (String.ofList (base.map Char.toLower), kind) ∈ Primitive.keywords

/-- What a base names, which may still be nullable or not: a keyword comes before an enum and an
enum before a model. -/
inductive Names (known : KnownNames) (base : List Char) : (Bool → DataType) → Prop where
  | keyword (kind : Primitive) (spelled : IsKeyword base kind) : Names known base (.primitive kind)
  | enum (noKeyword : ∀ kind, ¬ IsKeyword base kind)
      (declared : String.ofList base ∈ known.enums) : Names known base (.enum (.ofList base))
  | model (noKeyword : ∀ kind, ¬ IsKeyword base kind) (noEnum : String.ofList base ∉ known.enums)
      (declared : String.ofList base ∈ known.models) : Names known base (.model (.ofList base))

/-- A text in the written form of a type. -/
structure Written (known : KnownNames) (cs : List Char) (k : Nat) (base : List Char) (m : Nat)
    (kind : Bool → DataType) : Prop where
  marks : m ≤ k + 1
  names : Names known base kind
  text : cs = layeredText k base m

/-- At every layer, only a nullable list has nullable items. -/
def ItemsFollowList : DataType → Prop
  | .list item n => (item.nullable = true → n = true) ∧ ItemsFollowList item
  | _ => True

/-! ### Names -/

theorem ofKeyword?_eq_some {base : List Char} {kind : Primitive} :
    Primitive.ofKeyword? base = some kind ↔ IsKeyword base kind := by
  have hself : ∀ entry ∈ Primitive.keywords, Primitive.keywords.lookup entry.1 = some entry.2 := by
    decide
  constructor
  · intro h
    obtain ⟨before, after, heq, _⟩ := List.lookup_eq_some_iff.mp h
    rw [IsKeyword, heq]
    simp
  · exact fun h => hself _ h

theorem ofKeyword?_eq_none {base : List Char} :
    Primitive.ofKeyword? base = none ↔ ∀ kind, ¬ IsKeyword base kind := by
  simp only [← ofKeyword?_eq_some]
  cases Primitive.ofKeyword? base <;> simp

theorem isPlain_of_isKeyword {base : List Char} {kind : Primitive} (h : IsKeyword base kind) :
    IsPlain base := by
  have hall : ∀ entry ∈ Primitive.keywords, IsPlain entry.1.toList := by decide
  have hlower := hall _ h
  simp only [IsPlain, String.toList_ofList] at hlower
  refine ⟨fun hstart => hlower.1 ?_, fun hend => hlower.2 ?_⟩
  · exact hstart.map Char.toLower
  · rw [List.getLast?_map, hend]; rfl

/-- Under plain declarations, everything that is named is plain. -/
theorem Names.isPlain {known : KnownNames} (hknown : known.IsPlain) {base : List Char}
    {kind : Bool → DataType} (h : Names known base kind) : IsPlain base := by
  cases h with
  | keyword kind spelled => exact isPlain_of_isKeyword spelled
  | enum _ declared => simpa using hknown _ (List.mem_append_left _ declared)
  | model _ _ declared => simpa using hknown _ (List.mem_append_right _ declared)

/-- A base names at most one kind. -/
theorem Names.unique {known : KnownNames} {base : List Char} {kind kind' : Bool → DataType}
    (h : Names known base kind) (h' : Names known base kind') : kind = kind' := by
  cases h with
  | keyword kind spelled =>
    cases h' with
    | keyword kind' spelled' =>
      rw [← ofKeyword?_eq_some] at spelled spelled'
      rw [spelled] at spelled'
      cases spelled'; rfl
    | enum noKeyword => exact absurd spelled (noKeyword kind)
    | model noKeyword => exact absurd spelled (noKeyword kind)
  | enum noKeyword declared =>
    cases h' with
    | keyword kind' spelled' => exact absurd spelled' (noKeyword kind')
    | enum => rfl
    | model _ noEnum => exact absurd declared noEnum
  | model noKeyword noEnum =>
    cases h' with
    | keyword kind' spelled' => exact absurd spelled' (noKeyword kind')
    | enum _ declared' => exact absurd declared' noEnum
    | model => rfl

/-! ### Marks -/

theorem itemText?_eq_some {cs item : List Char} :
    itemText? cs = some item ↔ cs = listMark ++ item := by
  constructor
  · intro h
    unfold itemText? at h
    split at h
    · cases h; rfl
    · cases h
  · rintro rfl; rfl

/-- Nothing is lost when a question mark is taken from the end. -/
theorem stripMark_append (cs : List Char) :
    (stripMark cs).1 ++ List.replicate (stripMark cs).2.toNat '?' = cs := by
  unfold stripMark
  split
  · rename_i h
    obtain ⟨front, rfl⟩ := List.getLast?_eq_some_iff.mp h
    simp
  · simp

theorem layeredText_succ (k : Nat) (base : List Char) (m : Nat) :
    layeredText (k + 1) base m = listMark ++ layeredText k base m := by
  simp [layeredText, List.replicate_succ]

theorem layeredText_append (k : Nat) (base : List Char) (m n : Nat) :
    layeredText k base m ++ List.replicate n '?' = layeredText k base (m + n) := by
  simp [layeredText]

/-- The list marks and the base do not end in a question mark. -/
theorem getLast?_layeredText_zero {base : List Char} (hb : IsPlain base) :
    ∀ k, (layeredText k base 0).getLast? ≠ some '?'
  | 0 => by simpa [layeredText] using hb.2
  | k + 1 => by
    rw [layeredText_succ, List.getLast?_append]
    cases h : (layeredText k base 0).getLast? with
    | none => simp [listMark]
    | some c =>
      have := getLast?_layeredText_zero hb k
      rw [h] at this
      simpa using this

theorem stripMark_layeredText {base : List Char} (hb : IsPlain base) (k m : Nat) :
    stripMark (layeredText k base m) = (layeredText k base (m - 1), decide (0 < m)) := by
  unfold stripMark
  cases m with
  | zero => rw [if_neg (getLast?_layeredText_zero hb k)]; rfl
  | succ m =>
    rw [← layeredText_append k base m 1, if_pos (by simp)]
    simp

/-- Marks around a plain base can be told from it. -/
theorem layeredText_zero_injective {base base' : List Char} (hb : IsPlain base)
    (hb' : IsPlain base') : ∀ {k k' : Nat}, layeredText k base 0 = layeredText k' base' 0 →
    k = k' ∧ base = base'
  | 0, 0, h => ⟨rfl, by simpa [layeredText] using h⟩
  | 0, k' + 1, h => by
    rw [layeredText_succ] at h
    have hbase : base = listMark ++ layeredText k' base' 0 := by simpa [layeredText] using h
    exact absurd (hbase ▸ List.prefix_append ..) hb.1
  | k + 1, 0, h => by
    rw [layeredText_succ] at h
    have hbase : listMark ++ layeredText k base 0 = base' := by simpa [layeredText] using h
    exact absurd (hbase ▸ List.prefix_append ..) hb'.1
  | k + 1, k' + 1, h => by
    rw [layeredText_succ, layeredText_succ] at h
    obtain ⟨rfl, rfl⟩ := layeredText_zero_injective hb hb' (List.append_cancel_left h)
    exact ⟨rfl, rfl⟩

theorem layeredText_injective {base base' : List Char} (hb : IsPlain base) (hb' : IsPlain base')
    {k k' : Nat} : ∀ {m m' : Nat}, layeredText k base m = layeredText k' base' m' →
    k = k' ∧ base = base' ∧ m = m'
  | 0, 0, h => by
    obtain ⟨hk, hbase⟩ := layeredText_zero_injective hb hb' h
    exact ⟨hk, hbase, rfl⟩
  | 0, m' + 1, h => by
    have := congrArg (fun cs => (stripMark cs).2) h
    simp [stripMark_layeredText hb, stripMark_layeredText hb'] at this
  | m + 1, 0, h => by
    have := congrArg (fun cs => (stripMark cs).2) h
    simp [stripMark_layeredText hb, stripMark_layeredText hb'] at this
  | m + 1, m' + 1, h => by
    have hinner := congrArg (fun cs => (stripMark cs).1) h
    simp only [stripMark_layeredText hb, stripMark_layeredText hb', Nat.add_sub_cancel] at hinner
    obtain ⟨hk, hbase, rfl⟩ := layeredText_injective hb hb' hinner
    exact ⟨hk, hbase, rfl⟩

/-! ### Layers -/

theorem layered_zero (kind : Bool → DataType) (m : Nat) :
    layered kind 0 m = kind (decide (0 < m)) := rfl

/-- The outermost layer takes one question mark and leaves the others to the layers inside. -/
theorem layered_succ (kind : Bool → DataType) (k m : Nat) :
    layered kind (k + 1) m = .list (layered kind k (m - 1)) (decide (0 < m)) := by
  have hbelow : ∀ i, (i + 1 < m) = (i < m - 1) := fun i => propext (by omega)
  simp only [layered, List.range_succ_eq_map, List.map_cons, List.map_map, wrap]
  simp only [Function.comp_def, Nat.succ_eq_add_one, hbelow]

theorem Names.nullable {known : KnownNames} {base : List Char} {kind : Bool → DataType}
    (h : Names known base kind) (n : Bool) : (kind n).nullable = n := by
  cases h <;> rfl

theorem Names.itemsFollowList {known : KnownNames} {base : List Char} {kind : Bool → DataType}
    (h : Names known base kind) (n : Bool) : (kind n).ItemsFollowList := by
  cases h <;> trivial

theorem nullable_layered {known : KnownNames} {base : List Char} {kind : Bool → DataType}
    (h : Names known base kind) : ∀ k m, (layered kind k m).nullable = decide (0 < m)
  | 0, m => h.nullable _
  | k + 1, m => by rw [layered_succ]; rfl

theorem itemsFollowList_layered {known : KnownNames} {base : List Char} {kind : Bool → DataType}
    (h : Names known base kind) : ∀ k m, (layered kind k m).ItemsFollowList
  | 0, m => h.itemsFollowList _
  | k + 1, m => by
    rw [layered_succ]
    refine ⟨fun hitem => ?_, itemsFollowList_layered h k (m - 1)⟩
    rw [nullable_layered h, decide_eq_true_eq] at hitem
    rw [decide_eq_true_eq]
    omega

/-! ### Reading -/

theorem resolve?_of_names {known : KnownNames} {cs : List Char} {kind : Bool → DataType}
    (h : Names known (stripMark cs).1 kind) : resolve? known cs = some (kind (stripMark cs).2) := by
  unfold resolve?
  cases h with
  | keyword kind spelled => simp [ofKeyword?_eq_some.mpr spelled]
  | enum noKeyword declared => simp [ofKeyword?_eq_none.mpr noKeyword, declared]
  | model noKeyword noEnum declared => simp [ofKeyword?_eq_none.mpr noKeyword, noEnum, declared]

/-- A text that names nothing is read as a list, or not at all. -/
theorem resolve?_of_not_names {known : KnownNames} {cs : List Char}
    (h : ∀ kind, ¬ Names known (stripMark cs).1 kind) :
    resolve? known cs = (itemText? (stripMark cs).1).bind fun item =>
      (resolve? known item).map (.list · (stripMark cs).2) := by
  have hkeyword : ∀ kind, ¬ IsKeyword (stripMark cs).1 kind := fun kind hk => h _ (.keyword kind hk)
  have henum : String.ofList (stripMark cs).1 ∉ known.enums := fun he => h _ (.enum hkeyword he)
  have hmodel : String.ofList (stripMark cs).1 ∉ known.models :=
    fun hm => h _ (.model hkeyword henum hm)
  rw [resolve?]
  simp only [ofKeyword?_eq_none.mpr hkeyword, henum, hmodel, if_false]
  split
  · rename_i item hitem; rw [hitem]; rfl
  · rename_i hitem; rw [hitem]; rfl

/-- Every text in written form is read, layer by layer. -/
theorem resolve?_layeredText {known : KnownNames} (hknown : known.IsPlain) {base : List Char}
    {kind : Bool → DataType} (h : Names known base kind) :
    ∀ {k m : Nat}, m ≤ k + 1 → resolve? known (layeredText k base m) = some (layered kind k m)
  | 0, m, hm => by
    have hstrip := stripMark_layeredText (h.isPlain hknown) 0 m
    have hname : layeredText 0 base (m - 1) = base := by
      rw [show m - 1 = 0 by omega]; simp [layeredText]
    rw [hname] at hstrip
    rw [resolve?_of_names (by rw [hstrip]; exact h), hstrip, layered_zero]
  | k + 1, m, hm => by
    have hstrip := stripMark_layeredText (h.isPlain hknown) (k + 1) m
    rw [layeredText_succ k base (m - 1)] at hstrip
    -- a text that starts with a list mark is neither a keyword nor declared
    have hnot : ∀ kind', ¬ Names known (listMark ++ layeredText k base (m - 1)) kind' :=
      fun kind' hn => (hn.isPlain hknown).1 (List.prefix_append ..)
    rw [resolve?_of_not_names (by rw [hstrip]; exact hnot), hstrip,
      itemText?_eq_some.mpr rfl, Option.bind_some,
      resolve?_layeredText hknown h (by omega), layered_succ]
    rfl

/-- Every text that is read is in written form. -/
theorem written_of_resolve? {known : KnownNames} {cs : List Char} {t : DataType}
    (h : resolve? known cs = some t) : ∃ k base m kind, Written known cs k base m kind := by
  induction hn : cs.length using Nat.strongRecOn generalizing cs t with
  | ind n ih =>
    have hcs := stripMark_append cs
    by_cases hnames : ∃ kind, Names known (stripMark cs).1 kind
    · obtain ⟨kind, hkind⟩ := hnames
      refine ⟨0, (stripMark cs).1, (stripMark cs).2.toNat, kind, Bool.toNat_le _, hkind, ?_⟩
      simpa [layeredText] using hcs.symm
    · rw [resolve?_of_not_names (not_exists.mp hnames), Option.bind_eq_some_iff] at h
      obtain ⟨item, hitem, hmap⟩ := h
      obtain ⟨t', ht', -⟩ := Option.map_eq_some_iff.mp hmap
      have hlt : item.length < n :=
        hn ▸ Nat.lt_of_lt_of_le (length_lt_of_itemText? hitem) (length_stripMark_le cs)
      obtain ⟨k, base, m, kind, hw⟩ := ih _ hlt ht' rfl
      refine ⟨k + 1, base, m + (stripMark cs).2.toNat, kind, ?_, hw.names, ?_⟩
      · have := hw.marks
        have := Bool.toNat_le (stripMark cs).2
        omega
      · rw [itemText?_eq_some.mp hitem, hw.text, ← layeredText_succ, layeredText_append] at hcs
        exact hcs.symm

theorem parse_eq_ok {known : KnownNames} {raw : String} {t : DataType} :
    parse known raw = .ok t ↔ resolve? known (Text.trim raw).toList = some t := by
  unfold parse
  cases resolve? known (Text.trim raw).toList <;> simp

theorem parse_written {known : KnownNames} (hknown : known.IsPlain) {raw : String} {k m : Nat}
    {base : List Char} {kind : Bool → DataType}
    (h : Written known (Text.trim raw).toList k base m kind) :
    parse known raw = .ok (layered kind k m) := by
  rw [parse_eq_ok, h.text]
  exact resolve?_layeredText hknown h.names h.marks

/-- Types are read from exactly the texts in written form, up to blanks around them. The form of a
text is unique and determines the type; lists that are not nullable have no nullable items. Any
other text is refused, and the error shows it with its blanks. -/
theorem parse_iff_written (known : KnownNames) (hknown : known.IsPlain) (raw : String) :
    ((∃ t, parse known raw = .ok t) ↔
      ∃ k base m kind, Written known (Text.trim raw).toList k base m kind) ∧
    (∀ k base m kind k' base' m' kind', Written known (Text.trim raw).toList k base m kind →
      Written known (Text.trim raw).toList k' base' m' kind' →
      k = k' ∧ base = base' ∧ m = m' ∧ kind = kind') ∧
    (∀ k base m kind, Written known (Text.trim raw).toList k base m kind →
      parse known raw = .ok (layered kind k m)) ∧
    (∀ t, parse known raw = .ok t → t.ItemsFollowList) ∧
    ((¬ ∃ k base m kind, Written known (Text.trim raw).toList k base m kind) →
      parse known raw = .error (.unsupportedType raw)) := by
  have hread : ∀ t, parse known raw = .ok t →
      ∃ k base m kind, Written known (Text.trim raw).toList k base m kind :=
    fun t ht => written_of_resolve? (parse_eq_ok.mp ht)
  refine ⟨⟨fun ⟨t, ht⟩ => hread t ht, ?_⟩, ?_, ?_, ?_, ?_⟩
  · rintro ⟨k, base, m, kind, hw⟩
    exact ⟨_, parse_written hknown hw⟩
  · intro k base m kind k' base' m' kind' hw hw'
    obtain ⟨rfl, rfl, rfl⟩ := layeredText_injective (hw.names.isPlain hknown)
      (hw'.names.isPlain hknown) (hw.text.symm.trans hw'.text)
    exact ⟨rfl, rfl, rfl, hw.names.unique hw'.names⟩
  · exact fun k base m kind hw => parse_written hknown hw
  · intro t ht
    obtain ⟨k, base, m, kind, hw⟩ := hread t ht
    rw [parse_written hknown hw, Except.ok.injEq] at ht
    exact ht ▸ itemsFollowList_layered hw.names k m
  · intro hnone
    cases hr : resolve? known (Text.trim raw).toList with
    | some t => exact absurd (hread t (parse_eq_ok.mpr hr)) hnone
    | none => rw [parse, hr]

/-- Two question marks behind two list marks reach the two lists and not the enum in them. -/
theorem parse_nested_enum :
    (KnownNames.mk ["Status"] ["Order"]).IsPlain ∧
    Written ⟨["Status"], ["Order"]⟩ (Text.trim " list:list:Status?? ").toList 2 "Status".toList 2
      (.enum "Status") ∧
    parse ⟨["Status"], ["Order"]⟩ " list:list:Status?? " =
      .ok (.list (.list (.enum "Status" false) true) true) := by
  have hknown : (KnownNames.mk ["Status"] ["Order"]).IsPlain := by
    rw [KnownNames.IsPlain]; decide
  have hw : Written ⟨["Status"], ["Order"]⟩ (Text.trim " list:list:Status?? ").toList 2
      "Status".toList 2 (.enum "Status") :=
    ⟨by decide, .enum (ofKeyword?_eq_none.mp (by decide)) (by decide), by decide⟩
  exact ⟨hknown, hw, (parse_iff_written _ hknown _).2.2.1 _ _ _ _ hw⟩

end DataType

end Stencil
