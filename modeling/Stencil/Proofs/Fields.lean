import Mathlib.Data.List.Induction
import Stencil.Proofs.Lookup
import Stencil.Value.Basic

/-! Fields that are put over other fields.

What stands under a key afterwards is settled key by key: it is what the last of the fields that
were put over the others has under it, if one of them has the key, and else what stood there before
(`PutOver`). Layers are put over nothing (`IsLayered`). They are in ascending order, so that a level
which consists of layers itself may be replaced by them (`layer_layer`). -/

namespace Stencil.Fields

/-! ### One key -/

theorem lookup_insert (m : Fields) (key : String) (value : Value) (n : String) :
    (m.insert key value).lookup n = if n = key then some value else m.lookup n := by
  fun_induction insert <;> grind [lookup_cons_eq]

theorem lookup_foldl_insert (pairs : List (String × Value)) (m : Fields) (n : String) :
    (pairs.foldl (fun m p => m.insert p.1 p.2) m).lookup n =
      (pairs.reverse.lookup n).or (m.lookup n) := by
  induction pairs generalizing m with
  | nil => rfl
  | cons p pairs ih =>
    rw [List.foldl_cons, ih, lookup_insert, List.reverse_cons, List.lookup_append, lookup_cons_eq]
    split <;> simp

/-- Under a name, fields of a list of pairs have the last value that was given for it. -/
theorem lookup_ofList (pairs : List (String × Value)) (n : String) :
    (ofList pairs).lookup n = pairs.reverse.lookup n := by
  rw [ofList, lookup_foldl_insert, List.lookup_nil, Option.or_none]

theorem get?_override (base upper : Fields) (key : String) :
    (base.override upper).get? key = (upper.get? key).or (base.get? key) := by
  unfold get? override
  induction upper with
  | nil => rfl
  | cons p upper ih =>
    rw [List.foldr_cons, lookup_insert, ih, lookup_cons_eq]
    split <;> rfl

theorem get?_override_override (base lower upper : Fields) (key : String) :
    (base.override (lower.override upper)).get? key =
      (upper.get? key).or ((lower.get? key).or (base.get? key)) := by
  rw [get?_override, get?_override, Option.or_assoc]

/-- Whether there is a value under a key. -/
def Declares (m : Fields) (key : String) : Prop := key ∈ m.map (·.1)

instance (m : Fields) (key : String) : Decidable (m.Declares key) :=
  inferInstanceAs (Decidable (_ ∈ _))

theorem get?_of_not_declares {m : Fields} {key : String} (h : ¬ m.Declares key) :
    m.get? key = none := by
  rw [get?, List.lookup_eq_none_iff]
  intro entry hentry
  have hne : key ≠ entry.1 := fun heq => h (heq ▸ List.mem_map_of_mem hentry)
  simpa using hne

theorem exists_get?_of_declares {m : Fields} {key : String} (h : m.Declares key) :
    ∃ value, m.get? key = some value := by
  obtain ⟨⟨_, value⟩, hmem, rfl⟩ := List.mem_map.mp h
  rw [← Option.isSome_iff_exists, ← Option.ne_none_iff_isSome]
  intro hnone
  simpa using List.lookup_eq_none_iff.mp hnone _ hmem

/-! ### Levels -/

/-- Of the levels, outermost first, the innermost one that declares a key has a value under it. -/
def Innermost (levels : List Fields) (key : String) (value : Value) : Prop :=
  ∃ outer level inner, levels = outer ++ level :: inner ∧ (key, value) ∈ level ∧
    ∀ l ∈ inner, ¬ l.Declares key

/-- Fields over which levels have been put one after another: a key that none of them declares has
what it had before, and any other key has the value of the last level that declares it. -/
structure PutOver (base : Fields) (levels : List Fields) (m : Fields) : Prop where
  kept : ∀ key, (∀ l ∈ levels, ¬ l.Declares key) → m.get? key = base.get? key
  given : ∀ key, (∃ l ∈ levels, l.Declares key) →
    ∃ value, m.get? key = some value ∧ Innermost levels key value

theorem PutOver.override {base : Fields} {levels : List Fields} {m : Fields}
    (h : PutOver base levels m) (l : Fields) : PutOver base (levels ++ [l]) (m.override l) := by
  have hskip {key : String} (hl : ¬ l.Declares key) : (m.override l).get? key = m.get? key := by
    rw [get?_override, get?_of_not_declares hl, Option.none_or]
  constructor
  · intro key hnone
    rw [hskip (hnone l (by simp))]
    exact h.kept key fun l' hl' => hnone l' (List.mem_append_left _ hl')
  · intro key hsome
    by_cases hl : l.Declares key
    · obtain ⟨value, hvalue⟩ := exists_get?_of_declares hl
      refine ⟨value, ?_, levels, l, [], rfl, mem_of_lookup hvalue, by simp⟩
      rw [get?_override, hvalue, Option.some_or]
    · have hbefore : ∃ l' ∈ levels, l'.Declares key := by
        obtain ⟨l', hl', hkey⟩ := hsome
        rcases List.mem_append.mp hl' with hl' | hl'
        · exact ⟨l', hl', hkey⟩
        · exact absurd (List.mem_singleton.mp hl' ▸ hkey) hl
      obtain ⟨value, hvalue, outer, level, inner, rfl, hmem, hinner⟩ := h.given key hbefore
      refine ⟨value, ?_, outer, level, inner ++ [l], by simp, hmem, ?_⟩
      · rw [hskip hl, hvalue]
      · intro l' hl'
        rcases List.mem_append.mp hl' with hl' | hl'
        · exact hinner l' hl'
        · exact List.mem_singleton.mp hl' ▸ hl

theorem putOver_foldl (base : Fields) (levels : List Fields) :
    PutOver base levels (levels.foldl Fields.override base) := by
  induction levels using List.reverseRecOn with
  | nil => exact ⟨fun _ _ => rfl, fun _ h => by simp at h⟩
  | append_singleton levels l ih =>
    rw [List.foldl_append]
    exact ih.override l

/-- The value under a key is that of the last level which has the key, if one has it. -/
theorem get?_foldl_override (levels : List Fields) (base : Fields) (key : String) :
    (levels.foldl Fields.override base).get? key =
      (levels.reverse.findSome? (·.get? key)).or (base.get? key) := by
  induction levels using List.reverseRecOn with
  | nil => rfl
  | append_singleton levels l ih =>
    rw [List.foldl_append, List.foldl_cons, List.foldl_nil, get?_override, ih, List.reverse_concat,
      List.findSome?_cons]
    cases l.get? key <;> rfl

/-- Fields that consist of levels, outermost first: a key is there iff some level declares it, and
has the value of the innermost level that does. -/
structure IsLayered (levels : List Fields) (m : Fields) : Prop where
  keys : ∀ key, (∃ value, m.get? key = some value) ↔ ∃ l ∈ levels, l.Declares key
  values : ∀ key value, m.get? key = some value → Innermost levels key value

theorem isLayered_layer (levels : List Fields) : IsLayered levels (layer levels) := by
  have hover : PutOver [] levels (layer levels) := putOver_foldl [] levels
  have hkeys (key : String) :
      (∃ value, (layer levels).get? key = some value) ↔ ∃ l ∈ levels, l.Declares key := by
    constructor
    · rintro ⟨value, hvalue⟩
      by_contra hnone
      have hempty := hover.kept key fun l hl hkey => hnone ⟨l, hl, hkey⟩
      rw [hvalue] at hempty
      cases hempty
    · intro hsome
      obtain ⟨value, hvalue, _⟩ := hover.given key hsome
      exact ⟨value, hvalue⟩
  refine ⟨hkeys, fun key value hvalue => ?_⟩
  obtain ⟨value', hvalue', hinnermost⟩ := hover.given key ((hkeys key).mp ⟨value, hvalue⟩)
  rwa [Option.some.inj (hvalue.symm.trans hvalue')]

/-! ### Layers in stages -/

theorem mem_insert {m : Fields} {key : String} {value : Value} {entry : String × Value}
    (h : entry ∈ m.insert key value) : entry.1 = key ∨ entry ∈ m := by
  fun_induction insert m key value <;> grind

theorem isAscending_insert {m : Fields} (h : IsAscending m) (key : String) (value : Value) :
    IsAscending (m.insert key value) := by
  unfold IsAscending at h ⊢
  fun_induction insert m key value with
  | case1 => exact List.pairwise_singleton ..
  | case2 v rest =>
    rw [List.pairwise_cons] at h ⊢
    exact h
  | case3 k v rest hne hlt =>
    rw [List.pairwise_cons]
    refine ⟨fun entry hentry => ?_, h⟩
    rcases List.mem_cons.mp hentry with rfl | hentry
    · exact hlt
    · exact String.lt_trans hlt ((List.pairwise_cons.mp h).1 entry hentry)
  | case4 k v rest hne hlt ih =>
    rw [List.pairwise_cons] at h ⊢
    refine ⟨fun entry hentry => ?_, ih h.2⟩
    rcases mem_insert hentry with hkey | hentry
    · have hle : k ≤ key := String.not_lt.mp hlt
      rw [hkey]
      exact lt_of_le_of_ne hle (Ne.symm hne)
    · exact h.1 entry hentry

theorem isAscending_override {base : Fields} (h : IsAscending base) (upper : Fields) :
    IsAscending (base.override upper) := by
  rw [override]
  induction upper with
  | nil => exact h
  | cons p upper ih => exact isAscending_insert ih p.1 p.2

theorem isAscending_layer (levels : List Fields) : IsAscending (layer levels) := by
  induction levels using List.reverseRecOn with
  | nil => exact List.Pairwise.nil
  | append_singleton levels l ih =>
    rw [layer, List.foldl_append]
    exact isAscending_override ih l

/-- A key above all others is put at the end. -/
theorem insert_of_lt {m : Fields} {key : String} (value : Value)
    (h : ∀ entry ∈ m, entry.1 < key) : m.insert key value = m ++ [(key, value)] := by
  fun_induction insert m key value with
  | case1 => rfl
  | case2 v rest => exact absurd (h _ (List.mem_cons_self ..)) (String.lt_irrefl _)
  | case3 k v rest _ hlt => exact absurd hlt (String.lt_asymm (h _ (List.mem_cons_self ..)))
  | case4 k v rest _ _ ih =>
    rw [ih fun entry hentry => h entry (List.mem_cons_of_mem _ hentry), List.cons_append]

/-- Fields in ascending order are put over nothing one by one, the last of them first. -/
theorem override_nil {m : Fields} (h : IsAscending m) : override [] m = m := by
  unfold override
  induction m with
  | nil => rfl
  | cons p m ih =>
    rw [List.foldr_cons, ih (List.Pairwise.of_cons h)]
    cases m with
    | nil => rfl
    | cons q m =>
      have hlt : p.1 < q.1 := List.rel_of_pairwise_cons h (List.mem_cons_self ..)
      have hne : p.1 ≠ q.1 := fun heq => String.lt_irrefl _ (heq ▸ hlt)
      rw [insert, if_neg hne, if_pos hlt]

/-- A level that consists of layers itself may be replaced by these. -/
theorem layer_layer (outer inner : List Fields) :
    layer (layer outer :: inner) = layer (outer ++ inner) := by
  rw [layer, List.foldl_cons, override_nil (isAscending_layer outer), layer, layer,
    List.foldl_append]

/-- What is put over layers is one more level. -/
theorem isLayered_below (outer : List Fields) (l : Fields) :
    IsLayered (outer ++ [l]) (layer [layer outer, l]) := by
  rw [layer_layer]
  exact isLayered_layer (outer ++ [l])

end Stencil.Fields
