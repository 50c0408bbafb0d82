import Mathlib.Data.List.Nodup
import Mathlib.Data.List.Sort
import Mathlib.Data.String.Basic
import Stencil.Files.Disk
import Stencil.Template.Library

/-! Tables of names, kept in ascending order: what is found in one after something has been put
under a name. The order of a table plays no part in this, but it makes what is found settle the
table. -/

namespace Stencil

theorem lookup_cons_eq {α : Type} (n k : String) (v : α) (l : List (String × α)) :
    ((k, v) :: l).lookup n = if n = k then some v else l.lookup n := by
  by_cases h : n = k
  · simp [h]
  · have hb : (n == k) = false := beq_false_of_ne h
    simp [List.lookup_cons, h, hb]

theorem mem_of_lookup {α : Type} {n : String} {v : α} {l : List (String × α)}
    (h : l.lookup n = some v) : (n, v) ∈ l := by
  obtain ⟨before, after, rfl, _⟩ := List.lookup_eq_some_iff.mp h
  simp

/-- Something is found under a name if all that stands there is the same. -/
theorem lookup_of_mem {α : Type} {n : String} {v : α} {l : List (String × α)} (h : (n, v) ∈ l)
    (hsame : ∀ v', (n, v') ∈ l → v' = v) : l.lookup n = some v := by
  cases hfound : l.lookup n with
  | none => simpa using List.lookup_eq_none_iff.mp hfound _ h
  | some v' => rw [hsame v' (mem_of_lookup hfound)]

theorem Entry.lookup_insert (entries : List (String × Entry)) (name : String) (e : Entry)
    (n : String) :
    (insert entries name e).lookup n = if n = name then some e else entries.lookup n := by
  fun_induction insert <;> grind [lookup_cons_eq]

theorem Template.Library.get?_insert (l : Library) (t : Source) (n : String) :
    (l.insert t).get? n = if n = t.name then some t else l.get? n := by
  unfold get?
  fun_induction insert <;> grind [lookup_cons_eq]

/-! ### Tables in ascending order -/

/-- A table whose names ascend. -/
def IsAscending {α : Type} (table : List (String × α)) : Prop := table.Pairwise (·.1 < ·.1)

instance {α : Type} (table : List (String × α)) : Decidable (IsAscending table) :=
  inferInstanceAs (Decidable (table.Pairwise _))

namespace IsAscending

variable {α : Type} {table table' : List (String × α)}

theorem mem_iff_lookup (h : IsAscending table) {n : String} {a : α} :
    (n, a) ∈ table ↔ table.lookup n = some a := by
  refine ⟨fun hmem => lookup_of_mem hmem fun b hb => ?_, mem_of_lookup⟩
  have hnames : (table.map (·.1)).Nodup :=
    List.pairwise_map.mpr (h.imp fun hlt heq => absurd (heq ▸ hlt) (String.lt_irrefl _))
  exact congrArg Prod.snd (List.inj_on_of_nodup_map hnames hb hmem rfl)

/-- Two tables in ascending order are equal if the same is found in them under each name. -/
theorem eq_of_lookup (h : IsAscending table) (h' : IsAscending table')
    (hlookup : ∀ n, table.lookup n = table'.lookup n) : table = table' := by
  have : Std.Irrefl fun a b : String × α => a.1 < b.1 := ⟨fun a => String.lt_irrefl a.1⟩
  have : Std.Antisymm fun a b : String × α => a.1 < b.1 :=
    ⟨fun a b hab hba => absurd hba (String.lt_asymm hab)⟩
  refine List.Pairwise.eq_of_mem_iff h h' fun ⟨n, a⟩ => ?_
  rw [h.mem_iff_lookup, h'.mem_iff_lookup, hlookup]

end IsAscending

end Stencil
