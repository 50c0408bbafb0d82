import Mathlib.Data.List.Forall2
import Mathlib.Data.List.Sort
import Mathlib.Data.String.Basic
import Stencil.Files.Path

/-! The order of paths, and lists of paths in it.

Paths are compared by their components, so that the order is a linear one up to the way in which a
path is written. A list that has been sorted and cleared of repetitions ascends strictly, and it is
settled by which components occur in the list. -/

namespace Stencil.Path

namespace Component

theorem le_total (a b : Component) : a.le b ∨ b.le a := by
  cases a <;> cases b <;> simp [le, rank]
  exact String.le_total _ _

theorem le_trans {a b c : Component} (h : a.le b) (h' : b.le c) : a.le c := by
  cases a <;> cases b <;> cases c <;> simp_all [le, rank]
  exact String.le_trans h h'

theorem le_antisymm {a b : Component} (h : a.le b) (h' : b.le a) : a = b := by
  cases a <;> cases b <;> simp_all [le, rank]
  exact String.le_antisymm h h'

end Component

/-! ### Comparing components -/

theorem leComponents_total : ∀ as bs : List Component, leComponents as bs ∨ leComponents bs as
  | [], _ => .inl rfl
  | _ :: _, [] => .inr rfl
  | a :: as, b :: bs => by
    unfold leComponents
    by_cases h : a = b
    · simpa [h] using leComponents_total as bs
    · simpa [h, Ne.symm h] using a.le_total b

theorem leComponents_antisymm : ∀ {as bs : List Component}, leComponents as bs →
    leComponents bs as → as = bs
  | [], [], _, _ => rfl
  | a :: as, b :: bs, h, h' => by
    unfold leComponents at h h'
    by_cases hab : a = b
    · subst hab
      rw [if_pos rfl] at h h'
      rw [leComponents_antisymm h h']
    · rw [if_neg hab] at h
      rw [if_neg (Ne.symm hab)] at h'
      exact absurd (Component.le_antisymm h h') hab

theorem leComponents_trans : ∀ {as bs cs : List Component}, leComponents as bs →
    leComponents bs cs → leComponents as cs
  | [], _, _, _, _ => rfl
  | a :: as, b :: bs, c :: cs, h, h' => by
    unfold leComponents at h h' ⊢
    by_cases hab : a = b
    · subst hab
      rw [if_pos rfl] at h
      by_cases hac : a = c
      · rw [if_pos hac] at h' ⊢
        exact leComponents_trans h h'
      · rwa [if_neg hac] at h' ⊢
    · rw [if_neg hab] at h
      by_cases hbc : b = c
      · subst hbc
        rwa [if_neg hab]
      · rw [if_neg hbc] at h'
        -- a component that comes both before and after `b` would be `b`
        have hac : a ≠ c := by
          rintro rfl
          exact hab (Component.le_antisymm h h')
        rw [if_neg hac]
        exact Component.le_trans h h'

/-- What two lists of components have in front decides nothing. -/
theorem leComponents_append (front as bs : List Component) :
    leComponents (front ++ as) (front ++ bs) = leComponents as bs := by
  induction front with
  | nil => rfl
  | cons c front ih => rw [List.cons_append, List.cons_append, leComponents, if_pos rfl, ih]

theorem map_name_injective : Function.Injective (List.map Component.name) :=
  List.map_injective_iff.mpr fun _ _ h => Component.name.inj h

/-! ### Lists of paths -/

/-- A path comes before another, and they do not have the same components. -/
def Precedes (p q : Path) : Prop := p.le q ∧ p.components ≠ q.components

theorem Precedes.ne_of_le {p q r : Path} (h : p.le q) (h' : q.Precedes r) :
    p.components ≠ r.components := by
  intro heq
  apply h'.2
  unfold le at h
  rw [heq] at h
  exact leComponents_antisymm h'.1 h

theorem pairwise_le_mergeSort (paths : List Path) :
    (paths.mergeSort le).Pairwise (fun p q => p.le q) := by
  refine List.pairwise_mergeSort (fun p q r => ?_) (fun p q => ?_) paths
  · exact leComponents_trans
  · simpa [le] using leComponents_total p.components q.components

theorem mem_of_mem_insertDistinct {p q : Path} {paths : List Path}
    (h : q ∈ insertDistinct p paths) : q = p ∨ q ∈ paths := by
  fun_induction insertDistinct p paths with
  | case1 => exact .inl (List.mem_singleton.mp h)
  | case2 => exact .inr h
  | case3 => exact List.mem_cons.mp h
  | case4 first rest _ _ ih =>
    rcases List.mem_cons.mp h with rfl | h
    · exact .inr List.mem_cons_self
    · exact (ih h).imp_right (List.mem_cons_of_mem _)

theorem mem_insertDistinct_of_mem {p q : Path} {paths : List Path} (h : q ∈ paths) :
    q ∈ insertDistinct p paths := by
  fun_induction insertDistinct p paths with
  | case1 => cases h
  | case2 => exact h
  | case3 => exact List.mem_cons_of_mem _ h
  | case4 first rest _ _ ih =>
    rcases List.mem_cons.mp h with rfl | h
    · exact List.mem_cons_self
    · exact List.mem_cons_of_mem _ (ih h)

theorem exists_mem_insertDistinct (p : Path) (paths : List Path) :
    ∃ q ∈ insertDistinct p paths, q.components = p.components := by
  fun_induction insertDistinct p paths with
  | case1 => exact ⟨p, List.mem_singleton_self p, rfl⟩
  | case2 first rest hsame => exact ⟨first, List.mem_cons_self, hsame.symm⟩
  | case3 => exact ⟨p, List.mem_cons_self, rfl⟩
  | case4 first rest _ _ ih =>
    obtain ⟨q, hq, hsame⟩ := ih
    exact ⟨q, List.mem_cons_of_mem _ hq, hsame⟩

theorem pairwise_insertDistinct {p : Path} {paths : List Path} (h : paths.Pairwise Precedes) :
    (insertDistinct p paths).Pairwise Precedes := by
  fun_induction insertDistinct p paths with
  | case1 => exact List.pairwise_singleton ..
  | case2 => exact h
  | case3 first rest hne hle =>
    refine List.pairwise_cons.mpr ⟨fun r hr => ?_, h⟩
    rcases List.mem_cons.mp hr with rfl | hr
    · exact ⟨hle, hne⟩
    · have hfirst := (List.pairwise_cons.mp h).1 r hr
      exact ⟨leComponents_trans hle hfirst.1, hfirst.ne_of_le hle⟩
  | case4 first rest hne hnot ih =>
    obtain ⟨hfirst, hrest⟩ := List.pairwise_cons.mp h
    have hle : first.le p :=
      (leComponents_total p.components first.components).resolve_left hnot
    refine List.pairwise_cons.mpr ⟨fun r hr => ?_, ih hrest⟩
    rcases mem_of_mem_insertDistinct hr with rfl | hr
    · exact ⟨hle, fun heq => hne heq.symm⟩
    · exact hfirst r hr

/-- A list that has been sorted and cleared of repetitions ascends strictly. -/
theorem pairwise_sortDistinct (paths : List Path) : (sortDistinct paths).Pairwise Precedes := by
  induction paths with
  | nil => exact .nil
  | cons p paths ih => exact pairwise_insertDistinct ih

theorem mem_of_mem_sortDistinct {paths : List Path} {p : Path} (h : p ∈ sortDistinct paths) :
    p ∈ paths := by
  induction paths with
  | nil => exact h
  | cons q paths ih =>
    rcases mem_of_mem_insertDistinct h with rfl | h
    · exact List.mem_cons_self
    · exact List.mem_cons_of_mem _ (ih h)

theorem exists_mem_sortDistinct {paths : List Path} {p : Path} (h : p ∈ paths) :
    ∃ q ∈ sortDistinct paths, q.components = p.components := by
  induction paths with
  | nil => cases h
  | cons r paths ih =>
    rcases List.mem_cons.mp h with rfl | h
    · exact exists_mem_insertDistinct p _
    · obtain ⟨q, hq, hsame⟩ := ih h
      exact ⟨q, mem_insertDistinct_of_mem hq, hsame⟩

/-- Strictly ascending lists in which the same components occur are the same up to the way in which
their paths are written. -/
theorem forall₂_of_pairwise_precedes {paths paths' : List Path} (h : paths.Pairwise Precedes)
    (h' : paths'.Pairwise Precedes)
    (hsame : ∀ cs, cs ∈ paths.map components ↔ cs ∈ paths'.map components) :
    List.Forall₂ (fun p q : Path => p.components = q.components) paths paths' := by
  let before (as bs : List Component) : Prop := leComponents as bs ∧ as ≠ bs
  have : Std.Irrefl before := ⟨fun _ h => h.2 rfl⟩
  have : Std.Antisymm before := ⟨fun _ _ h h' => leComponents_antisymm h.1 h'.1⟩
  have heq : paths.map components = paths'.map components :=
    List.Pairwise.eq_of_mem_iff (r := before) (List.pairwise_map.mpr h)
      (List.pairwise_map.mpr h') hsame
  rw [← List.forall₂_eq_eq_eq, List.forall₂_map_left_iff, List.forall₂_map_right_iff] at heq
  exact heq

/-- Strictly ascending lists with the same paths are the same. -/
theorem eq_of_pairwise_precedes {paths paths' : List Path} (h : paths.Pairwise Precedes)
    (h' : paths'.Pairwise Precedes) (hsame : ∀ p, p ∈ paths ↔ p ∈ paths') : paths = paths' := by
  have : Std.Irrefl Precedes := ⟨fun _ h => h.2 rfl⟩
  have : Std.Antisymm Precedes := ⟨fun _ _ h h' => absurd (leComponents_antisymm h.1 h'.1) h.2⟩
  exact List.Pairwise.eq_of_mem_iff h h' hsame

end Stencil.Path
