import Mathlib.Data.List.Perm.Basic
import Stencil.Augmentation.Index
import Stencil.Proofs.Lookup

/-! An index of augmentations as a view of what was inserted into it.

A history is a list of augmentations with their files, in the order in which they were inserted.
Under each key the index has the part of the history with that key, in order (`get_ofList`). For a
document the parts with its full names are applied, one after the other; the full names differ, so
that each augmentation of the history that is for the document has its turn once
(`forDocument_perm`). -/

namespace Stencil.Augmentation

/-- Applies augmentations one after another, and collects the reports. -/
def applyAll : List Augmentation → Document → Document × List Record
  | [], d => (d, [])
  | a :: rest, d =>
    let (d, log) := a.applyTo d
    let (d, later) := applyAll rest d
    (d, log ++ later)

namespace Index

/-- The augmentations of a history that have a key, each with that key as its full name. -/
def withKey (history : List (Path × Augmentation)) (key : String) : List Augmentation :=
  (history.filter fun h => keyOf h.1 h.2 = key).map fun h => { h.2 with fqn := some key }

/-- The augmentations of a history for a document: those for its name, then those for its name
within its namespace. -/
def forDocument (history : List (Path × Augmentation)) (name : String) (d : Document) :
    List Augmentation :=
  withKey history name ++
    d.nameSpace.toList.flatMap fun space => withKey history (space ++ "." ++ name)

/-- An augmentation of a history as it is kept. -/
def kept (h : Path × Augmentation) : Augmentation := { h.2 with fqn := some (keyOf h.1 h.2) }

/-- Whether a key is a full name of a document: its name, or its name within its namespace. -/
def IsFullName (name : String) (d : Document) (key : String) : Prop :=
  key = name ∨ d.nameSpace.map (· ++ "." ++ name) = some key

instance (name : String) (d : Document) (key : String) : Decidable (IsFullName name d key) :=
  inferInstanceAs (Decidable (_ ∨ _))

/-! ### One insertion -/

theorem lookup_addTo (key : String) (a : Augmentation) (groups : List (String × List Augmentation))
    (k : String) :
    ((addTo key a groups).lookup k).getD [] =
      (groups.lookup k).getD [] ++ if key = k then [a] else [] := by
  fun_induction addTo key a groups <;> grind [lookup_cons_eq]

theorem length_addTo (key : String) (a : Augmentation)
    (groups : List (String × List Augmentation)) :
    ((addTo key a groups).flatMap (·.2)).length = (groups.flatMap (·.2)).length + 1 := by
  fun_induction addTo key a groups with
  | case1 => rfl
  | case2 group rest => simp; omega
  | case3 k group rest _ ih => simp only [List.flatMap_cons, List.length_append, ih]; omega

theorem get_insert (index : Index) (path : Path) (a : Augmentation) (key : String) :
    (index.insert path a).get key = index.get key ++ withKey [(path, a)] key := by
  rw [get, insert, lookup_addTo, withKey]
  by_cases h : keyOf path a = key <;> simp [h, get]

theorem size_insert (index : Index) (path : Path) (a : Augmentation) :
    (index.insert path a).size = index.size + 1 :=
  length_addTo ..

/-! ### A whole history -/

theorem get_foldl_insert : ∀ (history : List (Path × Augmentation)) (index : Index) (key : String),
    (history.foldl (fun index h => index.insert h.1 h.2) index).get key =
      index.get key ++ withKey history key
  | [], index, key => by simp [withKey]
  | h :: history, index, key => by
    rw [List.foldl_cons, get_foldl_insert history, get_insert, List.append_assoc]
    simp only [withKey, ← List.map_append, ← List.filter_append, List.singleton_append]

theorem size_foldl_insert : ∀ (history : List (Path × Augmentation)) (index : Index),
    (history.foldl (fun index h => index.insert h.1 h.2) index).size = index.size + history.length
  | [], _ => rfl
  | h :: history, index => by
    rw [List.foldl_cons, size_foldl_insert history, size_insert, List.length_cons]
    omega

/-- Under a key stands the part of the history with that key. -/
theorem get_ofList (history : List (Path × Augmentation)) (key : String) :
    (ofList history).get key = withKey history key := by
  rw [ofList, get_foldl_insert]
  rfl

theorem size_ofList (history : List (Path × Augmentation)) :
    (ofList history).size = history.length := by
  rw [ofList, size_foldl_insert]
  exact Nat.zero_add _

/-- No group is empty, so that an index without augmentations has no groups. -/
theorem isEmpty_iff (index : Index) : index.isEmpty = true ↔ index.size = 0 := by
  rw [isEmpty, List.isEmpty_iff, size, List.length_eq_zero_iff, List.flatMap_eq_nil_iff]
  constructor
  · intro hgroups group hgroup
    rw [hgroups] at hgroup
    cases hgroup
  · intro hnone
    rw [List.eq_nil_iff_forall_not_mem]
    exact fun group hgroup => index.inhabited group hgroup (hnone group hgroup)

/-! ### Application -/

/-- The full names of a document differ. -/
theorem qualified_ne (space name : String) : space ++ "." ++ name ≠ name := by
  intro h
  have hlength := congrArg String.length h
  simp only [String.length_append] at hlength
  have hdot : ".".length = 1 := rfl
  omega

theorem matching_ofList (history : List (Path × Augmentation)) (name : String) (d : Document) :
    (ofList history).matching name d = forDocument history name d := by
  simp only [matching, keysFor, forDocument, List.flatMap_cons, List.flatMap_map, get_ofList]

theorem withKey_eq_map_kept (history : List (Path × Augmentation)) (key : String) :
    withKey history key = (history.filter fun h => keyOf h.1 h.2 = key).map kept := by
  refine List.map_congr_left fun h hh => ?_
  have hkey : keyOf h.1 h.2 = key := by simpa using (List.mem_filter.mp hh).2
  rw [kept, hkey]

/-- The parts of a history with two keys together are the part with one key or the other. -/
theorem withKey_append_perm (history : List (Path × Augmentation)) {key key' : String}
    (hne : key' ≠ key) : (withKey history key ++ withKey history key').Perm
      ((history.filter fun h => keyOf h.1 h.2 = key ∨ keyOf h.1 h.2 = key').map kept) := by
  -- what has either key splits into what has the first one and what has not
  have hsplit := List.filter_append_perm (fun h => keyOf h.1 h.2 = key)
    (history.filter fun h => keyOf h.1 h.2 = key ∨ keyOf h.1 h.2 = key')
  have hfirst : ∀ h ∈ history, (decide (keyOf h.1 h.2 = key) &&
      decide (keyOf h.1 h.2 = key ∨ keyOf h.1 h.2 = key')) = decide (keyOf h.1 h.2 = key) := by
    intro h _
    by_cases hkey : keyOf h.1 h.2 = key <;> simp [hkey]
  have hsecond : ∀ h ∈ history, (!decide (keyOf h.1 h.2 = key) &&
      decide (keyOf h.1 h.2 = key ∨ keyOf h.1 h.2 = key')) = decide (keyOf h.1 h.2 = key') := by
    intro h _
    by_cases hkey : keyOf h.1 h.2 = key
    · simp [hkey, hne.symm]
    · simp [hkey]
  rw [List.filter_filter, List.filter_filter, List.filter_congr hfirst,
    List.filter_congr hsecond] at hsplit
  rw [withKey_eq_map_kept, withKey_eq_map_kept, ← List.map_append]
  exact hsplit.map kept

/-- The augmentations for a document are those of the history with a full name of it, each once. -/
theorem forDocument_perm (history : List (Path × Augmentation)) (name : String) (d : Document) :
    (forDocument history name d).Perm
      ((history.filter fun h => IsFullName name d (keyOf h.1 h.2)).map kept) := by
  cases hspace : d.nameSpace with
  | none =>
    have hfull : ∀ key, IsFullName name d key ↔ key = name := by
      simp [IsFullName, hspace]
    simp only [forDocument, hspace, hfull, Option.toList_none, List.flatMap_nil, List.append_nil,
      withKey_eq_map_kept]
    exact .refl _
  | some space =>
    have hfull : ∀ key, IsFullName name d key ↔ key = name ∨ key = space ++ "." ++ name := by
      simp [IsFullName, hspace, eq_comm]
    simp only [forDocument, hspace, hfull, Option.toList_some, List.flatMap_singleton]
    exact withKey_append_perm history (qualified_ne space name)

theorem foldl_applyTo : ∀ (augmentations : List Augmentation) (d : Document) (n : Nat)
    (log : List Record),
    augmentations.foldl (fun s a => ((a.applyTo s.1).1, s.2.1 + 1, s.2.2 ++ (a.applyTo s.1).2))
      (d, n, log) =
      ((applyAll augmentations d).1, n + augmentations.length,
        log ++ (applyAll augmentations d).2)
  | [], d, n, log => by simp [applyAll]
  | a :: rest, d, n, log => by
    rw [List.foldl_cons, foldl_applyTo rest]
    simp only [applyAll, List.length_cons, List.append_assoc, Prod.mk.injEq, true_and, and_true]
    omega

theorem augment_eq (index : Index) (name : String) (d : Document) :
    index.augment name d = ((applyAll (index.matching name d) d).1, (index.matching name d).length,
      (applyAll (index.matching name d) d).2) := by
  have hfold := foldl_applyTo (index.matching name d) d 0 []
  rwa [Nat.zero_add, List.nil_append] at hfold

/-- After any history of insertions, an index has under each key the augmentations inserted with it,
in order, and counts all of them. For any document it applies those for its name and then those for
its name within its namespace, which are the augmentations of the history with a full name of the
document, each once, and tells how many they are. -/
theorem index_follows_history (history : List (Path × Augmentation)) :
    (∀ key, (ofList history).get key = withKey history key) ∧
    (ofList history).size = history.length ∧
    ((ofList history).isEmpty = true ↔ (ofList history).size = 0) ∧
    ∀ (name : String) (d : Document),
      (ofList history).augment name d =
        ((applyAll (forDocument history name d) d).1, (forDocument history name d).length,
          (applyAll (forDocument history name d) d).2) ∧
      (forDocument history name d).Perm
        ((history.filter fun h => IsFullName name d (keyOf h.1 h.2)).map kept) := by
  refine ⟨get_ofList history, size_ofList history, isEmpty_iff _, fun name d => ⟨?_, ?_⟩⟩
  · rw [augment_eq, matching_ofList]
  · exact forDocument_perm history name d

end Index

end Stencil.Augmentation
