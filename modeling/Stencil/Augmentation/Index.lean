import Stencil.Augmentation.Basic
import Stencil.Files.Path

/-! Augmentations by the full name of the document that they are for.

An augmentation that names no document is for the one that is called like its file. -/

namespace Stencil.Augmentation

/-- Augmentations grouped by full name, each group in the order of insertion. No full name has two
groups, and no group is empty. -/
structure Index where
  groups : List (String × List Augmentation) := []
  distinct : (groups.map (·.1)).Nodup := by simp
  inhabited : ∀ group ∈ groups, group.2 ≠ [] := by simp

namespace Index

/-- The full name under which an augmentation from a file is kept. -/
def keyOf (path : Path) (a : Augmentation) : String := a.fqn.getD path.stem

/-- Adds an augmentation at the end of the group of a key. -/
def addTo (key : String) (a : Augmentation) :
    List (String × List Augmentation) → List (String × List Augmentation)
  | [] => [(key, [a])]
  | (k, group) :: rest =>
    if k = key then (k, group ++ [a]) :: rest else (k, group) :: addTo key a rest

theorem mem_keys_addTo {key k : String} {a : Augmentation}
    {groups : List (String × List Augmentation)} :
    k ∈ (addTo key a groups).map (·.1) ↔ k = key ∨ k ∈ groups.map (·.1) := by
  fun_induction addTo key a groups <;> grind

theorem nodup_keys_addTo (key : String) (a : Augmentation)
    {groups : List (String × List Augmentation)} (h : (groups.map (·.1)).Nodup) :
    ((addTo key a groups).map (·.1)).Nodup := by
  fun_induction addTo key a groups with
  | case1 => simp
  | case2 group rest => exact h
  | case3 k group rest hne ih =>
    rw [List.map_cons, List.nodup_cons] at h ⊢
    refine ⟨fun hk => ?_, ih h.2⟩
    rcases mem_keys_addTo.mp hk with hkey | hrest
    · exact hne hkey
    · exact h.1 hrest

theorem ne_nil_of_mem_addTo {key : String} {a : Augmentation}
    {groups : List (String × List Augmentation)} (h : ∀ group ∈ groups, group.2 ≠ []) :
    ∀ group ∈ addTo key a groups, group.2 ≠ [] := by
  fun_induction addTo key a groups with
  | case1 => simp
  | case2 group rest =>
    exact List.forall_mem_cons.mpr ⟨by simp, (List.forall_mem_cons.mp h).2⟩
  | case3 k group rest _ ih =>
    obtain ⟨hgroup, hrest⟩ := List.forall_mem_cons.mp h
    exact List.forall_mem_cons.mpr ⟨hgroup, ih hrest⟩

/-- Adds an augmentation from a file. -/
def insert (index : Index) (path : Path) (a : Augmentation) : Index :=
  let key := keyOf path a
  { groups := addTo key { a with fqn := some key } index.groups
    distinct := nodup_keys_addTo _ _ index.distinct
    inhabited := ne_nil_of_mem_addTo index.inhabited }

/-- The index of a list of augmentations with their files. -/
def ofList (documents : List (Path × Augmentation)) : Index :=
  documents.foldl (fun index d => index.insert d.1 d.2) {}

/-- The augmentations of a full name. -/
def get (index : Index) (key : String) : List Augmentation := (index.groups.lookup key).getD []

/-- The number of augmentations. -/
def size (index : Index) : Nat := (index.groups.flatMap (·.2)).length

/-- Whether there are no augmentations. -/
def isEmpty (index : Index) : Bool := index.groups.isEmpty

/-- The full names of a document: its name, and its name within its namespace. -/
def keysFor (name : String) (d : Document) : List String :=
  name :: d.nameSpace.toList.map (· ++ "." ++ name)

/-- The augmentations for a document, in the order in which they are applied. -/
def matching (index : Index) (name : String) (d : Document) : List Augmentation :=
  (keysFor name d).flatMap index.get

/-- Applies all augmentations for a document. Returns how many there were, and the reports. -/
def augment (index : Index) (name : String) (d : Document) : Document × Nat × List Record :=
  (index.matching name d).foldl
    (fun s a =>
      let (d, log) := a.applyTo s.1
      (d, s.2.1 + 1, s.2.2 ++ log))
    (d, 0, [])

end Index

end Stencil.Augmentation
