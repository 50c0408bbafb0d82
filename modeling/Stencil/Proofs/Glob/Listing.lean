import Stencil.Glob.Expand
import Stencil.Proofs.Files.PathOrder
import Stencil.Proofs.Files.Walking
import Stencil.Proofs.Outcome

/-! Lists of the files that patterns stand for. -/

namespace Stencil.Glob

/-- A pattern below a directory can be read, and so can all directories in which it looks for
names. -/
def IsReadable (d : Disk) (dir : Path) (pattern : String) : Prop :=
  ∃ paths, expand d (Path.join ⟨escape dir.text⟩ ⟨pattern⟩) = .ok paths

/-- The paths that a pattern below a directory stands for; none if it fails. -/
def matched (d : Disk) (dir : Path) (pattern : String) : List Path :=
  match expand d (Path.join ⟨escape dir.text⟩ ⟨pattern⟩) with
  | .ok paths => paths
  | .error _ => []

/-- A list of the files that patterns stand for: strictly ascending, of files that some pattern
stands for, and with every such file in it. -/
structure Lists (d : Disk) (dir : Path) (patterns : List String) (paths : List Path) : Prop where
  ascends : paths.Pairwise Path.Precedes
  sound : ∀ p ∈ paths, d.isFile p ∧ ∃ pattern ∈ patterns, p ∈ matched d dir pattern
  complete : ∀ pattern ∈ patterns, ∀ p ∈ matched d dir pattern, d.isFile p →
    ∃ q ∈ paths, q.components = p.components

theorem IsReadable.expand_eq {d : Disk} {dir : Path} {pattern : String}
    (h : IsReadable d dir pattern) :
    expand d (Path.join ⟨escape dir.text⟩ ⟨pattern⟩) = .ok (matched d dir pattern) := by
  obtain ⟨paths, hpaths⟩ := h
  rw [matched, hpaths]

/-- What is given for patterns is a list of the files that they stand for. -/
theorem lists_of_files {d : Disk} {dir : Path} {patterns : List String} {paths : List Path}
    (h : files d dir patterns = .ok paths) : Lists d dir patterns paths := by
  obtain ⟨found, hfound, hpaths⟩ := Outcome.bind_eq_ok.mp h
  have hmatched : found = patterns.map (matched d dir) := by
    refine (List.map_id found).symm.trans (Outcome.map_eq_of_mapM (fun p ps hps => ?_) hfound)
    rw [matched, hps, id]
  have hmem (p : Path) : p ∈ found.flatten.filter d.isFile ↔
      (∃ pattern ∈ patterns, p ∈ matched d dir pattern) ∧ d.isFile p := by
    rw [List.mem_filter, hmatched, ← List.flatMap_def, List.mem_flatMap]
  rw [Outcome.pure_eq_ok.mp hpaths]
  refine ⟨Path.pairwise_sortDistinct _, ?_, ?_⟩
  · intro p hp
    exact ((hmem p).mp (Path.mem_of_mem_sortDistinct hp)).symm
  · intro pattern hpattern p hp hfile
    exact Path.exists_mem_sortDistinct ((hmem p).mpr ⟨⟨pattern, hpattern, hp⟩, hfile⟩)

/-- Patterns are expanded together if each of them is. -/
theorem exists_files {d : Disk} {dir : Path} {patterns : List String}
    (h : ∀ p ∈ patterns, IsReadable d dir p) : ∃ paths, files d dir patterns = .ok paths := by
  obtain ⟨found, hfound⟩ := Outcome.exists_mapM_eq_ok h
  exact ⟨_, Outcome.bind_eq_ok.mpr ⟨found, hfound, rfl⟩⟩

theorem isReadable_of_files {d : Disk} {dir : Path} {patterns : List String} {paths : List Path}
    (h : files d dir patterns = .ok paths) : ∀ p ∈ patterns, IsReadable d dir p := by
  intro p hp
  obtain ⟨found, hfound, -⟩ := Outcome.bind_eq_ok.mp h
  obtain ⟨ps, -, hps⟩ := Outcome.exists_of_mem_left (Outcome.mapM_eq_ok.mp hfound) hp
  exact ⟨ps, hps⟩

theorem exists_of_files_eq_error {d : Disk} {dir : Path} {patterns : List String} {err : Error}
    (h : files d dir patterns = .error err) :
    ∃ p ∈ patterns, expand d (Path.join ⟨escape dir.text⟩ ⟨p⟩) = .error err := by
  rcases Outcome.bind_eq_error.mp h with h | ⟨_, _, h⟩
  · exact Outcome.exists_of_mapM_eq_error h
  · cases h

/-- Two paths of one file, with the same components. -/
def SameFile (d : Disk) (p q : Path) : Prop :=
  p.components = q.components ∧ d.isFile p ∧ d.isFile q

/-- The same set of patterns stands for the same files. -/
theorem Lists.sameFiles {d : Disk} {dir : Path} {patterns patterns' : List String}
    {paths paths' : List Path} (h : Lists d dir patterns paths)
    (h' : Lists d dir patterns' paths') (hsame : ∀ p, p ∈ patterns ↔ p ∈ patterns') :
    List.Forall₂ (SameFile d) paths paths' := by
  have hsub {patterns patterns' : List String} {paths paths' : List Path}
      (h : Lists d dir patterns paths) (h' : Lists d dir patterns' paths')
      (hsame : ∀ p ∈ patterns, p ∈ patterns') {cs : List Path.Component}
      (hcs : cs ∈ paths.map Path.components) : cs ∈ paths'.map Path.components := by
    obtain ⟨p, hp, rfl⟩ := List.mem_map.mp hcs
    obtain ⟨hfile, pattern, hpattern, hmatched⟩ := h.sound p hp
    obtain ⟨q, hq, hcomponents⟩ := h'.complete pattern (hsame _ hpattern) p hmatched hfile
    exact List.mem_map.mpr ⟨q, hq, hcomponents⟩
  have hpaths := Path.forall₂_of_pairwise_precedes h.ascends h'.ascends fun cs =>
    ⟨hsub h h' fun p => (hsame p).mp, hsub h' h fun p => (hsame p).mpr⟩
  rw [List.forall₂_iff_zip] at hpaths ⊢
  refine ⟨hpaths.1, fun hpq => ⟨hpaths.2 hpq, ?_⟩⟩
  obtain ⟨hp, hq⟩ := List.of_mem_zip hpq
  exact ⟨(h.sound _ hp).1, (h'.sound _ hq).1⟩

theorem SameFile.stem_eq {d : Disk} {p q : Path} (h : SameFile d p q) : p.stem = q.stem := by
  simp only [Path.stem, Path.fileName?, h.1]

theorem SameFile.readText_eq {d : Disk} {p q : Path} (h : SameFile d p q) :
    d.readText p = d.readText q :=
  Disk.readText_congr h.1 h.2.1 h.2.2

end Stencil.Glob
