import Stencil.Proofs.Files.Writing

/-! Where paths lead, as far as their text alone tells.

What is on a disk decides whether a path leads somewhere. Where it leads is decided by its segments,
and even by its components: two paths with the same components, if both lead somewhere, lead to the
same place. -/

namespace Stencil

namespace Path

/-- Where a segment leads from a location, if it leads anywhere. -/
def advance (location : List String) (segment : String) : List String :=
  if segment = "." then location
  else if segment = ".." then location.dropLast
  else location ++ [segment]

/-- Where a component leads from a location, if it leads anywhere. -/
def follow (location : List String) : Component → List String
  | .root => []
  | .here => location
  | .up => location.dropLast
  | .name s => location ++ [s]

theorem advance_eq (location : List String) (segment : String) :
    advance location segment = ((component? segment).map (follow location)).getD location := by
  unfold advance component?
  split_ifs with hhere hup
  · subst hhere; rfl
  · subst hup; rfl
  · split <;> simp_all [follow]

theorem foldl_advance (segments : List String) (location : List String) :
    segments.foldl advance location = (segments.filterMap component?).foldl follow location := by
  induction segments generalizing location with
  | nil => rfl
  | cons segment segments ih =>
    rw [List.foldl_cons, ih, advance_eq, List.filterMap_cons]
    cases component? segment <;> rfl

/-- To follow the segments of a path from its start is to follow its components. -/
theorem foldl_advance_segments (p : Path) (location : List String) :
    p.segments.foldl advance (if p.isAbsolute then [] else location) =
      p.components.foldl follow location := by
  rw [foldl_advance]
  unfold components
  split
  · rfl
  · split
    · rename_i hpieces
      simp [segments, hpieces, follow, component?]
    · rfl

end Path

namespace Disk

open Stencil.Path

theorem eq_advance_of_step {d : Disk} {l l' : List String} {segment : String}
    (h : d.step l segment = .ok l') : l' = advance l segment := by
  obtain ⟨_, h⟩ := step_eq_ok.mp h
  unfold advance
  split_ifs at h ⊢
  · exact h
  · exact h
  · exact h.2.2

theorem eq_foldl_advance {d : Disk} {segments : List String} {l l' : List String}
    (h : segments.foldlM d.step l = .ok l') : l' = segments.foldl advance l := by
  induction segments generalizing l with
  | nil =>
    cases h
    rfl
  | cons segment segments ih =>
    rw [List.foldlM_cons, Outcome.bind_eq_ok] at h
    obtain ⟨m, hstep, hrest⟩ := h
    rw [List.foldl_cons, ← eq_advance_of_step hstep]
    exact ih hrest

/-- Where a path leads is where its components lead. -/
theorem eq_foldl_follow_of_locate {d : Disk} {p : Path} {l : List String}
    (h : d.locate p = .ok l) : l = p.components.foldl follow d.here := by
  obtain ⟨_, _, hfold, _⟩ := locate_eq_ok.mp h
  rw [eq_foldl_advance hfold, ← foldl_advance_segments]
  rfl

/-- The system takes a path without zero characters and of less than 4096 bytes. -/
theorem checkPath_eq_ok {p : Path} :
    checkPath p = .ok () ↔ '\x00' ∉ p.text.toList ∧ p.text.utf8ByteSize < 4096 := by
  unfold checkPath
  split_ifs with hnul hlong
  · simpa using fun h => absurd (by simpa using hnul) h
  · simpa using fun _ => hlong
  · simpa using ⟨by simpa using hnul, Nat.lt_of_not_le hlong⟩

theorem entry_eq_ok {d : Disk} {p : Path} {e : Entry} :
    d.entry p = .ok e ↔ ∃ l, d.locate p = .ok l ∧ d.root.at? l = some e := by
  unfold entry
  rw [Outcome.bind_eq_ok]
  refine exists_congr fun l => and_congr_right fun _ => ?_
  cases d.root.at? l with
  | none => exact ⟨nofun, nofun⟩
  | some e' => rw [Outcome.pure_eq_ok, Option.some.injEq, eq_comm]

/-- Two paths with the same components lead to the same, if both lead somewhere. -/
theorem entry_congr {d : Disk} {p q : Path} (h : p.components = q.components) {e e' : Entry}
    (hp : d.entry p = .ok e) (hq : d.entry q = .ok e') : e = e' := by
  obtain ⟨l, hl, he⟩ := entry_eq_ok.mp hp
  obtain ⟨l', hl', he'⟩ := entry_eq_ok.mp hq
  have hsame : l = l' := by
    rw [eq_foldl_follow_of_locate hl, eq_foldl_follow_of_locate hl', h]
  rw [hsame, he'] at he
  exact (Option.some.inj he).symm

theorem isFile_iff {d : Disk} {p : Path} :
    d.isFile p ↔ ∃ bytes, d.entry p = .ok (.file bytes) := by
  unfold isFile
  split
  · rename_i bytes h
    simp [h]
  · rename_i h
    simpa using h

/-- Two paths of files with the same components have the same text. -/
theorem readText_congr {d : Disk} {p q : Path} (h : p.components = q.components)
    (hp : d.isFile p) (hq : d.isFile q) : d.readText p = d.readText q := by
  obtain ⟨bytes, hp⟩ := isFile_iff.mp hp
  obtain ⟨bytes', hq⟩ := isFile_iff.mp hq
  cases entry_congr h hp hq
  rw [readText, readText, hp, hq]

end Disk

end Stencil
