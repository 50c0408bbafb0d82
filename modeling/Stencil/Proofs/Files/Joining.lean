import Stencil.Proofs.Files.Parent
import Stencil.Proofs.Files.Writing

/-! Paths that are joined to each other.

The pieces of a joined path are those of the one in front, but for the empty piece behind a slash at
its end, and then those of the other one. -/

namespace Stencil.Path

/-- The pieces that a path has in front of what is joined to it. -/
def front (p : Path) : List String :=
  if p.text.isEmpty then []
  else if Disk.endsInSlash p then p.pieces.dropLast
  else p.pieces

/-- The components of a path, without the dot that a relative path may start with. -/
def trail (p : Path) : List Component :=
  (if p.isAbsolute then [.root] else []) ++ p.segments.filterMap component?

/-! ### Paths without a slash -/

theorem pieces_of_slashless {s : String} (h : '/' ∉ s.toList) : pieces ⟨s⟩ = [s] := by
  rw [pieces, List.splitOn_eq_singleton h, List.map_singleton, String.ofList_toList]

theorem segments_of_slashless {s : String} (h : '/' ∉ s.toList) :
    segments ⟨s⟩ = if s = "" then [] else [s] := by
  rw [segments, pieces_of_slashless h]
  split <;> simp_all

theorem isAbsolute_of_slashless {s : String} (h : '/' ∉ s.toList) :
    (Path.mk s).isAbsolute = false := by
  rw [isAbsolute, beq_eq_false_iff_ne]
  exact fun hhead => h (List.mem_of_mem_head? hhead)

theorem endsInSlash_of_slashless {s t : String} (h : '/' ∉ s.toList) (hne : s ≠ "") :
    Disk.endsInSlash ⟨t ++ s⟩ = false := by
  rw [Disk.endsInSlash, beq_eq_false_iff_ne, String.toList_append,
    List.getLast?_append_of_ne_nil _ (mt String.toList_eq_nil_iff.mp hne)]
  exact fun hlast => h (List.mem_of_mem_getLast? hlast)

/-! ### Pieces, segments and components of a joined path -/

theorem pieces_append_slash (s t : String) :
    pieces ⟨s ++ "/" ++ t⟩ = pieces ⟨s⟩ ++ pieces ⟨t⟩ := by
  have hlist : (s ++ "/" ++ t).toList = s.toList ++ '/' :: t.toList := by simp
  rw [pieces, hlist, List.splitOn_append_cons_self, List.map_append]
  rfl

/-- A path with a slash at its end is the path in front of it and the slash. -/
theorem exists_text_eq {p : Path} (h : Disk.endsInSlash p) :
    ∃ s, p.text = s ++ "/" ∧ p.front = pieces ⟨s⟩ ∧ p.pieces = p.front ++ [""] := by
  obtain ⟨init, hinit⟩ := List.getLast?_eq_some_iff.mp (beq_iff_eq.mp h)
  have htext : p.text = String.ofList init ++ "/" := by
    rw [← String.toList_inj, hinit, String.toList_append, String.toList_ofList]
    rfl
  have hpieces : p.pieces = pieces ⟨.ofList init⟩ ++ [""] := by
    have happend := pieces_append_slash (.ofList init) ""
    rw [String.append_empty, ← htext] at happend
    exact happend
  have hfront : p.front = pieces ⟨.ofList init⟩ := by
    have hne : p.text.isEmpty = false := by rw [htext]; simp
    rw [front, hne, if_neg Bool.false_ne_true, if_pos h, hpieces, List.dropLast_concat]
  exact ⟨_, htext, hfront, hfront ▸ hpieces⟩

theorem head?_front {p : Path} (h : p.text ≠ "") : p.front.head? = p.pieces.head? := by
  have hempty : ¬ p.text.isEmpty = true := by simpa using h
  by_cases hslash : Disk.endsInSlash p
  · obtain ⟨s, _, hfront, hpieces⟩ := exists_text_eq hslash
    rw [hpieces, List.head?_append_of_ne_nil _ (hfront ▸ pieces_ne_nil ⟨s⟩)]
  · rw [front, if_neg hempty, if_neg hslash]

theorem pieces_join (p : Path) {q : Path} (h : q.isAbsolute = false) :
    (p.join q).pieces = p.front ++ q.pieces := by
  rw [join, h, Bool.false_or]
  split
  · rename_i hempty
    rw [front, if_pos hempty, List.nil_append]
  · rename_i hne
    split
    · rename_i hslash
      obtain ⟨s, htext, hfront, _⟩ := exists_text_eq (p := p) hslash
      rw [htext, hfront]
      exact pieces_append_slash s q.text
    · rename_i hslash
      have hslash : ¬ Disk.endsInSlash p := hslash
      rw [front, if_neg hne, if_neg hslash]
      exact pieces_append_slash p.text q.text

theorem filter_front (p : Path) : p.front.filter (· ≠ "") = p.segments := by
  by_cases hslash : Disk.endsInSlash p
  · obtain ⟨_, _, _, hpieces⟩ := exists_text_eq hslash
    rw [segments, hpieces, List.filter_append]
    simp
  · unfold front
    split
    · rename_i hempty
      rw [segments_of_isEmpty hempty]
      rfl
    · rfl

theorem segments_join {p q : Path} (h : q.isAbsolute = false) :
    (p.join q).segments = p.segments ++ q.segments := by
  rw [segments, pieces_join p h, List.filter_append, filter_front]
  rfl

theorem isAbsolute_join {p q : Path} (h : q.isAbsolute = false) :
    (p.join q).isAbsolute = p.isAbsolute := by
  obtain ⟨s⟩ := p
  rw [join, h, Bool.false_or]
  split
  · rename_i hempty
    rw [String.isEmpty_iff] at hempty
    subst hempty
    rw [h]
    rfl
  · rename_i hne
    have hne : s.toList ≠ [] := by simpa using hne
    split <;> simp [isAbsolute, List.head?_append_of_ne_nil _ hne]

theorem trail_join {p q : Path} (h : q.isAbsolute = false) :
    (p.join q).trail = p.trail ++ q.segments.filterMap component? := by
  rw [trail, segments_join h, isAbsolute_join h, List.filterMap_append, ← List.append_assoc]
  rfl

/-- A path that starts with a dot has it as a component in front. -/
theorem components_eq (p : Path) :
    p.components = (if p.pieces.head? = some "." then [.here] else []) ++ p.trail := by
  unfold components trail
  split
  · rename_i habsolute
    obtain ⟨_, _, hpieces⟩ := isAbsolute_iff.mp habsolute
    simp [hpieces]
  · split
    · rename_i hpieces
      simp [segments, hpieces, component?]
    · rename_i hpieces
      have hhead : p.pieces.head? ≠ some "." := fun hhead => by
        obtain ⟨rest, hrest⟩ := List.head?_eq_some_iff.mp hhead
        exact hpieces rest hrest
      rw [if_neg hhead]
      rfl

theorem components_eq_trail {p : Path} (h : p.pieces.head? ≠ some ".") :
    p.components = p.trail := by
  rw [components_eq, if_neg h, List.nil_append]

/-- The pieces of an absolute path start with an empty one, and no slash at the end takes it away.
-/
theorem exists_front_eq {p : Path} (h : p.isAbsolute) : ∃ k, p.front = "" :: k := by
  obtain ⟨k, hne, hpieces⟩ := isAbsolute_iff.mp h
  have htext : p.text.isEmpty = false := by
    obtain ⟨s⟩ := p
    cases hs : s.isEmpty with
    | false => rfl
    | true =>
      rw [String.isEmpty_iff.mp hs] at h
      cases h
  rw [front, htext, if_neg Bool.false_ne_true, hpieces]
  split
  · exact ⟨k.dropLast, List.dropLast_cons_of_ne_nil hne⟩
  · exact ⟨k, rfl⟩

theorem endsInSlash_join {dir : Path} {p : String} (hrelative : (Path.mk p).isAbsolute = false)
    (hne : p ≠ "") : Disk.endsInSlash (dir.join ⟨p⟩) = Disk.endsInSlash ⟨p⟩ := by
  have hlast (s : String) : Disk.endsInSlash ⟨s ++ p⟩ = Disk.endsInSlash ⟨p⟩ := by
    rw [Disk.endsInSlash, Disk.endsInSlash, String.toList_append,
      List.getLast?_append_of_ne_nil _ (mt String.toList_eq_nil_iff.mp hne)]
  rw [join, hrelative, Bool.false_or]
  split
  · rfl
  · split
    · exact hlast _
    · exact hlast _

theorem endsInSlash_join_empty {p : Path} (hne : p.text ≠ "") :
    Disk.endsInSlash (p.join ⟨""⟩) = true := by
  have hempty : ¬ p.text.isEmpty = true := by simpa using hne
  rw [join, show (Path.mk "").isAbsolute = false from rfl, Bool.false_or, if_neg hempty]
  split
  · rename_i hslash
    rw [String.append_empty]
    exact hslash
  · rw [String.append_empty, Disk.endsInSlash]
    simp

end Stencil.Path
