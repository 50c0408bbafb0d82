import Mathlib.Data.List.Basic
import Stencil.Files.Disk

/-! The directory that the path of a file names.

The parent of a path is found by dropping pieces from the end of its text. If the path ends in a
name, as the path of a file does, its segments are those of its parent and then that name, but for
dots between them. -/

namespace Stencil

namespace Path

/-! ### Pieces -/

theorem slash_notMem_of_mem_splitOn {l s : List Char} (h : s ∈ l.splitOn '/') : '/' ∉ s := by
  induction l generalizing s with
  | nil =>
    rw [List.splitOn_nil, List.mem_singleton] at h
    simp [h]
  | cons c l ih =>
    rw [List.splitOn_cons_eq_if_modifyHead] at h
    split at h
    · rcases List.mem_cons.mp h with rfl | h
      · exact List.not_mem_nil
      · exact ih h
    · rename_i hc
      cases hsplit : l.splitOn '/' with
      | nil => exact absurd hsplit (List.splitOn_ne_nil '/' l)
      | cons first rest =>
        simp only [hsplit, List.mem_cons, forall_eq_or_imp] at ih
        rw [hsplit, List.modifyHead_cons, List.mem_cons] at h
        rcases h with rfl | h
        · rw [List.mem_cons, not_or]
          exact ⟨fun heq => hc (by simp [← heq]), ih.1⟩
        · exact ih.2 s h

/-- Splitting at slashes drops nothing but slashes. -/
theorem exists_mem_splitOn {l : List Char} {c : Char} (hc : c ∈ l) (hslash : c ≠ '/') :
    ∃ s ∈ l.splitOn '/', c ∈ s := by
  induction l with
  | nil => cases hc
  | cons a l ih =>
    rw [List.splitOn_cons_eq_if_modifyHead]
    split
    · rename_i ha
      have hl : c ∈ l := (List.mem_cons.mp hc).resolve_left fun h => hslash (h ▸ beq_iff_eq.mp ha)
      obtain ⟨s, hs, hmem⟩ := ih hl
      exact ⟨s, List.mem_cons_of_mem _ hs, hmem⟩
    · cases hsplit : l.splitOn '/' with
      | nil => exact absurd hsplit (List.splitOn_ne_nil '/' l)
      | cons first rest =>
        rw [hsplit] at ih
        rw [List.modifyHead_cons]
        rcases List.mem_cons.mp hc with rfl | hc
        · exact ⟨c :: first, List.mem_cons_self, List.mem_cons_self⟩
        · obtain ⟨s, hs, hmem⟩ := ih hc
          rcases List.mem_cons.mp hs with rfl | hs
          · exact ⟨a :: s, List.mem_cons_self, List.mem_cons_of_mem _ hmem⟩
          · exact ⟨s, List.mem_cons_of_mem _ hs, hmem⟩

/-- Every character of a path but a slash is in one of its segments. -/
theorem exists_mem_segments {p : Path} {c : Char} (hc : c ∈ p.text.toList) (hslash : c ≠ '/') :
    ∃ s ∈ p.segments, c ∈ s.toList := by
  obtain ⟨piece, hpiece, hmem⟩ := exists_mem_splitOn hc hslash
  refine ⟨.ofList piece, ?_, by simpa using hmem⟩
  rw [segments, List.mem_filter, pieces]
  refine ⟨List.mem_map_of_mem hpiece, ?_⟩
  rw [decide_eq_true_eq]
  intro hempty
  have hnil : piece = [] := by simpa using congrArg String.toList hempty
  exact absurd (hnil ▸ hmem) List.not_mem_nil

theorem slash_notMem_of_mem_pieces {p : Path} {s : String} (h : s ∈ p.pieces) :
    '/' ∉ s.toList := by
  obtain ⟨l, hl, rfl⟩ := List.mem_map.mp h
  rw [String.toList_ofList]
  exact slash_notMem_of_mem_splitOn hl

theorem pieces_ne_nil (p : Path) : p.pieces ≠ [] := by
  rw [pieces, Ne, List.map_eq_nil_iff]
  exact List.splitOn_ne_nil '/' _

theorem intercalate_pieces (p : Path) : "/".intercalate p.pieces = p.text := by
  rw [← String.toList_inj, String.toList_intercalate, pieces, List.map_map]
  simp [Function.comp_def, List.intercalate_splitOn]

theorem pieces_intercalate {k : List String} (hne : k ≠ []) (h : ∀ s ∈ k, '/' ∉ s.toList) :
    pieces ⟨"/".intercalate k⟩ = k := by
  have hsplit : (['/'].intercalate (k.map String.toList)).splitOn '/' = k.map String.toList :=
    List.splitOn_intercalate '/' (by simpa using h) (by simpa using hne)
  rw [pieces, String.toList_intercalate, show "/".toList = ['/'] from rfl, hsplit, List.map_map]
  simp [Function.comp_def]

theorem segments_intercalate {k : List String} (h : ∀ s ∈ k, '/' ∉ s.toList) :
    segments ⟨"/".intercalate k⟩ = k.filter (· ≠ "") := by
  cases k with
  | nil => decide
  | cons s k => rw [segments, pieces_intercalate (List.cons_ne_nil s k) h]

theorem segments_slash_append (s : String) : segments ⟨"/" ++ s⟩ = segments ⟨s⟩ := by
  have hlist : ("/" ++ s).toList = '/' :: s.toList := by simp
  simp [segments, pieces, hlist, List.splitOn_cons_eq_if_modifyHead]

/-- A path starts at the root iff it has several pieces and the first one is empty. -/
theorem isAbsolute_iff {p : Path} : p.isAbsolute ↔ ∃ k, k ≠ [] ∧ p.pieces = "" :: k := by
  constructor
  · intro h
    obtain ⟨rest, hrest⟩ := List.head?_eq_some_iff.mp (by simpa [isAbsolute] using h)
    refine ⟨(rest.splitOn '/').map String.ofList, by simp, ?_⟩
    simp [pieces, hrest, List.splitOn_cons_eq_if_modifyHead]
  · rintro ⟨k, hne, hk⟩
    have htext := p.intercalate_pieces
    rw [hk, ← String.toList_inj, String.toList_intercalate, List.map_cons,
      List.intercalate_cons_of_ne_nil (by simpa using hne)] at htext
    rw [isAbsolute, ← htext]
    rfl

/-- The first pieces of a relative path make a relative path. -/
theorem isAbsolute_of_front {p : Path} {k : List String} (hfront : k <+: p.pieces)
    (h : isAbsolute ⟨"/".intercalate k⟩) : p.isAbsolute := by
  cases k with
  | nil => exact absurd h (by decide)
  | cons s k =>
    rw [isAbsolute_iff, pieces_intercalate (List.cons_ne_nil s k)
      fun t ht => slash_notMem_of_mem_pieces (hfront.subset ht)] at h
    obtain ⟨rest, hne, hk⟩ := h
    obtain ⟨more, hmore⟩ := hfront
    exact isAbsolute_iff.mpr ⟨rest ++ more, by simp [hne], by rw [← hmore, hk]; rfl⟩

theorem getLast?_intercalate_concat_empty {k : List String} (hne : k ≠ []) :
    (['/'].intercalate ((k ++ [""]).map String.toList)).getLast? = some '/' := by
  induction k with
  | nil => exact absurd rfl hne
  | cons s k ih =>
    rw [List.cons_append, List.map_cons, List.intercalate_cons_of_ne_nil (by simp)]
    cases k with
    | nil => simp [List.intercalate]
    | cons t k =>
      rw [List.getLast?_append, ih (List.cons_ne_nil t k)]
      rfl

/-- A path whose last piece of several is empty is written with a slash at its end. -/
theorem endsInSlash_of_pieces {p : Path} {k : List String} (hne : k ≠ [])
    (hk : p.pieces = k ++ [""]) : Disk.endsInSlash p := by
  have htext := p.intercalate_pieces
  rw [hk, ← String.toList_inj, String.toList_intercalate] at htext
  rw [Disk.endsInSlash, ← htext]
  exact beq_iff_eq.mpr (getLast?_intercalate_concat_empty hne)

/-- The last segment is the last piece, if the path does not end in a slash. -/
theorem exists_pieces_eq {p : Path} {name : String} (hlast : p.segments.getLast? = some name)
    (hslash : ¬ Disk.endsInSlash p) : ∃ k, p.pieces = k ++ [name] := by
  rcases List.eq_nil_or_concat' p.pieces with hnil | ⟨k, s, hk⟩
  · exact absurd hnil p.pieces_ne_nil
  · by_cases hs : s = ""
    · subst hs
      cases k with
      | nil => simp [segments, hk] at hlast
      | cons t k => exact absurd (endsInSlash_of_pieces (List.cons_ne_nil t k) hk) hslash
    · have hname : s = name := by simpa [segments, hk, hs] using hlast
      exact ⟨k, hname ▸ hk⟩

/-! ### Dropping the last component -/

theorem exists_append_dropSilent (absolute : Bool) (l : List String) :
    ∃ silent, l = silent ++ dropSilent absolute l ∧ ∀ s ∈ silent, s = "" ∨ s = "." := by
  fun_induction dropSilent absolute l with
  | case1 => exact ⟨[], rfl, by simp⟩
  | case2 first h => exact ⟨[first], rfl, by simpa using by grind⟩
  | case3 first h => exact ⟨[], rfl, by simp⟩
  | case4 last rest _ h ih =>
    obtain ⟨silent, heq, hsilent⟩ := ih
    refine ⟨last :: silent, by rw [List.cons_append, ← heq], ?_⟩
    simpa using ⟨by simpa using h, hsilent⟩
  | case5 last rest _ h => exact ⟨[], rfl, by simp⟩

theorem dropSilent_of_name {name : String} (hempty : name ≠ "") (hhere : name ≠ ".")
    (absolute : Bool) (rest : List String) :
    dropSilent absolute (name :: rest) = name :: rest := by
  cases rest <;> simp [dropSilent, hempty, hhere]

/-- What is left of pieces that end in a name: those before it, but for silent ones at their end. -/
theorem exists_dropLastComponent {name : String} (hempty : name ≠ "") (hhere : name ≠ ".")
    (absolute : Bool) (k : List String) : ∃ n,
      k.filter (· ≠ "") = (dropLastComponent absolute (k ++ [name])).filter (· ≠ "") ++
        .replicate n "." ∧ dropLastComponent absolute (k ++ [name]) <+: k := by
  have hdrop :
      dropLastComponent absolute (k ++ [name]) = (dropSilent absolute k.reverse).reverse := by
    rw [dropLastComponent, List.reverse_append, List.reverse_singleton, List.singleton_append,
      dropSilent_of_name hempty hhere, List.tail_cons]
  obtain ⟨silent, heq, hsilent⟩ := exists_append_dropSilent absolute k.reverse
  rw [hdrop]
  generalize (dropSilent absolute k.reverse) = kept at heq ⊢
  obtain rfl : k = kept.reverse ++ silent.reverse := by
    rw [← List.reverse_append, ← heq, List.reverse_reverse]
  refine ⟨(silent.reverse.filter (· ≠ "")).length, ?_, List.prefix_append ..⟩
  rw [List.filter_append]
  congr 1
  refine List.eq_replicate_of_mem fun s hs => ?_
  rw [List.mem_filter, List.mem_reverse] at hs
  exact (hsilent s hs.1).resolve_left (by simpa using hs.2)

theorem component?_of_name {name : String} (hhere : name ≠ ".") (hup : name ≠ "..") :
    component? name = some (.name name) := by
  unfold component?
  split <;> simp_all

theorem getLast?_components {p : Path} {name : String} {k : List String} (hempty : name ≠ "")
    (hhere : name ≠ ".") (hup : name ≠ "..") (hk : p.pieces = k ++ [name]) :
    p.components.getLast? = some (.name name) := by
  have hname := component?_of_name hhere hup
  unfold components
  split
  · simp [segments, hk, hempty, hname, List.getLast?_cons]
  · split
    · rename_i rest hpieces
      rw [hk] at hpieces
      cases k with
      | nil => simp_all
      | cons s k =>
        obtain ⟨_, rfl⟩ := List.cons.inj hpieces
        simp [hempty, hname, List.getLast?_cons]
    · simp [segments, hk, hempty, hname]

theorem parent?_of_name {p : Path} {name : String}
    (h : p.components.getLast? = some (.name name)) :
    p.parent? = some (if p.isAbsolute then
        ⟨"/" ++ "/".intercalate (dropLastComponent true p.pieces.tail)⟩
      else ⟨"/".intercalate (dropLastComponent false p.pieces)⟩) := by
  rw [parent?, h]
  split_ifs <;> rfl

/-- The segments of a path that ends in a name are those of its parent, dots, and the name. -/
theorem exists_parent? {p : Path} {name : String} (hlast : p.segments.getLast? = some name)
    (hhere : name ≠ ".") (hup : name ≠ "..") (hslash : ¬ Disk.endsInSlash p) :
    ∃ q n, p.parent? = some q ∧ q.isAbsolute = p.isAbsolute ∧
      p.segments = q.segments ++ .replicate n "." ++ [name] := by
  obtain ⟨k, hk⟩ := exists_pieces_eq hlast hslash
  have hempty : name ≠ "" := by
    have hmem := List.mem_of_getLast? hlast
    simpa using (List.mem_filter.mp hmem).2
  have hcomponents := getLast?_components hempty hhere hup hk
  have hslashes (s : String) (hs : s ∈ p.pieces) := slash_notMem_of_mem_pieces hs
  rw [parent?_of_name hcomponents]
  cases habsolute : p.isAbsolute with
  | true =>
    -- the first piece is empty and is not among those that the parent is made of
    obtain ⟨tail, hne, htail⟩ := isAbsolute_iff.mp habsolute
    obtain ⟨k, rfl⟩ : ∃ k', tail = k' ++ [name] := by
      cases k with
      | nil => simp_all
      | cons s k => exact ⟨k, (List.cons.inj (htail.symm.trans hk)).2⟩
    obtain ⟨n, hfilter, hfront⟩ := exists_dropLastComponent hempty hhere true k
    refine ⟨_, n, rfl, by simp [isAbsolute], ?_⟩
    rw [if_pos rfl, htail, List.tail_cons, segments_slash_append, segments_intercalate, ← hfilter]
    · simp [segments, htail, hempty]
    · intro s hs
      exact hslashes s (by simp [htail, hfront.subset hs])
  | false =>
    obtain ⟨n, hfilter, hfront⟩ := exists_dropLastComponent hempty hhere false k
    rw [← hk] at hfilter hfront
    have hfront : dropLastComponent false p.pieces <+: p.pieces :=
      hfront.trans (hk ▸ List.prefix_append k [name])
    refine ⟨_, n, rfl, ?_, ?_⟩
    · rw [if_neg Bool.false_ne_true, ← Bool.not_eq_true]
      exact fun h => absurd (isAbsolute_of_front hfront h) (by simp [habsolute])
    · rw [if_neg Bool.false_ne_true, segments_intercalate, ← hfilter]
      · simp [segments, hk, hempty]
      · intro s hs
        exact hslashes s (hfront.subset hs)

end Path

end Stencil
