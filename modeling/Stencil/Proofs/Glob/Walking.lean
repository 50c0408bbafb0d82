import Stencil.Glob.Expand
import Stencil.Proofs.Files.Joining
import Stencil.Proofs.Files.Tree
import Stencil.Proofs.Files.Walking

/-! Walks over a disk.

A walk follows the components of a pattern from the working directory or from the root. It keeps the
path that it has taken, so what is looked up behind this path is one step further on the disk
(`Stands`). -/

namespace Stencil

namespace Glob

open Stencil.Path

/-- The working directory, as a walk starts there. -/
def dot : Path := ⟨"."⟩

theorem segments_dot : dot.segments = ["."] := by decide

/-- The path that a walk has taken to an entry at a location of a disk. It starts with a dot only if
it is the dot. -/
structure Stands (d : Disk) (path : Path) (l : List String) (e : Entry) : Prop where
  written : path.text ≠ ""
  tidy : path = dot ∨ path.pieces.head? ≠ some "."
  leads : path.segments.foldlM d.step (d.start path) = .ok l
  entry : d.root.at? l = some e
  slash : Disk.endsInSlash path → e.isDir

theorem components_ne_here {p : Path} (h : p.pieces.head? ≠ some ".") :
    p.components ≠ [.here] := by
  have hnone (s : String) : component? s ≠ some .here := by
    unfold component?
    split <;> simp
  intro heq
  have hmem : Path.Component.here ∈ p.trail := by
    rw [← components_eq_trail h, heq]
    exact List.mem_singleton_self _
  rw [trail, List.mem_append, List.mem_filterMap] at hmem
  rcases hmem with hroot | ⟨s, _, hs⟩
  · split at hroot <;> simp at hroot
  · exact hnone s hs

theorem below_dot (s : String) : below dot s = ⟨s⟩ := if_pos (by decide)

theorem below_of_head {path : Path} (h : path.pieces.head? ≠ some ".") (s : String) :
    below path s = path.join ⟨s⟩ := if_neg (components_ne_here h)

section Below

variable {d : Disk} {path : Path} {l : List String} {e : Entry} {s : String}

theorem foldlM_singleton (d : Disk) (l : List String) (s : String) :
    [s].foldlM d.step l = d.step l s := by simp

/-- Where the path below leads: to the directory itself for the empty name, else one step further.
-/
theorem Stands.foldlM_below (h : Stands d path l e) (hs : '/' ∉ s.toList)
    (hgap : s = "" → path ≠ dot) :
    (below path s).segments.foldlM d.step (d.start (below path s)) =
      if s = "" then .ok l else d.step l s := by
  rcases h.tidy with rfl | hhead
  · have hne : s ≠ "" := fun hs => hgap hs rfl
    have hhere : d.here = l := by
      have hleads := h.leads
      rw [segments_dot, foldlM_singleton] at hleads
      exact (Disk.step_eq_ok.mp hleads).2.symm
    rw [below_dot, segments_of_slashless hs, if_neg hne, if_neg hne, foldlM_singleton, Disk.start,
      isAbsolute_of_slashless hs, if_neg Bool.false_ne_true, hhere]
  · have hrelative := isAbsolute_of_slashless hs
    rw [below_of_head hhead, segments_join hrelative, Disk.start, isAbsolute_join hrelative,
      List.foldlM_append, ← Disk.start, h.leads, segments_of_slashless hs]
    split
    · rfl
    · exact foldlM_singleton d l s

/-- The text that a name below a path is written behind. -/
def lead (path : Path) : String :=
  if path = dot then "" else if Disk.endsInSlash path then path.text else path.text ++ "/"

theorem lead_of_endsInSlash (h : Disk.endsInSlash path) : lead path = path.text := by
  have hdot : path ≠ dot := by
    rintro rfl
    revert h
    decide
  rw [lead, if_neg hdot, if_pos h]

theorem endsInSlash_lead (h : path ≠ dot) : Disk.endsInSlash ⟨lead path⟩ := by
  rw [lead, if_neg h]
  split
  · assumption
  · simp [Disk.endsInSlash]

theorem size_le_lead (h : path ≠ dot) : path.text.utf8ByteSize ≤ (lead path).utf8ByteSize := by
  rw [lead, if_neg h]
  split
  · exact Nat.le_refl _
  · rw [String.utf8ByteSize_append]
    exact Nat.le_add_right ..

theorem ne_dot_of_head (h : path.pieces.head? ≠ some ".") : path ≠ dot := by
  rintro rfl
  exact h (by decide)

theorem text_below_of_head (hwritten : path.text ≠ "") (hhead : path.pieces.head? ≠ some ".")
    (hs : '/' ∉ s.toList) : (below path s).text = lead path ++ s := by
  have hempty : path.text.isEmpty = false := by simpa using hwritten
  rw [below_of_head hhead, Path.join, isAbsolute_of_slashless hs, hempty, lead,
    if_neg (ne_dot_of_head hhead)]
  simp only [Bool.or_self, Bool.false_eq_true, if_false]
  by_cases hends : Disk.endsInSlash path
  · rw [if_pos hends]
    exact congrArg Path.text (if_pos hends)
  · rw [if_neg hends]
    exact congrArg Path.text (if_neg hends)

theorem head?_below_of_head (hwritten : path.text ≠ "") (hhead : path.pieces.head? ≠ some ".")
    (hs : '/' ∉ s.toList) : (below path s).pieces.head? ≠ some "." := by
  have hne : path.front ≠ [] := by
    intro hnil
    have hfront := head?_front hwritten
    rw [hnil, eq_comm, List.head?_nil, List.head?_eq_none_iff] at hfront
    exact path.pieces_ne_nil hfront
  rw [below_of_head hhead, pieces_join _ (isAbsolute_of_slashless hs),
    List.head?_append_of_ne_nil _ hne, head?_front hwritten]
  exact hhead

/-- Away from the dot, paths get no shorter as a walk goes on. -/
theorem size_lead_le_foldl (hwritten : path.text ≠ "") (hhead : path.pieces.head? ≠ some ".")
    {names : List String} (hnames : ∀ s ∈ names, '/' ∉ s.toList) :
    (lead path).utf8ByteSize ≤ (lead (names.foldl below path)).utf8ByteSize := by
  induction names generalizing path with
  | nil => exact Nat.le_refl _
  | cons s names ih =>
    obtain ⟨hs, hnames⟩ := List.forall_mem_cons.mp hnames
    have htext := text_below_of_head hwritten hhead hs
    have hhead' := head?_below_of_head hwritten hhead hs
    have hwritten' : (below path s).text ≠ "" := by
      intro hnil
      obtain ⟨hlead, -⟩ := String.append_eq_empty_iff.mp (htext.symm.trans hnil)
      have hends := endsInSlash_lead (ne_dot_of_head hhead)
      rw [hlead] at hends
      cases hends
    calc (lead path).utf8ByteSize
        ≤ (below path s).text.utf8ByteSize := by
          rw [htext, String.utf8ByteSize_append]
          exact Nat.le_add_right ..
      _ ≤ (lead (below path s)).utf8ByteSize := size_le_lead (ne_dot_of_head hhead')
      _ ≤ _ := ih hwritten' hhead' hnames

theorem Stands.text_below (h : Stands d path l e) (hs : '/' ∉ s.toList) :
    (below path s).text = lead path ++ s := by
  rcases h.tidy with rfl | hhead
  · rw [below_dot, lead, if_pos rfl, String.empty_append]
  · exact text_below_of_head h.written hhead hs

theorem Stands.tidy_below (h : Stands d path l e) (hs : '/' ∉ s.toList) :
    below path s = dot ∨ (below path s).pieces.head? ≠ some "." := by
  rcases h.tidy with rfl | hhead
  · rw [below_dot, pieces_of_slashless hs]
    by_cases hdot : s = "."
    · exact .inl (hdot ▸ rfl)
    · exact .inr (by simpa using hdot)
  · exact .inr (head?_below_of_head h.written hhead hs)

/-- One step further along a walk. -/
theorem Stands.below (h : Stands d path l e) (hs : '/' ∉ s.toList) (hgap : s = "" → path ≠ dot)
    {l' : List String} (hleads : (if s = "" then .ok l else d.step l s) = .ok l') {found : Entry}
    (hfound : d.root.at? l' = some found) (hdir : s = "" → found.isDir) :
    Stands d (below path s) l' found := by
  have htext := h.text_below hs
  refine ⟨?_, h.tidy_below hs, (h.foldlM_below hs hgap).trans hleads, hfound, fun hslash => ?_⟩
  · intro hnil
    obtain ⟨hlead, hempty⟩ := String.append_eq_empty_iff.mp (htext.symm.trans hnil)
    have hends := endsInSlash_lead (hgap hempty)
    rw [hlead] at hends
    cases hends
  · by_contra hfile
    have hne : s ≠ "" := fun hempty => hfile (hdir hempty)
    have hends := endsInSlash_of_slashless (t := lead path) hs hne
    rw [← htext] at hends
    exact absurd hslash (by simp [hends])

theorem Stands.trail_below (h : Stands d path l e) (hs : '/' ∉ s.toList) :
    (Glob.below path s).trail = path.trail ++ (segments ⟨s⟩).filterMap component? := by
  have hrelative := isAbsolute_of_slashless hs
  rcases h.tidy with rfl | hhead
  · rw [below_dot, trail, hrelative]
    rfl
  · rw [below_of_head hhead, trail_join hrelative]

/-- What stands at the path of a walk, if the system takes the path. -/
theorem Stands.entry_eq (h : Stands d path l e) (hcheck : Disk.checkPath path = .ok ()) :
    d.entry path = .ok e := by
  refine Disk.entry_eq_ok.mpr ⟨l, Disk.locate_eq_ok.mpr ⟨hcheck, ?_, h.leads, ?_⟩, h.entry⟩
  · simpa using h.written
  · intro hslash
    simp [Entry.hasDir, h.entry, h.slash hslash]

theorem Stands.eq_of_entry (h : Stands d path l e) {found : Entry}
    (hfound : d.entry path = .ok found) : found = e := by
  obtain ⟨l', hlocate, hat⟩ := Disk.entry_eq_ok.mp hfound
  obtain ⟨_, _, hfold, _⟩ := Disk.locate_eq_ok.mp hlocate
  cases hfold.symm.trans h.leads
  exact Option.some.inj (hat.symm.trans h.entry)

theorem Stands.ne_dot_of_file {bytes : ByteArray} (h : Stands d path l (.file bytes)) :
    path ≠ dot := by
  rintro rfl
  have hleads := h.leads
  rw [segments_dot, foldlM_singleton, Disk.step_eq_ok] at hleads
  obtain ⟨hdir, rfl⟩ := hleads
  rw [Entry.hasDir, h.entry] at hdir
  cases hdir

theorem Stands.components_of_file {bytes : ByteArray} (h : Stands d path l (.file bytes)) :
    path.components = path.trail :=
  Path.components_eq_trail (h.tidy.resolve_left h.ne_dot_of_file)

theorem Stands.size_lead_of_file {bytes : ByteArray} (h : Stands d path l (.file bytes)) :
    (lead path).utf8ByteSize = path.text.utf8ByteSize + 1 := by
  have hends : ¬ Disk.endsInSlash path := fun hslash => absurd (h.slash hslash) Bool.false_ne_true
  rw [lead, if_neg h.ne_dot_of_file, if_neg hends, String.utf8ByteSize_append]
  rfl

theorem Stands.locate_eq (h : Stands d path l e) (hfile : d.isFile path) :
    d.locate path = .ok l := by
  obtain ⟨_, hbytes⟩ := Disk.isFile_iff.mp hfile
  obtain ⟨l', hlocate, -⟩ := Disk.entry_eq_ok.mp hbytes
  cases h.leads.symm.trans (Disk.locate_eq_ok.mp hlocate).2.2.1
  exact hlocate

/-- What is found below by its path is one step further along the walk. -/
theorem Stands.below_of_entry (h : Stands d path l e) (hs : '/' ∉ s.toList) {found : Entry}
    (hfound : d.entry (Glob.below path s) = .ok found) : ∃ l',
      (if s = "" then .ok l else d.step l s) = .ok l' ∧ Stands d (Glob.below path s) l' found := by
  obtain ⟨l', hlocate, hat⟩ := Disk.entry_eq_ok.mp hfound
  obtain ⟨_, hempty, hfold, hslash⟩ := Disk.locate_eq_ok.mp hlocate
  have hgap : s = "" → path ≠ dot := by
    rintro rfl rfl
    rw [below_dot] at hempty
    cases hempty
  refine ⟨l', (h.foldlM_below hs hgap).symm.trans hfold,
    by simpa using hempty, h.tidy_below hs, hfold, hat, fun hends => ?_⟩
  simpa [Entry.hasDir, hat] using hslash hends

/-- An empty name and a dot lead to the directory that they are in. -/
theorem Stands.stay (h : Stands d path l e) (hs : s = "" ∨ s = ".") {l' : List String}
    {found : Entry} (hleads : (if s = "" then .ok l else d.step l s) = .ok l')
    (hbelow : Stands d (Glob.below path s) l' found) :
    l' = l ∧ found.isDir ∧ (Glob.below path s).trail = path.trail := by
  have hslash : '/' ∉ s.toList := by rcases hs with rfl | rfl <;> decide
  rw [h.trail_below hslash]
  rcases hs with rfl | rfl
  · have hdot : path ≠ dot := by
      rintro rfl
      exact hbelow.written (congrArg Path.text (below_dot ""))
    have hends : Disk.endsInSlash (Glob.below path "") := by
      have htext := h.text_below hslash
      rw [String.append_empty] at htext
      rw [show Glob.below path "" = ⟨lead path⟩ from congrArg Path.mk htext]
      exact endsInSlash_lead hdot
    exact ⟨(Except.ok.inj hleads).symm, hbelow.slash hends, List.append_nil _⟩
  · obtain ⟨hdir, hl⟩ := Disk.step_eq_ok.mp hleads
    cases hl
    refine ⟨rfl, ?_, List.append_nil _⟩
    simpa [Entry.hasDir, hbelow.entry] using hdir

end Below

/-! ### Paths that the system takes -/

section Nulless

variable {d : ProperDisk} {path : Path} {l l' : List String} {e : Entry}

/-- What leads on from a directory of a proper disk can be part of a path. -/
theorem nulless_of_step {s : String} (h : d.step l s = .ok l') : '\x00' ∉ s.toList := by
  obtain ⟨hdir, hl'⟩ := Disk.step_eq_ok.mp h
  split_ifs at hl' with hdot hup
  · rw [hdot]
    decide
  · rw [hup]
    decide
  · obtain ⟨found, hfound⟩ := Option.isSome_iff_exists.mp hl'.2.1
    exact (d.proper.isName_of_at? hfound).nulless

theorem nulless_of_foldlM {names : List String} (h : names.foldlM d.step l = .ok l') :
    ∀ s ∈ names, '\x00' ∉ s.toList := by
  induction names generalizing l with
  | nil => nofun
  | cons s names ih =>
    rw [List.foldlM_cons, Outcome.bind_eq_ok] at h
    obtain ⟨m, hstep, hrest⟩ := h
    exact List.forall_mem_cons.mpr ⟨nulless_of_step hstep, ih hrest⟩

/-- The path of a walk over a proper disk can only be too long. -/
theorem Stands.checkPath_eq (h : Stands d path l e) :
    Disk.checkPath path =
      if path.text.utf8ByteSize < 4096 then .ok () else .error .nameTooLong := by
  have hnul : '\x00' ∉ path.text.toList := by
    intro hmem
    obtain ⟨s, hs, hnul⟩ := exists_mem_segments hmem (by decide)
    exact nulless_of_foldlM h.leads s hs hnul
  have hcontains : path.text.toList.contains '\x00' = false := by simpa using hnul
  rw [Disk.checkPath, hcontains, if_neg Bool.false_ne_true]
  split_ifs with hlong hshort hshort
  · exact absurd hlong (Nat.not_le.mpr hshort)
  · rfl
  · rfl
  · exact absurd (Nat.le_of_not_lt hshort) hlong

end Nulless

/-! ### What a walk gives -/

section Walk

variable {d : Disk} {needDir : Bool} {path : Path} {e : Entry} {x : Except Error Path}
  {ts : List Token} {cs : List Component}

/-- A walk fails since the system does not take the path of a directory. -/
def Fails (path : Path) (x : Except Error Path) : Prop :=
  ∃ cause, Disk.checkPath path = .error cause ∧ x = .error (.glob path.text cause)

theorem mem_reading {inside : Trace} :
    x ∈ reading path inside ↔ Fails path x ∨ Disk.checkPath path = .ok () ∧ x ∈ inside := by
  unfold reading Fails
  cases h : Disk.checkPath path <;> simp

theorem walk_nil : walk d needDir [] path e = if needDir && !e.isDir then [] else [.ok path] := by
  rfl

theorem walk_literal (name : String) : walk d needDir (.literal name :: cs) path e =
    match d.entry (below path name) with
    | .ok found => walk d needDir cs (below path name) found
    | .error _ => [] := by
  rfl

theorem walk_wildcard_file (bytes : ByteArray) :
    walk d needDir (.wildcard ts :: cs) path (.file bytes) = [] := by
  rfl

theorem walk_wildcard_dir (entries : List (String × Entry)) :
    walk d needDir (.wildcard ts :: cs) path (.dir entries) = reading path (
      ((specials ts).flatMap fun name =>
        match d.entry (path.join ⟨name⟩) with
        | .ok found => walk d needDir cs (path.join ⟨name⟩) found
        | .error _ => []) ++
      entries.flatMap fun x =>
        if isMatch ts x.1.toList then walk d needDir cs (below path x.1) x.2 else []) := by
  rfl

theorem mem_walk_nil : x ∈ walk d needDir [] path e ↔ (needDir → e.isDir) ∧ x = .ok path := by
  rw [walk_nil]
  cases needDir <;> cases h : e.isDir <;> simp

theorem mem_walk_literal {name : String} : x ∈ walk d needDir (.literal name :: cs) path e ↔
    ∃ found, d.entry (below path name) = .ok found ∧
      x ∈ walk d needDir cs (below path name) found := by
  rw [walk_literal]
  cases h : d.entry (below path name) <;> simp

theorem mem_walk_wildcard (h : specials ts = []) :
    x ∈ walk d needDir (.wildcard ts :: cs) path e ↔
      ∃ entries, e = .dir entries ∧ (Fails path x ∨ Disk.checkPath path = .ok () ∧
        ∃ name found, (name, found) ∈ entries ∧ isMatch ts name.toList ∧
          x ∈ walk d needDir cs (below path name) found) := by
  cases e with
  | file bytes => simp [walk_wildcard_file]
  | dir entries =>
    rw [walk_wildcard_dir, mem_reading]
    simp only [h, List.flatMap_nil, List.nil_append, List.mem_flatMap, Prod.exists,
      Entry.dir.injEq, exists_eq_left', List.mem_ite_nil_right]

/-- What components give at an entry that any directories lead to: the first of them stands for its
name. -/
def enter (d : Disk) (needDir : Bool) (cs : List Component) (path : Path) (name : String)
    (e : Entry) : Trace :=
  match cs with
  | [] => if e.isDir then [.ok path] else []
  | c :: rest => if c.isMatch name then walk d needDir rest path e else []

theorem walk_anyDirs : walk d needDir (.anyDirs :: cs) path e =
    descend (enter d needDir cs) path e := by
  cases cs <;> rfl

section Descend

variable {visit : Path → String → Entry → Trace} {entries : List (String × Entry)}

theorem descend_file (bytes : ByteArray) : descend visit path (.file bytes) = [] := by
  rfl

theorem descend_dir : descend visit path (.dir entries) =
    reading path (descendAll visit path entries) := by
  rfl

theorem descendAll_nil : descendAll visit path [] = [] := by
  rfl

theorem descendAll_cons (name : String) (found : Entry) :
    descendAll visit path ((name, found) :: entries) =
      visit (below path name) name found ++ descend visit (below path name) found ++
        descendAll visit path entries := by
  rfl

theorem mem_descendAll : x ∈ descendAll visit path entries ↔
    ∃ name found, (name, found) ∈ entries ∧
      (x ∈ visit (below path name) name found ∨ x ∈ descend visit (below path name) found) := by
  induction entries with
  | nil => simp [descendAll_nil]
  | cons y entries ih =>
    obtain ⟨name, found⟩ := y
    rw [descendAll_cons, List.mem_append, List.mem_append, ih]
    constructor
    · rintro (h | ⟨name', found', hmem, h⟩)
      · exact ⟨name, found, List.mem_cons_self, h⟩
      · exact ⟨name', found', List.mem_cons_of_mem _ hmem, h⟩
    · rintro ⟨name', found', hmem, h⟩
      rcases List.mem_cons.mp hmem with heq | hmem
      · cases heq
        exact .inl h
      · exact .inr ⟨name', found', hmem, h⟩

end Descend

theorem mem_walk_anyDirs : x ∈ walk d needDir (.anyDirs :: cs) path e ↔
    ∃ entries, e = .dir entries ∧ (Fails path x ∨ Disk.checkPath path = .ok () ∧
      ∃ name found, (name, found) ∈ entries ∧
        (x ∈ enter d needDir cs (below path name) name found ∨
          x ∈ walk d needDir (.anyDirs :: cs) (below path name) found)) := by
  simp only [walk_anyDirs]
  cases e with
  | file bytes => simp [descend_file]
  | dir entries =>
    rw [descend_dir, mem_reading, mem_descendAll]
    simp

end Walk

end Glob

end Stencil
