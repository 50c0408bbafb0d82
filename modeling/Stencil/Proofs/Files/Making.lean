import Stencil.Proofs.Files.Parent
import Stencil.Proofs.Files.Walking

/-! What writing a file does to a disk, to the last entry.

The text of a path alone decides which locations it visits. Making the directory at a path goes well
iff no file is at those locations or above them, and makes a directory at each that has none. So a
file is written iff its path allows it (`Disk.Aims`) and there is room for it at these locations
(`Disk.HasRoom`), and then the new disk is the old one with some directories made and one file put
(`Disk.writeFile_iff`). -/

namespace Stencil

namespace Entry

/-- No file is at a location or above it. -/
def Clear (e : Entry) (l : List String) : Prop := ∀ k, k <+: l → e.fileAt? k = none

/-- Makes a directory at a location if nothing is there. -/
def makeDir (e : Entry) (l : List String) : Entry :=
  if (e.at? l).isSome then e else e.put l (.dir [])

/-- Makes directories one after another. -/
def makeAll (e : Entry) (ls : List (List String)) : Entry := ls.foldl makeDir e

variable {e : Entry} {l m : List String}

theorem clear_of_hasDir (h : e.hasDir l) : e.Clear l :=
  fun _ hk => fileAt?_of_hasDir (hasDir_of_front h hk)

theorem fileAt?_makeDir (e : Entry) (l m : List String) :
    (e.makeDir l).fileAt? m = e.fileAt? m := by
  unfold makeDir
  split
  · rfl
  · rename_i h
    exact fileAt?_put_dir (Option.not_isSome_iff_eq_none.mp h) m

theorem clear_makeDir : (e.makeDir l).Clear m ↔ e.Clear m := by
  simp only [Clear, fileAt?_makeDir]

/-- Elsewhere, but for directories above it, things are as they were where an entry is put. -/
theorem at?_put_of_apart (hl : ¬ l <+: m) (hm : ¬ m <+: l) (e x : Entry) :
    (e.put l x).at? m = e.at? m := by
  induction l generalizing e m with
  | nil => exact absurd List.nil_prefix hl
  | cons n l ih =>
    cases m with
    | nil => exact absurd List.nil_prefix hm
    | cons k m =>
      cases e with
      | file bytes => rfl
      | dir entries =>
        by_cases hn : n = k
        · subst hn
          rw [at?_put_cons, ih (fun h => hl (List.cons_prefix_cons.mpr ⟨rfl, h⟩))
            (fun h => hm (List.cons_prefix_cons.mpr ⟨rfl, h⟩))]
          cases hlookup : entries.lookup n with
          | none =>
            cases m with
            | nil => exact absurd (by simp) hm
            | cons => simp [at?, hlookup]
          | some sub => simp [at?, hlookup]
        · simp [put, at?, lookup_insert, Ne.symm hn]

/-- Where no file is in the way, an entry that is put is there, and something is above it. -/
theorem isSome_at?_put (h : e.Clear l) (hm : m <+: l) (x : Entry) :
    ((e.put l x).at? m).isSome := by
  induction l generalizing e m with
  | nil =>
    rw [List.prefix_nil.mp hm]
    rfl
  | cons n l ih =>
    cases m with
    | nil => rfl
    | cons k m =>
      obtain ⟨rfl, hbelow⟩ := List.cons_prefix_cons.mp hm
      cases e with
      | file bytes => cases h [] List.nil_prefix
      | dir entries =>
        rw [at?_put_cons]
        refine ih (fun j hj => ?_) hbelow
        have hfile := h (k :: j) (List.cons_prefix_cons.mpr ⟨rfl, hj⟩)
        cases hlookup : entries.lookup k with
        | none => cases j <;> rfl
        | some sub => simpa [fileAt?, at?, hlookup] using hfile

theorem hasDir_makeDir_self (h : e.Clear l) : (e.makeDir l).hasDir l := by
  have hsome : ((e.makeDir l).at? l).isSome := by
    unfold makeDir
    split
    · assumption
    · exact isSome_at?_put h List.prefix_rfl _
  refine (isSome_at?_iff.mp hsome).resolve_right ?_
  simp [fileAt?_makeDir, h l List.prefix_rfl]

theorem hasDir_makeDir (h : e.hasDir m) (l : List String) : (e.makeDir l).hasDir m := by
  unfold makeDir
  split
  · exact h
  · rename_i hnone
    exact hasDir_put (fun hl => hnone (isSome_at?_iff.mpr (.inl hl))) _ h

/-- The directories there are when one has been made: those that were there, the new one and those
above it. -/
theorem hasDir_makeDir_iff (h : e.Clear l) : (e.makeDir l).hasDir m ↔ e.hasDir m ∨ m <+: l := by
  constructor
  · intro hdir
    by_cases hm : m <+: l
    · exact .inr hm
    · refine .inl ?_
      unfold makeDir at hdir
      split at hdir
      · exact hdir
      · by_cases hl : l <+: m
        · obtain ⟨r, rfl⟩ := hl
          rcases at?_put_append e (.dir []) l r with hnew | hsame
          · cases r with
            | nil => exact absurd (by simp) hm
            | cons n r => rw [hasDir, hnew] at hdir; cases hdir
          · rwa [hasDir, hsame] at hdir
        · rwa [hasDir, at?_put_of_apart hl hm] at hdir
  · rintro (hdir | hm)
    · exact hasDir_makeDir hdir l
    · exact hasDir_of_front (hasDir_makeDir_self h) hm

/-- A file that is put where no directory is changes no directory. -/
theorem hasDir_put_file {parent : List String} {name : String} (hparent : e.hasDir parent)
    (hfree : ¬ e.hasDir (parent ++ [name])) (bytes : ByteArray) :
    (e.put (parent ++ [name]) (.file bytes)).hasDir m ↔ e.hasDir m := by
  refine ⟨fun hdir => ?_, fun hdir => hasDir_put hfree _ hdir⟩
  by_cases hm : m <+: parent ++ [name]
  · rcases List.prefix_concat_iff.mp hm with rfl | hm
    · have hput := at?_put_below hparent name [] (.file bytes)
      rw [hasDir, hput] at hdir
      cases hdir
    · exact hasDir_of_front hparent hm
  · by_cases hl : parent ++ [name] <+: m
    · obtain ⟨r, rfl⟩ := hl
      rw [List.append_assoc, List.singleton_append, hasDir, at?_put_below hparent] at hdir
      cases r <;> cases hdir
    · rwa [hasDir, at?_put_of_apart hl hm] at hdir

theorem makeDir_of_hasDir (h : e.hasDir l) : e.makeDir l = e :=
  if_pos (isSome_at?_iff.mpr (.inl h))

theorem fileAt?_makeAll (e : Entry) (ls : List (List String)) (m : List String) :
    (e.makeAll ls).fileAt? m = e.fileAt? m := by
  induction ls generalizing e with
  | nil => rfl
  | cons l ls ih => exact (ih (e.makeDir l)).trans (fileAt?_makeDir e l m)

theorem hasDir_makeAll_iff {ls : List (List String)} (h : ∀ l ∈ ls, e.Clear l) :
    (e.makeAll ls).hasDir m ↔ e.hasDir m ∨ ∃ l ∈ ls, m <+: l := by
  induction ls generalizing e with
  | nil => simp [makeAll]
  | cons l ls ih =>
    have hrest (k : List String) (hk : k ∈ ls) : (e.makeDir l).Clear k :=
      clear_makeDir.mpr (h k (List.mem_cons_of_mem l hk))
    have hstep := ih hrest
    rw [hasDir_makeDir_iff (h l (List.mem_cons_self ..)), or_assoc] at hstep
    rw [List.exists_mem_cons_iff]
    exact hstep

end Entry

namespace Path

/-- The locations to which segments lead one after another. -/
def visits (location : List String) : List String → List (List String)
  | [] => []
  | segment :: rest => advance location segment :: visits (advance location segment) rest

theorem foldl_advance_mem_visits (segments : List String) (l : List String) :
    segments.foldl advance l = l ∨ segments.foldl advance l ∈ visits l segments := by
  induction segments generalizing l with
  | nil => exact .inl rfl
  | cons segment segments ih =>
    refine .inr ?_
    rw [List.foldl_cons, visits, List.mem_cons]
    exact ih (advance l segment)

theorem foldl_advance_dots (n : Nat) (l : List String) :
    (List.replicate n ".").foldl advance l = l := by
  induction n with
  | zero => rfl
  | succ n ih => exact ih

end Path

namespace Disk

open Stencil.Path

/-- A segment can be followed as far as its length goes. -/
def fits (segment : String) : Bool := segment = "." || segment = ".." || !isTooLong segment

/-- The locations that a path visits. -/
def visits (d : Disk) (p : Path) : List (List String) := Path.visits (d.start p) p.segments

/-- The location of the directory at a path. -/
def goal (d : Disk) (p : Path) : List String := p.segments.foldl advance (d.start p)

/-- The disk with the directory at a path and those above it. -/
def withDirs (d : Disk) (p : Path) : Disk := { d with root := d.root.makeAll (d.visits p) }

theorem stepMaking_eq {d : Disk} {l : List String} (h : d.root.hasDir l) (segment : String) :
    stepMaking (d, l) segment =
      if fits segment then
        .ok ({ d with root := d.root.makeDir (advance l segment) }, advance l segment)
      else .error .nameTooLong := by
  obtain ⟨entries, hentries⟩ : ∃ entries, d.root.at? l = some (.dir entries) := by
    unfold Entry.hasDir at h
    cases he : d.root.at? l with
    | none => rw [he] at h; cases h
    | some e =>
      cases e with
      | file bytes => rw [he] at h; cases h
      | dir entries => exact ⟨entries, rfl⟩
  have hfound : d.root.at? (l ++ [segment]) = entries.lookup segment := by
    rw [Entry.at?_append, hentries]
    cases hlookup : entries.lookup segment <;> simp [Entry.at?, hlookup]
  have hup := Entry.makeDir_of_hasDir (Entry.hasDir_of_front h l.dropLast_prefix)
  simp only [stepMaking, step, hentries, fits, advance]
  by_cases hdot : segment = "."
  · simp [hdot, Entry.makeDir_of_hasDir h]
  · by_cases hdots : segment = ".."
    · simp [hdots, hup]
    · by_cases hlong : isTooLong segment
      · simp [hdot, hdots, hlong]
      · cases hlookup : entries.lookup segment <;>
          simp [hdot, hdots, hlong, Entry.makeDir, hfound, hlookup]

theorem hasDir_of_stepMaking {d : Disk} {l : List String} {segment : String}
    {s : Disk × List String} (h : stepMaking (d, l) segment = .ok s) : d.root.hasDir l := by
  unfold stepMaking step at h
  unfold Entry.hasDir
  cases he : d.root.at? l with
  | none => simp [he] at h
  | some e =>
    cases e with
    | file bytes => simp [he] at h
    | dir entries => rfl

/-- Segments are followed, and directories made, as far as a directory iff no segment is too long
and no file is in the way. There is then a directory at each location that is visited. -/
theorem foldlM_stepMaking_iff {d d' : Disk} {l l' : List String} {segments : List String} :
    segments.foldlM stepMaking (d, l) = .ok (d', l') ∧ d'.root.hasDir l' ↔
      d.root.hasDir l ∧ (∀ s ∈ segments, fits s) ∧
      (∀ m ∈ Path.visits l segments, d.root.Clear m) ∧
      d' = { d with root := d.root.makeAll (Path.visits l segments) } ∧
      l' = segments.foldl advance l := by
  induction segments generalizing d l with
  | nil =>
    simp only [List.foldlM_nil, Outcome.pure_eq_ok, Prod.mk.injEq]
    constructor
    · rintro ⟨⟨rfl, rfl⟩, hdir⟩
      exact ⟨hdir, by simp, by simp [Path.visits], rfl, rfl⟩
    · rintro ⟨hdir, _, _, rfl, rfl⟩
      exact ⟨⟨rfl, rfl⟩, hdir⟩
  | cons segment segments ih =>
    rw [List.foldlM_cons, Outcome.bind_eq_ok, List.forall_mem_cons, Path.visits,
      List.forall_mem_cons]
    constructor
    · rintro ⟨⟨s, hstep, hrest⟩, hdir⟩
      have hl := hasDir_of_stepMaking hstep
      rw [stepMaking_eq hl] at hstep
      split at hstep
      · rename_i hfits
        cases hstep
        -- the rest can only be followed from a directory, so no file is at the next location
        obtain ⟨hnext, hothers, hclear, rfl, rfl⟩ := ih.mp ⟨hrest, hdir⟩
        refine ⟨hl, ⟨hfits, hothers⟩, ⟨?_, fun m hm => ?_⟩, rfl, rfl⟩
        · exact Entry.clear_makeDir.mp (Entry.clear_of_hasDir hnext)
        · exact Entry.clear_makeDir.mp (hclear m hm)
      · cases hstep
    · rintro ⟨hl, ⟨hfits, hothers⟩, ⟨hclear, hclears⟩, rfl, rfl⟩
      let next : Disk := { d with root := d.root.makeDir (advance l segment) }
      obtain ⟨hrest, hdir⟩ := ih (d := next).mpr ⟨Entry.hasDir_makeDir_self hclear, hothers,
        fun m hm => Entry.clear_makeDir.mpr (hclears m hm), rfl, rfl⟩
      refine ⟨⟨_, ?_, hrest⟩, hdir⟩
      rw [stepMaking_eq hl, if_pos hfits]

/-- The directory at a path is made iff the path starts at a directory, no segment is too long and
no file is in the way. -/
theorem makeDirs_iff {d d' : Disk} {p : Path} : d.makeDirs p = .ok d' ↔
    checkPath p = .ok () ∧ d.root.hasDir (d.start p) ∧ (∀ s ∈ p.segments, fits s) ∧
      (∀ m ∈ d.visits p, d.root.Clear m) ∧ d' = d.withDirs p := by
  unfold makeDirs withDirs visits
  simp only [Outcome.bind_eq_ok]
  constructor
  · rintro ⟨_, hcheck, ⟨d₁, l⟩, hfold, hd⟩
    simp only at hd
    split_ifs at hd with hdir
    cases hd
    obtain ⟨hstart, hfits, hclear, rfl, -⟩ := foldlM_stepMaking_iff.mp ⟨hfold, hdir⟩
    exact ⟨hcheck, hstart, hfits, hclear, rfl⟩
  · rintro ⟨hcheck, hstart, hfits, hclear, rfl⟩
    obtain ⟨hfold, hdir⟩ := foldlM_stepMaking_iff.mpr ⟨hstart, hfits, hclear, rfl, rfl⟩
    exact ⟨(), hcheck, _, hfold, if_pos hdir⟩

/-- Segments lead on if none is too long and a directory is wherever they lead. -/
theorem foldlM_step_of_hasDir {d : Disk} {segments : List String} {l : List String}
    (hl : d.root.hasDir l) (hfits : ∀ s ∈ segments, fits s)
    (hdirs : ∀ m ∈ Path.visits l segments, d.root.hasDir m) :
    segments.foldlM d.step l = .ok (segments.foldl advance l) := by
  induction segments generalizing l with
  | nil => rfl
  | cons segment segments ih =>
    rw [List.forall_mem_cons] at hfits
    rw [Path.visits, List.forall_mem_cons] at hdirs
    rw [List.foldlM_cons, Outcome.bind_eq_ok]
    refine ⟨advance l segment, step_eq_ok.mpr ⟨hl, ?_⟩, ih hdirs.1 hfits.2 hdirs.2⟩
    have hfound := Entry.isSome_at?_iff.mpr (.inl hdirs.1)
    have hfit := hfits.1
    unfold advance at hfound ⊢
    unfold fits at hfit
    split_ifs at hfound ⊢ with hdot hdots
    · rfl
    · rfl
    · exact ⟨by simpa [hdot, hdots] using hfit, hfound, rfl⟩

theorem foldlM_step_dots {d : Disk} {l : List String} (h : d.root.hasDir l) (n : Nat) :
    (List.replicate n ".").foldlM d.step l = .ok l := by
  induction n with
  | zero => rfl
  | succ n ih =>
    rw [List.replicate_succ, List.foldlM_cons, Outcome.bind_eq_ok]
    exact ⟨l, step_eq_ok.mpr ⟨h, rfl⟩, ih⟩

/-- A path is that of a file with a name in the directory at another path, and nothing in its text
keeps the file from being written. -/
structure Aims (p q : Path) (name : String) : Prop where
  check : checkPath p = .ok ()
  parent : p.parent? = some q
  checkParent : checkPath q = .ok ()
  isAbsolute : q.isAbsolute = p.isAbsolute
  segments : ∃ n, p.segments = q.segments ++ .replicate n "." ++ [name]
  fits : ∀ s ∈ q.segments, fits s
  short : isTooLong name = false
  isName : name ≠ "." ∧ name ≠ ".."
  slash : ¬ endsInSlash p

theorem Aims.start_eq {p q : Path} {name : String} (h : Aims p q name) (d : Disk) :
    d.start p = d.start q := by
  simp only [start, h.isAbsolute]

theorem Aims.goal_eq {p q : Path} {name : String} (h : Aims p q name) (d : Disk) :
    d.goal p = d.goal q ++ [name] := by
  obtain ⟨n, hn⟩ := h.segments
  rw [goal, hn, List.foldl_append, List.foldl_append, foldl_advance_dots, h.start_eq]
  simp [advance, h.isName, goal]

/-- A disk has room for a file with a name in the directory at a path: the path starts at a
directory, no file is in the way of the directories it visits, and this file is in the way of
none. -/
structure HasRoom (d : Disk) (q : Path) (name : String) : Prop where
  start : d.root.hasDir (d.start q)
  clear : ∀ m ∈ d.visits q, d.root.Clear m
  free : ¬ d.root.hasDir (d.goal q ++ [name])
  apart : ∀ m ∈ d.visits q, ¬ d.goal q ++ [name] <+: m

/-- The disk with the directory at a path and a file in it. -/
def withFile (d : Disk) (q : Path) (name : String) (bytes : ByteArray) : Disk :=
  { d with root := (d.withDirs q).root.put (d.goal q ++ [name]) (.file bytes) }

section

variable (d : Disk) (q p : Path) (name : String) (bytes : ByteArray)

@[simp] theorem start_withFile : (d.withFile q name bytes).start p = d.start p := rfl

@[simp] theorem visits_withFile : (d.withFile q name bytes).visits p = d.visits p := rfl

@[simp] theorem goal_withFile : (d.withFile q name bytes).goal p = d.goal p := rfl

end

namespace HasRoom

variable {d : Disk} {q : Path} {name : String}

theorem hasDir_withDirs_iff (h : d.HasRoom q name) {l : List String} :
    (d.withDirs q).root.hasDir l ↔ d.root.hasDir l ∨ ∃ m ∈ d.visits q, l <+: m :=
  Entry.hasDir_makeAll_iff h.clear

theorem hasDir_of_mem (h : d.HasRoom q name) {l : List String} (hl : l ∈ d.visits q) :
    (d.withDirs q).root.hasDir l :=
  h.hasDir_withDirs_iff.mpr (.inr ⟨l, hl, List.prefix_rfl⟩)

theorem hasDir_start (h : d.HasRoom q name) : (d.withDirs q).root.hasDir (d.start q) :=
  h.hasDir_withDirs_iff.mpr (.inl h.start)

theorem hasDir_goal (h : d.HasRoom q name) : (d.withDirs q).root.hasDir (d.goal q) := by
  rcases foldl_advance_mem_visits q.segments (d.start q) with hsame | hmem
  · rw [goal, hsame]
    exact h.hasDir_start
  · exact h.hasDir_of_mem hmem

theorem not_hasDir_withDirs (h : d.HasRoom q name) :
    ¬ (d.withDirs q).root.hasDir (d.goal q ++ [name]) := by
  rw [h.hasDir_withDirs_iff]
  rintro (hdir | ⟨m, hm, hbelow⟩)
  · exact h.free hdir
  · exact h.apart m hm hbelow

theorem fileAt?_withFile (h : d.HasRoom q name) (bytes : ByteArray) (l : List String) :
    (d.withFile q name bytes).root.fileAt? l =
      if l = d.goal q ++ [name] then some bytes else d.root.fileAt? l := by
  rw [withFile, Entry.fileAt?_put_file h.hasDir_goal h.not_hasDir_withDirs, withDirs,
    Entry.fileAt?_makeAll]

theorem hasDir_withFile_iff (h : d.HasRoom q name) (bytes : ByteArray) {l : List String} :
    (d.withFile q name bytes).root.hasDir l ↔ d.root.hasDir l ∨ ∃ m ∈ d.visits q, l <+: m := by
  rw [withFile, Entry.hasDir_put_file h.hasDir_goal h.not_hasDir_withDirs, h.hasDir_withDirs_iff]

theorem writeText_withDirs (h : d.HasRoom q name) {p : Path} (haims : Aims p q name)
    (text : String) :
    (d.withDirs q).writeText p text = .ok (d.withFile q name text.toUTF8) := by
  obtain ⟨n, hsegments⟩ := haims.segments
  have hfold : p.segments.dropLast.foldlM (d.withDirs q).step ((d.withDirs q).start p) =
      .ok (d.goal q) := by
    rw [hsegments, List.dropLast_concat, List.foldlM_append, Outcome.bind_eq_ok, haims.start_eq]
    refine ⟨d.goal q, ?_, foldlM_step_dots h.hasDir_goal n⟩
    exact foldlM_step_of_hasDir h.hasDir_start haims.fits fun m hm => h.hasDir_of_mem hm
  rw [writeText_iff]
  refine ⟨haims.check, d.goal q, name, ?_, hfold, h.hasDir_goal, haims.short, ?_, rfl⟩
  · rw [hsegments, List.getLast?_concat]
  · exact ⟨haims.isName.1, haims.isName.2, haims.slash, h.not_hasDir_withDirs⟩

end HasRoom

/-- A file is written iff its path aims at it and the disk has room for it. -/
theorem writeFile_iff {d d' : Disk} {f : Path × String} : d.writeFile f = .ok d' ↔
    ∃ q name, Aims f.1 q name ∧ d.HasRoom q name ∧ d' = d.withFile q name f.2.toUTF8 := by
  unfold writeFile
  rw [Outcome.bind_eq_ok]
  constructor
  · rintro ⟨d₁, hparent, hwrite⟩
    obtain ⟨hcheck, l, name, hlast, hfold, -, hlong, ⟨hdot, hdots, hslash, hfree⟩, rfl⟩ :=
      writeText_iff.mp hwrite
    -- a path that can be written to ends in a name, so it has a parent
    obtain ⟨q, n, hq, habsolute, hsegments⟩ := exists_parent? hlast hdot hdots hslash
    rw [makeParent, hq] at hparent
    obtain ⟨hcheckParent, hstart, hfits, hclear, rfl⟩ := makeDirs_iff.mp hparent
    have haims : Aims f.1 q name := ⟨hcheck, hq, hcheckParent, habsolute, ⟨n, hsegments⟩, hfits,
      hlong, ⟨hdot, hdots⟩, hslash⟩
    obtain rfl : l = d.goal q := by
      rw [eq_foldl_advance hfold, hsegments, List.dropLast_concat, List.foldl_append,
        foldl_advance_dots]
      exact congrArg (q.segments.foldl advance) (haims.start_eq d)
    rw [withDirs, Entry.hasDir_makeAll_iff hclear, not_or] at hfree
    exact ⟨q, name, haims, ⟨hstart, hclear, hfree.1, fun m hm h => hfree.2 ⟨m, hm, h⟩⟩, rfl⟩
  · rintro ⟨q, name, haims, hroom, rfl⟩
    refine ⟨d.withDirs q, ?_, hroom.writeText_withDirs haims f.2⟩
    rw [makeParent, haims.parent]
    exact makeDirs_iff.mpr ⟨haims.checkParent, hroom.start, haims.fits, hroom.clear, rfl⟩

end Disk

end Stencil
