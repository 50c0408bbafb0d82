import Mathlib.Data.List.Find
import Stencil.Proofs.Lookup
import Stencil.Proofs.Outcome

/-! Files that are written to a disk one after another.

A disk is looked at by location: which file is there, and whether a directory is. Putting an entry
at a location changes nothing elsewhere, except that directories above it may be new. So nothing
that is there goes away (`Disk.Keeps`), a path that leads somewhere goes on leading there, and of
all files that are written to one location the last one is what it holds (`Disk.Holds`). -/

namespace Stencil

namespace Entry

/-- The bytes of the file at a location, if a file is there. -/
def fileAt? (e : Entry) (location : List String) : Option ByteArray :=
  match e.at? location with
  | some (.file bytes) => some bytes
  | _ => none

/-- Whether a directory is at a location. -/
def hasDir (e : Entry) (location : List String) : Bool := (e.at? location).any isDir

theorem fileAt?_of_hasDir {e : Entry} {l : List String} (h : e.hasDir l) : e.fileAt? l = none := by
  unfold hasDir at h
  unfold fileAt?
  cases he : e.at? l with
  | none => rfl
  | some sub =>
    cases sub with
    | file bytes => rw [he] at h; cases h
    | dir entries => rfl

/-- What is at a location is a directory or a file. -/
theorem isSome_at?_iff {e : Entry} {l : List String} :
    (e.at? l).isSome ↔ e.hasDir l ∨ (e.fileAt? l).isSome := by
  unfold hasDir fileAt?
  cases he : e.at? l with
  | none => simp
  | some sub => cases sub <;> simp [isDir]

theorem at?_append (e : Entry) (l m : List String) :
    e.at? (l ++ m) = (e.at? l).bind (·.at? m) := by
  induction l generalizing e with
  | nil => simp [at?]
  | cons name rest ih =>
    cases e with
    | file bytes => simp [at?]
    | dir entries =>
      cases h : entries.lookup name with
      | none => simp [at?, h]
      | some sub => simp [at?, h, ih]

theorem at?_put_cons (entries : List (String × Entry)) (name : String) (rest l : List String)
    (new : Entry) : ((dir entries).put (name :: rest) new).at? (name :: l) =
      (((entries.lookup name).getD (.dir [])).put rest new).at? l := by
  simp [put, at?, lookup_insert]

/-- Away from where an entry is put and from what is below, things are as they were, except that a
directory may be new. -/
theorem at?_put_of_not_prefix {location l : List String} (h : ¬ location <+: l) (e new : Entry) :
    (e.put location new).at? l = e.at? l ∨
      (e.put location new).hasDir l ∧ e.fileAt? l = none := by
  induction location generalizing e l with
  | nil => exact absurd List.nil_prefix h
  | cons name rest ih =>
    cases e with
    | file bytes => exact .inl (by simp [put])
    | dir entries =>
      cases l with
      | nil => exact .inr (by simp [put, hasDir, fileAt?, at?, isDir])
      | cons n l =>
        by_cases hn : n = name
        · subst hn
          have hrest : ¬ rest <+: l := fun hp => h (List.cons_prefix_cons.mpr ⟨rfl, hp⟩)
          simp only [hasDir, fileAt?, at?_put_cons]
          cases hlookup : entries.lookup n with
          | some sub => simpa [at?, hlookup, hasDir, fileAt?] using ih hrest sub
          | none =>
            -- nothing was here: what is found now is a directory that was made on the way
            rcases ih hrest (dir []) with hsame | ⟨hdir, -⟩
            · rw [Option.getD_none, hsame]
              cases l with
              | nil => exact .inr ⟨rfl, by simp [at?, hlookup]⟩
              | cons m l => exact .inl (by simp [at?, hlookup])
            · exact .inr ⟨hdir, by simp [at?, hlookup]⟩
        · exact .inl (by simp [put, at?, lookup_insert, hn])

/-- An entry that is put into a directory is found there with what is below it. -/
theorem at?_put_below {parent : List String} {e : Entry} (h : e.hasDir parent) (name : String)
    (l : List String) (new : Entry) :
    (e.put (parent ++ [name]) new).at? (parent ++ name :: l) = new.at? l := by
  induction parent generalizing e with
  | nil =>
    cases e with
    | file bytes => cases h
    | dir entries => rw [List.nil_append, List.nil_append, at?_put_cons, put]
  | cons n rest ih =>
    cases e with
    | file bytes => cases h
    | dir entries =>
      cases hlookup : entries.lookup n with
      | none => simp [hasDir, at?, hlookup] at h
      | some sub =>
        have hsub : sub.hasDir rest := by simpa [hasDir, at?, hlookup] using h
        simpa [at?_put_cons, hlookup] using ih hsub

/-- Below where an entry is put, there is what the entry has, or nothing has been put. -/
theorem at?_put_append (e new : Entry) (location l : List String) :
    (e.put location new).at? (location ++ l) = new.at? l ∨
      (e.put location new).at? (location ++ l) = e.at? (location ++ l) := by
  induction location generalizing e with
  | nil => exact .inl (by simp [put])
  | cons name rest ih =>
    cases e with
    | file bytes => exact .inr (by simp [put])
    | dir entries =>
      simp only [List.cons_append, at?_put_cons]
      cases hlookup : entries.lookup name with
      | some sub => simpa [at?, hlookup] using ih sub
      | none =>
        rcases ih (dir []) with hnew | hsame
        · exact .inl hnew
        · cases rest with
          | nil => exact .inl (by simp [put])
          | cons n rest => exact .inr (by simpa [at?, hlookup] using hsame)

/-- A new directory changes no file. -/
theorem fileAt?_put_dir {e : Entry} {location : List String} (h : e.at? location = none)
    (l : List String) : (e.put location (.dir [])).fileAt? l = e.fileAt? l := by
  by_cases hp : location <+: l
  · obtain ⟨m, rfl⟩ := hp
    have hold : e.at? (location ++ m) = none := by rw [at?_append, h]; rfl
    unfold fileAt?
    rcases at?_put_append e (.dir []) location m with hnew | hsame
    · rw [hnew, hold]
      cases m <;> simp [at?]
    · rw [hsame]
  · rcases at?_put_of_not_prefix hp e (.dir []) with hsame | ⟨hdir, hfile⟩
    · rw [fileAt?, hsame, fileAt?]
    · rw [fileAt?_of_hasDir hdir, hfile]

/-- A file that is put where no directory is changes no other file. -/
theorem fileAt?_put_file {e : Entry} {parent : List String} {name : String}
    (hparent : e.hasDir parent) (hfree : ¬ e.hasDir (parent ++ [name])) (bytes : ByteArray)
    (l : List String) : (e.put (parent ++ [name]) (.file bytes)).fileAt? l =
      if l = parent ++ [name] then some bytes else e.fileAt? l := by
  by_cases hp : parent ++ [name] <+: l
  · obtain ⟨m, rfl⟩ := hp
    have hput : (e.put (parent ++ [name]) (.file bytes)).at? (parent ++ [name] ++ m) =
        (file bytes).at? m := by
      simpa using at?_put_below hparent name m (.file bytes)
    cases m with
    | nil => simp only [List.append_nil] at hput ⊢; simp [fileAt?, hput, at?]
    | cons n m =>
      have hold : e.fileAt? (parent ++ [name] ++ n :: m) = none := by
        rw [fileAt?, at?_append]
        cases hentry : e.at? (parent ++ [name]) with
        | none => rfl
        | some sub =>
          cases sub with
          | file old => simp [at?]
          | dir entries => exact absurd (by simp [hasDir, hentry, isDir]) hfree
      rw [hold, fileAt?, hput, if_neg (by simp)]
      rfl
  · have hne : l ≠ parent ++ [name] := fun h => hp (h ▸ List.prefix_rfl)
    rw [if_neg hne]
    rcases at?_put_of_not_prefix hp e (.file bytes) with hsame | ⟨hdir, hfile⟩
    · rw [fileAt?, hsame, fileAt?]
    · rw [fileAt?_of_hasDir hdir, hfile]

/-- What is above a directory is a directory. -/
theorem hasDir_of_front {e : Entry} {l m : List String} (h : e.hasDir l) (hm : m <+: l) :
    e.hasDir m := by
  obtain ⟨r, rfl⟩ := hm
  unfold hasDir at h ⊢
  rw [at?_append] at h
  cases hentry : e.at? m with
  | none => rw [hentry] at h; cases h
  | some sub =>
    cases sub with
    | dir entries => rfl
    | file bytes => cases r <;> simp [hentry, at?, isDir] at h

/-- Directories stay where an entry is put at a location that had none. -/
theorem hasDir_put {e : Entry} {location : List String} (hfree : ¬ e.hasDir location) (new : Entry)
    {l : List String} (h : e.hasDir l) : (e.put location new).hasDir l := by
  rcases at?_put_of_not_prefix (fun hp => hfree (hasDir_of_front h hp)) e new with
    hsame | ⟨hdir, -⟩
  · rw [hasDir, hsame]; exact h
  · exact hdir

end Entry

theorem Path.segments_of_isEmpty {p : Path} (h : p.text.isEmpty) : p.segments = [] := by
  have htext : p.text = "" := by simpa using h
  rw [segments, pieces, htext]
  decide

namespace Disk

/-- The bytes of the file at a location of a disk, if a file is there. -/
def fileAt? (d : Disk) (location : List String) : Option ByteArray := d.root.fileAt? location

/-! ### What stays -/

/-- Directories and files of a disk are still directories and files in another one. -/
structure Keeps (d d' : Disk) : Prop where
  here : d'.here = d.here
  dir : ∀ {l}, d.root.hasDir l → d'.root.hasDir l
  file : ∀ {l}, (d.fileAt? l).isSome → (d'.fileAt? l).isSome

namespace Keeps

variable {d d' d'' : Disk}

theorem refl (d : Disk) : d.Keeps d := ⟨rfl, id, id⟩

theorem trans (h : d.Keeps d') (h' : d'.Keeps d'') : d.Keeps d'' :=
  ⟨h'.here.trans h.here, fun hl => h'.dir (h.dir hl), fun hl => h'.file (h.file hl)⟩

theorem isSome_at? (h : d.Keeps d') {l : List String} (hl : (d.root.at? l).isSome) :
    (d'.root.at? l).isSome := by
  rw [Entry.isSome_at?_iff] at hl ⊢
  exact hl.imp h.dir h.file

end Keeps

/-- A segment leads on from a directory: to itself, to the one above, or to what has its name. -/
theorem step_eq_ok {d : Disk} {l l' : List String} {segment : String} :
    d.step l segment = .ok l' ↔ d.root.hasDir l ∧
      if segment = "." then l' = l
      else if segment = ".." then l' = l.dropLast
      else isTooLong segment = false ∧ (d.root.at? (l ++ [segment])).isSome ∧
        l' = l ++ [segment] := by
  unfold step Entry.hasDir
  rw [Entry.at?_append]
  cases he : d.root.at? l with
  | none => simp
  | some e =>
    cases e with
    | file bytes => simp [Entry.isDir]
    | dir entries =>
      have hfound : ((Entry.dir entries).at? [segment]).isSome =
          (entries.lookup segment).isSome := by
        cases h : entries.lookup segment <;> simp [Entry.at?, h]
      simp only [Option.any_some, Entry.isDir, Option.bind_some, hfound, true_and]
      split_ifs with hhere hup hlong hsome
      · simp [eq_comm]
      · simp [eq_comm]
      · simp [hlong]
      · simp [hlong, hsome, eq_comm]
      · simp [hsome]

/-- Where a path leads on a disk, it leads on every disk that keeps what is there. -/
theorem foldlM_step_of_keeps {d d' : Disk} (h : d.Keeps d') {segments : List String}
    {l l' : List String} (hfold : segments.foldlM d.step l = .ok l') :
    segments.foldlM d'.step l = .ok l' := by
  induction segments generalizing l with
  | nil => exact hfold
  | cons segment rest ih =>
    rw [List.foldlM_cons, Outcome.bind_eq_ok] at hfold ⊢
    obtain ⟨m, hstep, hrest⟩ := hfold
    refine ⟨m, ?_, ih hrest⟩
    rw [step_eq_ok] at hstep ⊢
    refine ⟨h.dir hstep.1, ?_⟩
    split_ifs at hstep ⊢
    · exact hstep.2
    · exact hstep.2
    · exact ⟨hstep.2.1, h.isSome_at? hstep.2.2.1, hstep.2.2.2⟩

theorem locate_eq_ok {d : Disk} {p : Path} {l : List String} :
    d.locate p = .ok l ↔ checkPath p = .ok () ∧ p.text.isEmpty = false ∧
      p.segments.foldlM d.step (d.start p) = .ok l ∧ (endsInSlash p → d.root.hasDir l) := by
  unfold locate
  simp only [Outcome.bind_eq_ok, Outcome.guard_eq_ok, Outcome.pure_eq_ok]
  constructor
  · rintro ⟨_, hcheck, hempty, m, hfold, hslash, rfl⟩
    refine ⟨hcheck, by simpa using hempty, hfold, fun hends => ?_⟩
    simpa [hends, Entry.hasDir] using hslash
  · rintro ⟨hcheck, hempty, hfold, hslash⟩
    refine ⟨(), hcheck, by simp [hempty], l, hfold, ?_, rfl⟩
    cases hends : endsInSlash p with
    | false => simp
    | true => simpa [Entry.hasDir] using hslash hends

theorem start_of_keeps {d d' : Disk} (h : d.Keeps d') (p : Path) : d'.start p = d.start p := by
  simp only [start, h.here]

theorem locate_of_keeps {d d' : Disk} (h : d.Keeps d') {p : Path} {l : List String}
    (hl : d.locate p = .ok l) : d'.locate p = .ok l := by
  rw [locate_eq_ok] at hl ⊢
  obtain ⟨hcheck, hempty, hfold, hslash⟩ := hl
  rw [start_of_keeps h]
  exact ⟨hcheck, hempty, foldlM_step_of_keeps h hfold, fun hends => h.dir (hslash hends)⟩

/-! ### Making directories -/

theorem at?_of_step_eq_notFound {d : Disk} {l : List String} {segment : String}
    (h : d.step l segment = .error .notFound) : d.root.at? (l ++ [segment]) = none := by
  unfold step at h
  rw [Entry.at?_append]
  cases he : d.root.at? l with
  | none => rfl
  | some e =>
    rw [he] at h
    cases e with
    | file bytes => cases h
    | dir entries =>
      simp only at h
      split_ifs at h with hhere hup hlong hsome
      · cases h
      · have hnone : entries.lookup segment = none := Option.not_isSome_iff_eq_none.mp hsome
        simp [Entry.at?, hnone]

/-- A step that may make a directory keeps all there is and changes no file. -/
theorem stepMaking_eq_ok {s s' : Disk × List String} {segment : String}
    (h : stepMaking s segment = .ok s') :
    s.1.Keeps s'.1 ∧ ∀ m, s'.1.fileAt? m = s.1.fileAt? m := by
  unfold stepMaking at h
  split at h
  · cases h
    exact ⟨.refl _, fun m => rfl⟩
  · rename_i hstep
    have hnone := at?_of_step_eq_notFound hstep
    have hfiles := Entry.fileAt?_put_dir hnone
    simp only at h
    split_ifs at h
    cases h
    refine ⟨⟨rfl, fun hl => Entry.hasDir_put ?_ _ hl, fun hl => ?_⟩, hfiles⟩
    · simp [Entry.hasDir, hnone]
    · unfold fileAt? at hl ⊢
      rw [hfiles]
      exact hl
  · cases h

/-- Making directories keeps all there is and changes no file. -/
theorem makeDirs_eq_ok {d d' : Disk} {p : Path} (h : d.makeDirs p = .ok d') :
    d.Keeps d' ∧ ∀ m, d'.fileAt? m = d.fileAt? m := by
  unfold makeDirs at h
  obtain ⟨_, _, h⟩ := Outcome.bind_eq_ok.mp h
  obtain ⟨⟨d₁, l⟩, hfold, h⟩ := Outcome.bind_eq_ok.mp h
  simp only at h
  split_ifs at h
  cases h
  -- what holds of the disk so far, compared with the disk at the start
  let P (s : Disk × List String) : Prop := d.Keeps s.1 ∧ ∀ m, s.1.fileAt? m = d.fileAt? m
  refine Outcome.foldlM_invariant (P := P) (fun segment _ s s' hs hstep => ?_)
    ⟨.refl _, fun m => rfl⟩ hfold
  obtain ⟨hkeeps, hfiles⟩ := stepMaking_eq_ok hstep
  exact ⟨hs.1.trans hkeeps, fun m => (hfiles m).trans (hs.2 m)⟩

/-! ### Writing files -/

/-- A file is written iff its path ends in a name, the directory for it is there, and no directory
is where the file is to be. -/
theorem writeText_iff {d d' : Disk} {p : Path} {text : String} :
    d.writeText p text = .ok d' ↔ checkPath p = .ok () ∧ ∃ parent name,
      p.segments.getLast? = some name ∧ p.segments.dropLast.foldlM d.step (d.start p) = .ok parent ∧
      d.root.hasDir parent ∧ isTooLong name = false ∧
      (name ≠ "." ∧ name ≠ ".." ∧ ¬ endsInSlash p ∧ ¬ d.root.hasDir (parent ++ [name])) ∧
      d' = { d with root := d.root.put (parent ++ [name]) (.file text.toUTF8) } := by
  unfold writeText
  cases hlast : p.segments.getLast? with
  | none => simp [Outcome.bind_eq_ok]
  | some name =>
    simp only [Outcome.bind_eq_ok, Outcome.guard_eq_ok, Outcome.pure_eq_ok, Bool.not_eq_true,
      Bool.not_eq_false', Bool.or_eq_false_iff, decide_eq_false_iff_not, and_assoc]
    constructor
    · rintro ⟨_, hcheck, parent, hparent, hdir, hlong, hhere, hup, hends, hfree, rfl⟩
      exact ⟨hcheck, parent, name, rfl, hparent, hdir, hlong, hhere, hup, hends, hfree, rfl⟩
    · rintro ⟨hcheck, parent, _, hname, hparent, hdir, hlong, hhere, hup, hends, hfree, rfl⟩
      cases hname
      exact ⟨(), hcheck, parent, hparent, hdir, hlong, hhere, hup, hends, hfree, rfl⟩

/-- A file that has been written is where its path leads, and all other files are as they were. -/
theorem writeText_eq_ok {d d' : Disk} {p : Path} {text : String}
    (h : d.writeText p text = .ok d') :
    d.Keeps d' ∧ ∃ l, d'.locate p = .ok l ∧
      ∀ m, d'.fileAt? m = if m = l then some text.toUTF8 else d.fileAt? m := by
  obtain ⟨hcheck, parent, name, hlast, hparent, hdir, hlong, ⟨hhere, hup, hends, hfree⟩, rfl⟩ :=
    writeText_iff.mp h
  have hfiles := Entry.fileAt?_put_file hdir hfree text.toUTF8
  have hkeeps : d.Keeps { d with root := d.root.put (parent ++ [name]) (.file text.toUTF8) } := by
    refine ⟨rfl, fun hl => Entry.hasDir_put hfree _ hl, fun hl => ?_⟩
    unfold fileAt? at hl ⊢
    rw [hfiles]
    split
    · rfl
    · exact hl
  refine ⟨hkeeps, parent ++ [name], locate_eq_ok.mpr ⟨hcheck, ?_, ?_, ?_⟩, hfiles⟩
  · cases hempty : p.text.isEmpty with
    | false => rfl
    | true => rw [Path.segments_of_isEmpty hempty] at hlast; cases hlast
  · rw [start_of_keeps hkeeps, ← List.dropLast_append_getLast? name hlast, List.foldlM_append,
      Outcome.bind_eq_ok]
    refine ⟨parent, foldlM_step_of_keeps hkeeps hparent, ?_⟩
    have hfound : ((d.root.put (parent ++ [name]) (.file text.toUTF8)).at?
        (parent ++ [name])).isSome := by
      rw [Entry.isSome_at?_iff, hfiles, if_pos rfl]
      exact .inr rfl
    rw [List.foldlM_cons, Outcome.bind_eq_ok]
    refine ⟨parent ++ [name], step_eq_ok.mpr ⟨hkeeps.dir hdir, ?_⟩, rfl⟩
    rw [if_neg hhere, if_neg hup]
    exact ⟨hlong, hfound, rfl⟩
  · exact fun h => absurd h hends

/-- Makes the directories above a path. -/
def makeParent (d : Disk) (p : Path) : Except IoError Disk :=
  match p.parent? with
  | some parent => d.makeDirs parent
  | none => .ok d

/-- Writes a file, given by its path and its text, and makes the directories above it. -/
def writeFile (d : Disk) (f : Path × String) : Except IoError Disk := do
  (← d.makeParent f.1).writeText f.1 f.2

/-- Writes files one after another. -/
def writeAll (d : Disk) (files : List (Path × String)) : Except IoError Disk :=
  files.foldlM writeFile d

/-- The text that was last written to a location, by where paths lead on the disk. -/
def lastAt? (d : Disk) (files : List (Path × String)) (location : List String) : Option String :=
  (files.reverse.find? fun f => (d.locate f.1).toOption = some location).map (·.2)

/-- What a disk is like after files have been written: every path leads to a location, and the file
at a location is the one that was last written there, or else the one that was there before. -/
structure Holds (d : Disk) (files : List (Path × String)) (d' : Disk) : Prop where
  found : ∀ f ∈ files, ∃ location, d'.locate f.1 = .ok location
  fileAt : ∀ location, d'.fileAt? location =
    ((d'.lastAt? files location).map String.toUTF8).or (d.fileAt? location)

theorem writeFile_eq_ok {d d' : Disk} {f : Path × String} (h : d.writeFile f = .ok d') :
    d.Keeps d' ∧ ∃ l, d'.locate f.1 = .ok l ∧
      ∀ m, d'.fileAt? m = if m = l then some f.2.toUTF8 else d.fileAt? m := by
  unfold writeFile at h
  obtain ⟨d₁, hdirs, htext⟩ := Outcome.bind_eq_ok.mp h
  have hmade : d.Keeps d₁ ∧ ∀ m, d₁.fileAt? m = d.fileAt? m := by
    unfold makeParent at hdirs
    split at hdirs
    · exact makeDirs_eq_ok hdirs
    · cases hdirs
      exact ⟨.refl _, fun m => rfl⟩
  obtain ⟨hkeeps, l, hlocate, hfiles⟩ := writeText_eq_ok htext
  refine ⟨hmade.1.trans hkeeps, l, hlocate, fun m => ?_⟩
  rw [hfiles, hmade.2]

/-- One more file: it is what its location holds, and the others are where they were. -/
theorem Holds.snoc {d d₁ d₂ : Disk} {files : List (Path × String)} {f : Path × String}
    (h : d.Holds files d₁) (hwrite : d₁.writeFile f = .ok d₂) : d.Holds (files ++ [f]) d₂ := by
  obtain ⟨hkeeps, l, hlocate, hfiles⟩ := writeFile_eq_ok hwrite
  constructor
  · intro g hg
    rcases List.mem_append.mp hg with hg | hg
    · obtain ⟨m, hm⟩ := h.found g hg
      exact ⟨m, locate_of_keeps hkeeps hm⟩
    · rw [List.mem_singleton.mp hg]
      exact ⟨l, hlocate⟩
  · intro m
    -- the files from before are still found at the same locations
    have hlast : d₂.lastAt? files m = d₁.lastAt? files m := by
      unfold lastAt?
      congr 1
      refine List.find?_congr fun g hg => ?_
      obtain ⟨n, hn⟩ := h.found g (List.mem_reverse.mp hg)
      rw [hn, locate_of_keeps hkeeps hn]
    have hsnoc : d₂.lastAt? (files ++ [f]) m =
        if m = l then some f.2 else d₂.lastAt? files m := by
      simp only [lastAt?, List.reverse_append, List.reverse_singleton, List.singleton_append,
        List.find?_cons, hlocate, Except.toOption, Option.some.injEq, eq_comm (a := l)]
      split_ifs with hm <;> simp [hm]
    rw [hfiles, hsnoc, h.fileAt, hlast]
    split_ifs with hm
    · rfl
    · rfl

theorem writeAll_append {d d' : Disk} {files more : List (Path × String)} :
    d.writeAll (files ++ more) = .ok d' ↔
      ∃ d₁, d.writeAll files = .ok d₁ ∧ d₁.writeAll more = .ok d' := by
  rw [writeAll, List.foldlM_append, Outcome.bind_eq_ok]
  rfl

theorem Holds.append_of_writeAll {d d₁ d₂ : Disk} {files more : List (Path × String)}
    (h : d.Holds files d₁) (hwrite : d₁.writeAll more = .ok d₂) : d.Holds (files ++ more) d₂ := by
  induction more generalizing d₁ files with
  | nil =>
    cases hwrite
    rwa [List.append_nil]
  | cons f more ih =>
    obtain ⟨d₃, hfirst, hrest⟩ := Outcome.bind_eq_ok.mp hwrite
    rw [List.append_cons]
    exact ih (h.snoc hfirst) hrest

/-- What has been written is on the disk. -/
theorem holds_of_writeAll {d d' : Disk} {files : List (Path × String)}
    (h : d.writeAll files = .ok d') : d.Holds files d' :=
  have hnil : d.Holds [] d := ⟨by simp, fun l => by simp [lastAt?]⟩
  hnil.append_of_writeAll h

end Disk

end Stencil
