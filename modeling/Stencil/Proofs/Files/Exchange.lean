import Stencil.Proofs.Files.Making

/-! Files that may be written in any order.

Two files at different locations can change places: if one can be written and then the other, the
other can be written first, and the disk is the same in the end. For nothing that is written is in
the way of what is written next, and entries of a directory are kept in order of their names. So
files at different locations can be written in any order (`Disk.writeAll_of_perm`). -/

namespace Stencil

namespace Entry

/-! ### Entries that are put one after another -/

theorem insert_comm (entries : List (String × Entry)) {a b : String} (h : a ≠ b) (x y : Entry) :
    insert (insert entries a x) b y = insert (insert entries b y) a x := by
  induction entries with
  | nil => grind [insert]
  | cons entry entries ih => grind [insert]

theorem insert_insert (entries : List (String × Entry)) (a : String) (x y : Entry) :
    insert (insert entries a x) a y = insert entries a y := by
  induction entries with
  | nil => simp [insert]
  | cons entry entries ih => grind [insert]

/-- Entries are put in any order at locations of which none is above the other. -/
theorem put_comm {l m : List String} (hl : ¬ l <+: m) (hm : ¬ m <+: l) (e x y : Entry) :
    (e.put l x).put m y = (e.put m y).put l x := by
  induction l generalizing e m with
  | nil => exact absurd List.nil_prefix hl
  | cons n l ih =>
    cases m with
    | nil => exact absurd List.nil_prefix hm
    | cons k m =>
      cases e with
      | file bytes => rfl
      | dir entries =>
        by_cases hn : n = k
        · subst hn
          simp only [put, lookup_insert, insert_insert, if_true, Option.getD_some]
          rw [ih (fun h => hl (List.cons_prefix_cons.mpr ⟨rfl, h⟩))
            (fun h => hm (List.cons_prefix_cons.mpr ⟨rfl, h⟩))]
        · simp only [put, lookup_insert, if_neg hn, if_neg (Ne.symm hn)]
          rw [insert_comm _ hn]

/-- To put an entry below a new directory is to put it where the directory is yet to be made. -/
theorem put_put_below {e : Entry} {l : List String} (h : e.at? l = none) (n : String)
    (m : List String) (x : Entry) :
    (e.put l (.dir [])).put (l ++ n :: m) x = e.put (l ++ n :: m) x := by
  induction l generalizing e with
  | nil => cases h
  | cons k l ih =>
    cases e with
    | file bytes => rfl
    | dir entries =>
      simp only [put, List.cons_append, lookup_insert, insert_insert, if_true, Option.getD_some]
      congr 2
      cases hlookup : entries.lookup k with
      | some sub => exact ih (by simpa [at?, hlookup] using h)
      | none =>
        cases l with
        | nil => rfl
        | cons j l => exact ih rfl

/-! ### Directories that are made one after another -/

variable {e : Entry} {l m : List String}

/-- To make a directory is to make the ones above it, too. -/
theorem makeDir_makeDir_of_front (hl : l <+: m) (hm : e.Clear m) :
    (e.makeDir l).makeDir m = e.makeDir m ∧ (e.makeDir m).makeDir l = e.makeDir m := by
  refine ⟨?_, makeDir_of_hasDir ((hasDir_makeDir_iff hm).mpr (.inr hl))⟩
  obtain ⟨r, rfl⟩ := hl
  cases r with
  | nil =>
    rw [List.append_nil] at hm ⊢
    exact makeDir_of_hasDir (hasDir_makeDir_self hm)
  | cons n r =>
    cases hnone : e.at? l with
    | some sub => rw [show e.makeDir l = e from if_pos (by simp [hnone])]
    | none =>
      have hbelow : e.at? (l ++ n :: r) = none := by rw [at?_append, hnone]; rfl
      have hstill : (e.put l (.dir [])).at? (l ++ n :: r) = none := by
        rcases at?_put_append e (.dir []) l (n :: r) with hnew | hsame
        · exact hnew
        · rw [hsame, hbelow]
      simp only [makeDir, hnone, hbelow, hstill, Option.isSome_none, Bool.false_eq_true, if_false]
      exact put_put_below hnone n r _

theorem makeDir_comm (hl : e.Clear l) (hm : e.Clear m) :
    (e.makeDir l).makeDir m = (e.makeDir m).makeDir l := by
  by_cases hlm : l <+: m
  · obtain ⟨hfirst, hlast⟩ := makeDir_makeDir_of_front hlm hm
    rw [hfirst, hlast]
  · by_cases hml : m <+: l
    · obtain ⟨hfirst, hlast⟩ := makeDir_makeDir_of_front hml hl
      rw [hfirst, hlast]
    · -- neither directory is above the other: whether one is there does not depend on the other
      have hl := at?_put_of_apart hlm hml e (.dir [])
      have hm := at?_put_of_apart hml hlm e (.dir [])
      cases hfound : (e.at? l).isSome <;> cases hfound' : (e.at? m).isSome <;>
        simp [makeDir, hfound, hfound', hl, hm, put_comm hlm hml]

theorem makeAll_makeDir {ls : List (List String)} (hm : e.Clear m) (h : ∀ l ∈ ls, e.Clear l) :
    (e.makeDir m).makeAll ls = (e.makeAll ls).makeDir m := by
  induction ls generalizing e with
  | nil => rfl
  | cons l ls ih =>
    rw [List.forall_mem_cons] at h
    have hcomm := makeDir_comm hm h.1
    have hrest := ih (e := e.makeDir l) (clear_makeDir.mpr hm)
      fun k hk => clear_makeDir.mpr (h.2 k hk)
    simp only [makeAll, List.foldl_cons] at hrest ⊢
    rw [hcomm, hrest]

theorem makeAll_comm {ls ms : List (List String)} (hls : ∀ l ∈ ls, e.Clear l)
    (hms : ∀ m ∈ ms, e.Clear m) : (e.makeAll ls).makeAll ms = (e.makeAll ms).makeAll ls := by
  induction ls generalizing e with
  | nil => rfl
  | cons l ls ih =>
    rw [List.forall_mem_cons] at hls
    have hstep := makeAll_makeDir hls.1 hms
    have hrest := ih (e := e.makeDir l) (fun k hk => clear_makeDir.mpr (hls.2 k hk))
      fun k hk => clear_makeDir.mpr (hms k hk)
    rw [hstep] at hrest
    exact hrest

/-- A directory and a file in another one are put in any order, if the file is not in the way. -/
theorem put_makeDir {parent : List String} {name : String} (hparent : e.hasDir parent)
    (hl : ¬ parent ++ [name] <+: l) (x : Entry) :
    (e.makeDir l).put (parent ++ [name]) x = (e.put (parent ++ [name]) x).makeDir l := by
  by_cases hbelow : l <+: parent ++ [name]
  · have hdir : e.hasDir l := by
      rcases List.prefix_concat_iff.mp hbelow with rfl | hbelow
      · exact absurd List.prefix_rfl hl
      · exact hasDir_of_front hparent hbelow
    have hstill : (e.put (parent ++ [name]) x).hasDir l := by
      rcases at?_put_of_not_prefix hl e x with hsame | ⟨hnew, -⟩
      · rwa [hasDir, hsame]
      · exact hnew
    rw [makeDir_of_hasDir hdir, makeDir_of_hasDir hstill]
  · have hsame := at?_put_of_apart hl hbelow e x
    unfold makeDir
    rw [hsame]
    split
    · rfl
    · exact put_comm hbelow hl ..

theorem put_makeAll {parent : List String} {name : String} {ls : List (List String)}
    (hparent : e.hasDir parent) (hls : ∀ l ∈ ls, ¬ parent ++ [name] <+: l) (x : Entry) :
    (e.makeAll ls).put (parent ++ [name]) x = (e.put (parent ++ [name]) x).makeAll ls := by
  induction ls generalizing e with
  | nil => rfl
  | cons l ls ih =>
    rw [List.forall_mem_cons] at hls
    have hrest := ih (hasDir_makeDir hparent l) hls.2
    rw [put_makeDir hparent hls.1] at hrest
    exact hrest

end Entry

namespace Disk

open Stencil.Path

/-! ### Files that are written one after another -/

/-- A location that is no directory, and is not above the directories that a file is to have, is not
above the file, either. -/
theorem HasRoom.not_above {d : Disk} {q : Path} {name : String} (h : d.HasRoom q name)
    {l : List String} (hfree : ¬ d.root.hasDir l) (hapart : ∀ m ∈ d.visits q, ¬ l <+: m)
    (hne : l ≠ d.goal q ++ [name]) : ¬ l <+: d.goal q ++ [name] := by
  rw [List.prefix_concat_iff]
  rintro (heq | hbelow)
  · exact hne heq
  · rcases h.hasDir_withDirs_iff.mp (Entry.hasDir_of_front h.hasDir_goal hbelow) with
      hdir | ⟨m, hm, hlm⟩
    · exact hfree hdir
    · exact hapart m hm hlm

/-- If a disk has room for a file and then for another one, it has room for the other one first, and
ends up the same. -/
theorem HasRoom.swap {d : Disk} {q r : Path} {a b : String} (x y : ByteArray)
    (hq : d.HasRoom q a) (hr : (d.withFile q a x).HasRoom r b) (hstart : d.start q = d.start r)
    (hne : d.goal q ++ [a] ≠ d.goal r ++ [b]) :
    d.HasRoom r b ∧ (d.withFile r b y).HasRoom q a ∧
      (d.withFile r b y).withFile q a x = (d.withFile q a x).withFile r b y := by
  obtain ⟨-, hclear, hfree, hbeside⟩ := hr
  simp only [visits_withFile, goal_withFile] at hclear hfree hbeside
  have hroom : d.HasRoom r b := by
    refine ⟨hstart ▸ hq.start, fun m hm k hk => ?_, fun hdir => ?_, hbeside⟩
    · have hnone := hclear m hm k hk
      rw [hq.fileAt?_withFile] at hnone
      split_ifs at hnone
      exact hnone
    · exact hfree ((hq.hasDir_withFile_iff x).mpr (.inl hdir))
  -- neither file is in the way of the directories of the other
  have hq_apart : ∀ m ∈ d.visits r, ¬ d.goal q ++ [a] <+: m := by
    intro m hm hbelow
    have hnone := hclear m hm _ hbelow
    rw [hq.fileAt?_withFile, if_pos rfl] at hnone
    cases hnone
  have hr_apart : ∀ m ∈ d.visits q, ¬ d.goal r ++ [b] <+: m := by
    intro m hm hbelow
    exact hfree ((hq.hasDir_withFile_iff x).mpr (.inr ⟨m, hm, hbelow⟩))
  have hroom' : (d.withFile r b y).HasRoom q a := by
    constructor
    · rw [start_withFile, hroom.hasDir_withFile_iff]
      exact .inl hq.start
    · intro m hm k hk
      rw [hroom.fileAt?_withFile, if_neg]
      · exact hq.clear m hm k hk
      · rintro rfl
        exact hr_apart m hm hk
    · rw [goal_withFile, hroom.hasDir_withFile_iff]
      rintro (hdir | ⟨m, hm, hbelow⟩)
      · exact hq.free hdir
      · exact hq_apart m hm hbelow
    · exact hq.apart
  refine ⟨hroom, hroom', congrArg (Disk.mk · d.here) ?_⟩
  have hq_above := hroom.not_above hq.free hq_apart hne
  have hr_above := hq.not_above hroom.free hr_apart hne.symm
  have hdirs : (d.withDirs r).root.makeAll (d.visits q) = (d.withDirs q).root.makeAll (d.visits r) :=
    Entry.makeAll_comm hroom.clear hq.clear
  calc (((d.withDirs r).root.put (d.goal r ++ [b]) (.file y)).makeAll (d.visits q)).put
        (d.goal q ++ [a]) (.file x)
    _ = (((d.withDirs r).root.makeAll (d.visits q)).put (d.goal r ++ [b]) (.file y)).put
        (d.goal q ++ [a]) (.file x) := by rw [Entry.put_makeAll hroom.hasDir_goal hr_apart]
    _ = (((d.withDirs q).root.makeAll (d.visits r)).put (d.goal q ++ [a]) (.file x)).put
        (d.goal r ++ [b]) (.file y) := by rw [hdirs, Entry.put_comm hr_above hq_above]
    _ = (((d.withDirs q).root.put (d.goal q ++ [a]) (.file x)).makeAll (d.visits r)).put
        (d.goal r ++ [b]) (.file y) := by rw [Entry.put_makeAll hq.hasDir_goal hq_apart]

/-- Two files at different locations can change places. -/
theorem writeFile_swap {d d₁ d₂ : Disk} {f g : Path × String} (hf : d.writeFile f = .ok d₁)
    (hg : d₁.writeFile g = .ok d₂) (hstart : d.start f.1 = d.start g.1)
    (hne : d.goal f.1 ≠ d.goal g.1) :
    ∃ d', d.writeFile g = .ok d' ∧ d'.writeFile f = .ok d₂ := by
  obtain ⟨q, a, hq, hroom, rfl⟩ := writeFile_iff.mp hf
  obtain ⟨r, b, hr, hroom', rfl⟩ := writeFile_iff.mp hg
  rw [hq.start_eq, hr.start_eq] at hstart
  rw [hq.goal_eq, hr.goal_eq] at hne
  obtain ⟨hfirst, hlast, hsame⟩ :=
    hroom.swap f.2.toUTF8 g.2.toUTF8 hroom' hstart hne
  exact ⟨_, writeFile_iff.mpr ⟨r, b, hr, hfirst, rfl⟩,
    writeFile_iff.mpr ⟨q, a, hq, hlast, hsame.symm⟩⟩

theorem here_of_writeAll {d d' : Disk} {files : List (Path × String)}
    (h : d.writeAll files = .ok d') : d'.here = d.here := by
  let P (s : Disk) : Prop := s.here = d.here
  refine Outcome.foldlM_invariant (P := P) (fun f _ s s' hs hstep => ?_) rfl h
  exact (writeFile_eq_ok hstep).1.here.trans hs

theorem eq_goal_of_locate {d : Disk} {p : Path} {l : List String} (h : d.locate p = .ok l) :
    l = d.goal p :=
  eq_foldl_advance (locate_eq_ok.mp h).2.2.1

/-- Files at different locations, with paths that start at the same place, can be written in any
order. -/
theorem writeAll_of_perm {files files' : List (Path × String)} (hperm : files.Perm files')
    {d d' : Disk} (hwrite : d.writeAll files = .ok d')
    (h : files.Pairwise fun f g => d.start f.1 = d.start g.1 ∧ d.goal f.1 ≠ d.goal g.1) :
    d.writeAll files' = .ok d' := by
  induction hperm generalizing d with
  | nil => exact hwrite
  | cons f _ ih =>
    obtain ⟨d₁, hfirst, hrest⟩ := Outcome.bind_eq_ok.mp hwrite
    -- the working directory stays, and with it where paths start and lead
    have hhere : d₁.here = d.here := (writeFile_eq_ok hfirst).1.here
    refine Outcome.bind_eq_ok.mpr ⟨d₁, hfirst, ih hrest ?_⟩
    simpa only [goal, start, hhere] using h.of_cons
  | swap g f files =>
    obtain ⟨d₁, hfirst, hrest⟩ := Outcome.bind_eq_ok.mp hwrite
    obtain ⟨d₂, hsecond, hrest⟩ := Outcome.bind_eq_ok.mp hrest
    obtain ⟨hstart, hne⟩ := List.rel_of_pairwise_cons h (List.mem_cons_self ..)
    obtain ⟨d₁', hfirst', hsecond'⟩ := writeFile_swap hfirst hsecond hstart hne
    exact Outcome.bind_eq_ok.mpr ⟨d₁', hfirst', Outcome.bind_eq_ok.mpr ⟨d₂, hsecond', hrest⟩⟩
  | trans hfirst _ ih ih' =>
    exact ih' (ih hwrite h) (h.perm hfirst fun hfg => ⟨hfg.1.symm, hfg.2.symm⟩)

end Disk

end Stencil
