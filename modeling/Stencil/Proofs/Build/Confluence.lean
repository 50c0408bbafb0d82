import Stencil.Proofs.Build.Containment
import Stencil.Proofs.Files.Exchange

/-! Builds whose jobs may be done in any order.

What a job renders does not depend on the files there are, so another order of the jobs is another
order in which the same files are written. All of them are below one root, so their paths start at
the same place. If they lead to different locations, the files can be written in any order. -/

namespace Stencil

open Run

/-! ### Reports -/

/-- Work that has reported what its result tells, whenever it goes well. -/
def Run.Reports {α : Type} (x : Run α) (f : α → List Record) : Prop :=
  ∀ {w w' : World} {a : α}, x.run w = .ok a w' → w'.log = w.log ++ f a

theorem Run.Reports.mapM {α β : Type} {g : β → Run α} {f : α → List Record} {bs : List β}
    (h : ∀ b ∈ bs, (g b).Reports f) : (bs.mapM g).Reports (·.flatMap f) := by
  induction bs with
  | nil =>
    intro w w' as hrun
    cases hrun
    simp
  | cons b bs ih =>
    intro w w' as hrun
    rw [List.forall_mem_cons] at h
    rw [List.mapM_cons] at hrun
    obtain ⟨a, w₁, hfirst, hrun⟩ := bind_eq_ok.mp hrun
    obtain ⟨rest, w₂, hrest, hpure⟩ := bind_eq_ok.mp hrun
    cases hpure
    rw [ih h.2 hrest, h.1 hfirst, List.append_assoc]
    rfl

namespace Job

/-- The report that a file is written. -/
def generating (path : Path) : Record := .info ("Generating output for " ++ path.text ++ "...")

theorem reports_writeElement (j : Job) (root : Path) (element : Value) :
    (j.writeElement root element).Reports ([generating ·]) := by
  intro w w' path hrun
  rw [writeElement_run] at hrun
  split at hrun
  · cases hrun
  · split at hrun
    · cases hrun
    · split at hrun
      · cases hrun
      · cases hrun
        rfl

theorem reports_run (j : Job) (root : Path) : (j.run root).Reports (·.map generating) := by
  intro w w' paths hrun
  obtain ⟨es, w₁, hfound, hwrite⟩ := bind_eq_ok.mp hrun
  obtain ⟨-, rfl⟩ := ofExcept_eq_ok.mp hfound
  rw [Reports.mapM (fun e _ => j.reports_writeElement root e) hwrite]
  simp only [List.map_eq_flatMap]

theorem log_of_mapM_run {jobs : List Job} {root : Path} {w w' : World} {lists : List (List Path)}
    (h : (jobs.mapM (Job.run · root)).run w = .ok lists w') :
    w'.log = w.log ++ lists.flatten.map generating := by
  rw [Reports.mapM (fun j _ => j.reports_run root) h]
  simp only [List.map_flatten, List.flatMap_def]

/-! ### Files -/

theorem isAbsolute_of_file {j : Job} {root : Path} {element : Value} {f : Path × String}
    (h : j.file root element = .ok f) : f.1.isAbsolute = root.isAbsolute := by
  unfold file at h
  simp only [Outcome.bind_eq_ok, Outcome.pure_eq_ok] at h
  obtain ⟨relative, -, contents, -, rfl⟩ := h
  dsimp only
  rw [Path.isAbsolute_join (isAbsolute_trimSlashes relative)]

end Job

theorem isAbsolute_of_renderAll {root : Path} {cells : List Cell} {files : List (Path × String)}
    (h : renderAll root cells = .ok files) : ∀ f ∈ files, f.1.isAbsolute = root.isAbsolute := by
  intro f hf
  obtain ⟨c, -, hc⟩ := Outcome.exists_of_mem_mapM h hf
  exact Job.isAbsolute_of_file hc

/-- Files of one root that lead to different locations, once they are written, are written to
different places from the same start. -/
theorem pairwise_of_writeAll {root : Path} {cells : List Cell} {files : List (Path × String)}
    (hfiles : renderAll root cells = .ok files) {d d' : Disk} (hwrite : d.writeAll files = .ok d')
    (h : (files.map (·.1)).Pairwise fun a b => d'.locate a ≠ d'.locate b) :
    files.Pairwise fun f g => d.start f.1 = d.start g.1 ∧ d.goal f.1 ≠ d.goal g.1 := by
  have habsolute := isAbsolute_of_renderAll hfiles
  have hlocate : ∀ f ∈ files, d'.locate f.1 = .ok (d.goal f.1) := by
    intro f hf
    obtain ⟨l, hl⟩ := (Disk.holds_of_writeAll hwrite).found f hf
    rw [hl, Disk.eq_goal_of_locate hl, Disk.goal, Disk.start, Disk.here_of_writeAll hwrite]
    rfl
  refine (List.pairwise_map.mp h).imp_of_mem fun {f g} hf hg hne => ⟨?_, fun heq => hne ?_⟩
  · rw [Disk.start, Disk.start, habsolute f hf, habsolute g hg]
  · rw [hlocate f hf, hlocate g hg, heq]

/-- The jobs of a build that has been rendered, to different files, can be done in any order: that
goes well, too, leaves the same disk, and gives and reports the same paths, but for their order. -/
theorem Prepared.render_confluent {p : Prepared} {definitions : List (String × Value)}
    {w w' : World} {paths : List Path} (hcontexts : p.contexts = .ok definitions)
    (hrender : p.render.run w = .ok paths w')
    (hdistinct : paths.Pairwise fun a b => w'.disk.locate a ≠ w'.disk.locate b)
    {jobs : List Job} (hperm : jobs.Perm (p.jobs definitions)) :
    ∃ lists w'', (jobs.mapM (Job.run · p.output)).run w = .ok lists w'' ∧ w''.disk = w'.disk ∧
      lists.flatten.Perm paths ∧ w''.log.Perm w'.log := by
  obtain ⟨_, w₁, hfound, hrest⟩ := bind_eq_ok.mp hrender
  obtain ⟨hdefinitions, rfl⟩ := ofExcept_eq_ok.mp hfound
  cases hcontexts.symm.trans hdefinitions
  obtain ⟨lists, w₂, hlists, hpure⟩ := bind_eq_ok.mp hrest
  cases hpure
  obtain ⟨helements, files, hfiles, hpaths, hwrite⟩ :=
    Job.mapM_run_gives.mp ⟨lists, ⟨w', hlists, rfl⟩, rfl⟩
  -- the jobs in their other order render the same files, in another order
  obtain ⟨files', hfiles', hsame⟩ :=
    Outcome.exists_mapM_of_perm (hperm.flatMap_right Job.cells) hfiles
  have hwrite' := Disk.writeAll_of_perm hsame.symm hwrite
    (pairwise_of_writeAll hfiles hwrite (hpaths ▸ hdistinct))
  obtain ⟨lists', ⟨w'', hrun, hdisk⟩, hpaths'⟩ := Job.mapM_run_gives.mpr
    ⟨fun j hj => helements j (hperm.mem_iff.mp hj), files', hfiles', rfl, hwrite'⟩
  have hflatten : lists'.flatten.Perm lists.flatten := by
    rw [← hpaths', hpaths]
    exact hsame.map _
  refine ⟨lists', w'', hrun, hdisk, hflatten, ?_⟩
  rw [Job.log_of_mapM_run hrun, Job.log_of_mapM_run hlists]
  exact (hflatten.map _).append_left _

/-- A build that writes two files with fixed paths, one of them into a directory of its own. -/
def handouts : Prepared where
  targets := [(Job.fixed "a.txt").target, (Job.fixed "lib/b.txt").target]
  definitions := [{
    name := "Shop", nameSpace := none, options := [], enums := [], contracts := [], services := []
    extensions := [], models := [] }]
  augmentations := 0
  output := ⟨"out"⟩

theorem handouts_gives : ∃ d, handouts.render.Gives blank [⟨"out/a.txt"⟩, ⟨"out/lib/b.txt"⟩] d ∧
    d.locate ⟨"out/a.txt"⟩ ≠ d.locate ⟨"out/lib/b.txt"⟩ := by
  obtain ⟨v, hcontexts, hv⟩ : ∃ v, handouts.contexts = .ok [("Shop", v)] ∧ v.elements = [v] :=
    ⟨_, rfl, rfl⟩
  let job (path : String) : Job :=
    { Job.fixed path with definitionName := "Shop", definition := v }
  have hjobs : handouts.jobs [("Shop", v)] = [job "a.txt", job "lib/b.txt"] := rfl
  have helements (path : String) : (job path).elements = .ok [v] := congrArg Except.ok hv
  have hcells : handouts.cells [("Shop", v)] = [⟨job "a.txt", v⟩, ⟨job "lib/b.txt", v⟩] := by
    rw [Prepared.cells_eq_flatMap_jobs, hjobs]
    simp [Job.cells, (Job.elements_eq_ok (helements _)).2.1]
  have hfile (path : String) (h : Text.trim path ≠ "") : (job path).file ⟨"out"⟩ v =
      .ok (Path.join ⟨"out"⟩ (Job.trimSlashes (Text.trim path)), "a model") :=
    Job.file_of_rendered (j := job path) (Job.renderPath_fixed path h _)
      (Job.renderContents_fixed path _) _
  let files : List (Path × String) :=
    [(⟨"out/a.txt"⟩, "a model"), (⟨"out/lib/b.txt"⟩, "a model")]
  have hfiles : renderAll handouts.output (handouts.cells [("Shop", v)]) = .ok files := by
    have hfirst := hfile "a.txt" (by decide)
    have hsecond := hfile "lib/b.txt" (by decide)
    rw [show Path.join ⟨"out"⟩ (Job.trimSlashes (Text.trim "a.txt")) = ⟨"out/a.txt"⟩ by
      decide] at hfirst
    rw [show Path.join ⟨"out"⟩ (Job.trimSlashes (Text.trim "lib/b.txt")) = ⟨"out/lib/b.txt"⟩ by
      decide] at hsecond
    rw [hcells]
    exact renderAll_cons.mpr ⟨_, _, hfirst, renderAll_cons.mpr ⟨_, _, hsecond, rfl, rfl⟩, rfl⟩
  have hwritten : (blank.disk.writeAll files).toOption.map (fun d =>
      (d.locate ⟨"out/a.txt"⟩).toOption = (d.locate ⟨"out/lib/b.txt"⟩).toOption : Disk → Bool) =
        some false := by decide
  cases hd : blank.disk.writeAll files with
  | error cause => rw [hd] at hwritten; cases hwritten
  | ok d =>
    rw [hd] at hwritten
    refine ⟨d, Prepared.render_gives.mpr ⟨_, hcontexts, ?_, files, hfiles, rfl, hd⟩, fun heq => ?_⟩
    · rw [hjobs]
      simp only [List.forall_mem_cons]
      exact ⟨⟨_, helements _⟩, ⟨_, helements _⟩, by simp⟩
    · simp [Except.toOption, heq] at hwritten

theorem handouts_confluent : ∃ definitions w', handouts.contexts = .ok definitions ∧
    handouts.render.run blank = .ok [⟨"out/a.txt"⟩, ⟨"out/lib/b.txt"⟩] w' ∧
    ∃ lists w'', ((handouts.jobs definitions).reverse.mapM (Job.run · handouts.output)).run blank =
        .ok lists w'' ∧ w''.disk = w'.disk ∧
      lists.flatten.Perm [⟨"out/a.txt"⟩, ⟨"out/lib/b.txt"⟩] ∧ w''.log.Perm w'.log := by
  obtain ⟨d, ⟨w', hrender, rfl⟩, hne⟩ := handouts_gives
  obtain ⟨definitions, hcontexts⟩ : ∃ definitions, handouts.contexts = .ok definitions := ⟨_, rfl⟩
  exact ⟨definitions, w', hcontexts, hrender, Prepared.render_confluent hcontexts hrender
    (by simpa using hne) (List.reverse_perm _)⟩

end Stencil
