import Mathlib.Algebra.GroupWithZero.Nat
import Stencil.Build.Job
import Stencil.Proofs.Build.Looking
import Stencil.Proofs.Files.Writing
import Stencil.Proofs.Target.Registering

/-! What rendering a build writes.

A build has a cell for each target, output, definition and element. Rendering goes well iff the
files of all cells can be rendered and the disk takes them one after another, in the order of the
cells. This is shown for one element, then for the elements of a job, the jobs of a build and the
build. -/

namespace Stencil

open Run

/-- A file that a build is to write: an output of a target, for an element of a definition. -/
structure Cell where
  job : Job
  element : Value

/-- The path below `root` and the text of the file of a cell. -/
def Cell.file (c : Cell) (root : Path) : Except Error (Path × String) := c.job.file root c.element

/-- The files of cells, one for each. -/
def renderAll (root : Path) (cells : List Cell) : Except Error (List (Path × String)) :=
  cells.mapM (Cell.file · root)

theorem renderAll_nil {root : Path} {files : List (Path × String)} :
    renderAll root [] = .ok files ↔ files = [] := by
  rw [renderAll, List.mapM_nil, Outcome.pure_eq_ok]

theorem renderAll_cons {root : Path} {c : Cell} {cells : List Cell} {files : List (Path × String)} :
    renderAll root (c :: cells) = .ok files ↔
      ∃ f rest, c.file root = .ok f ∧ renderAll root cells = .ok rest ∧ files = f :: rest := by
  simp only [renderAll, List.mapM_cons, Outcome.bind_eq_ok, Outcome.pure_eq_ok]
  constructor
  · rintro ⟨f, hf, rest, hrest, rfl⟩; exact ⟨f, rest, hf, hrest, rfl⟩
  · rintro ⟨f, rest, hf, hrest, rfl⟩; exact ⟨f, hf, rest, hrest, rfl⟩

theorem renderAll_append {root : Path} {cells more : List Cell} {files : List (Path × String)} :
    renderAll root (cells ++ more) = .ok files ↔ ∃ first rest,
      renderAll root cells = .ok first ∧ renderAll root more = .ok rest ∧ files = first ++ rest := by
  simp only [renderAll, List.mapM_append, Outcome.bind_eq_ok, Outcome.pure_eq_ok]
  constructor
  · rintro ⟨first, hfirst, rest, hrest, rfl⟩; exact ⟨first, rest, hfirst, hrest, rfl⟩
  · rintro ⟨first, rest, hfirst, hrest, rfl⟩; exact ⟨first, hfirst, rest, hrest, rfl⟩

theorem renderAll_of_forall {root : Path} {f : Path × String} : ∀ {cells : List Cell},
    (∀ c ∈ cells, c.file root = .ok f) → renderAll root cells = .ok (.replicate cells.length f)
  | [], _ => rfl
  | c :: cells, h => by
    refine renderAll_cons.mpr ⟨f, _, h c (List.mem_cons_self ..), ?_, List.replicate_succ⟩
    exact renderAll_of_forall fun c hc => h c (List.mem_cons_of_mem _ hc)

namespace Job

/-- The elements of the part of the definition that the output is for. -/
def fanOut (j : Job) : List Value :=
  match Value.resolve j.definitionName j.definition j.output.context with
  | .ok v => v.elements
  | .error _ => []

/-- The cells of a job, one for each element. -/
def cells (j : Job) : List Cell := j.fanOut.map (Cell.mk j)

theorem elements_eq_ok {j : Job} {es : List Value} (h : j.elements = .ok es) :
    j.target.hasTemplate j.output.templateName ∧ j.fanOut = es ∧
      ∃ v, Value.resolve j.definitionName j.definition j.output.context = .ok v := by
  unfold elements at h
  rw [Outcome.guard_eq_ok, Outcome.bind_eq_ok] at h
  obtain ⟨htemplate, v, hv, hpure⟩ := h
  rw [Outcome.pure_eq_ok] at hpure
  refine ⟨by simpa using htemplate, ?_, v, hv⟩
  rw [fanOut, hv, hpure]

/-- The report that is made before a file is written. -/
def announce (w : World) (path : Path) : World :=
  { w with log := w.log ++ [.info ("Generating output for " ++ path.text ++ "...")] }

theorem file_of_rendered {j : Job} {element : Value} {relative contents : String}
    (hpath : j.target.renderPath j.index j.output (j.target.context element j.definition) =
      .ok relative)
    (hcontents : j.target.renderContents j.output (j.target.context element j.definition) =
      .ok contents) (root : Path) :
    j.file root element = .ok (root.join (trimSlashes relative), contents) := by
  simp [file, hpath, hcontents, bind, Except.bind, pure, Except.pure]

/-- What becomes of the world when the file for an element is written. -/
theorem writeElement_run (j : Job) (root : Path) (element : Value) (w : World) :
    (j.writeElement root element).run w =
      match j.file root element with
      | .error e => .error e w
      | .ok f =>
        match w.disk.makeParent f.1 with
        | .error cause => .error (.io cause) (announce w f.1)
        | .ok d =>
          match d.writeText f.1 f.2 with
          | .error cause => .error (.io cause) { announce w f.1 with disk := d }
          | .ok d => .ok f.1 { announce w f.1 with disk := d } := by
  unfold writeElement Disk.makeParent
  cases hfile : j.file root element with
  | error e => rfl
  | ok f =>
    obtain ⟨path, contents⟩ := f
    have hwrite (v : World) : (Run.change (·.writeText path contents) >>= fun _ => pure path).run v =
        match v.disk.writeText path contents with
        | .error cause => .error (.io cause) v
        | .ok d => .ok path { v with disk := d } := by
      rw [EStateM.run_bind, change_run]
      cases v.disk.writeText path contents <;> rfl
    have hfound : Run.ofExcept (.ok (path, contents)) = pure (path, contents) := rfl
    rw [hfound, pure_bind, bind_of_ok (report_run _ w)]
    cases hparent : path.parent? with
    | none =>
      simp only [hparent]
      exact hwrite (announce w path)
    | some parent =>
      have hchange := change_run (·.makeDirs parent) (announce w path)
      simp only [hparent]
      cases hdirs : w.disk.makeDirs parent with
      | error cause => exact bind_of_error (hchange.trans (by simp only [announce, hdirs]))
      | ok d =>
        refine (bind_of_ok (hchange.trans (by simp only [announce, hdirs]; rfl))).trans ?_
        exact hwrite { announce w path with disk := d }

/-- The file for an element is written iff it can be rendered and the disk takes it. -/
theorem writeElement_gives {j : Job} {root path : Path} {element : Value} {w : World} {d : Disk} :
    (j.writeElement root element).Gives w path d ↔
      ∃ f, j.file root element = .ok f ∧ path = f.1 ∧ w.disk.writeFile f = .ok d := by
  unfold Gives Disk.writeFile
  rw [writeElement_run]
  cases hfile : j.file root element with
  | error e => simp
  | ok f =>
    cases hparent : w.disk.makeParent f.1 with
    | error cause => simp [hparent, bind, Except.bind]
    | ok d₁ =>
      cases hwrite : d₁.writeText f.1 f.2 with
      | error cause => simp [hparent, hwrite, bind, Except.bind]
      | ok d₂ => simp [hparent, hwrite, bind, Except.bind, eq_comm]

/-- An element that fails, but not for its file, has changed nothing. -/
theorem writeElement_eq_error {j : Job} {root : Path} {element : Value} {w w' : World} {e : Error}
    (h : (j.writeElement root element).run w = .error e w') (hio : ∀ cause, e ≠ .io cause) :
    j.file root element = .error e ∧ w' = w := by
  rw [writeElement_run] at h
  split at h
  · rename_i hfile
    cases h
    exact ⟨hfile, rfl⟩
  · split at h
    · cases h
      exact absurd rfl (hio _)
    · split at h
      · cases h
        exact absurd rfl (hio _)
      · cases h

/-- The files for elements are written iff all can be rendered and the disk takes them. -/
theorem mapM_writeElement_gives {j : Job} {root : Path} {es : List Value} {w : World}
    {paths : List Path} {d : Disk} : (es.mapM (j.writeElement root)).Gives w paths d ↔
      ∃ files, renderAll root (es.map (Cell.mk j)) = .ok files ∧ paths = files.map (·.1) ∧
        w.disk.writeAll files = .ok d := by
  induction es generalizing w paths with
  | nil =>
    rw [gives_mapM_nil]
    constructor
    · rintro ⟨rfl, rfl⟩; exact ⟨[], rfl, rfl, rfl⟩
    · rintro ⟨files, hfiles, rfl, hwrites⟩
      cases renderAll_nil.mp hfiles
      cases hwrites
      exact ⟨rfl, rfl⟩
  | cons x es ih =>
    rw [gives_mapM_cons]
    constructor
    · rintro ⟨path, w₁, rest, hhead, htail, rfl⟩
      obtain ⟨f, hfile, rfl, hwrite⟩ := writeElement_gives.mp ⟨w₁, hhead, rfl⟩
      obtain ⟨files, hfiles, rfl, hwrites⟩ := ih.mp htail
      exact ⟨f :: files, renderAll_cons.mpr ⟨f, files, hfile, hfiles, rfl⟩, rfl,
        Outcome.bind_eq_ok.mpr ⟨_, hwrite, hwrites⟩⟩
    · rintro ⟨files, hfiles, rfl, hwrites⟩
      obtain ⟨f, rest, hfile, hrest, rfl⟩ := renderAll_cons.mp hfiles
      obtain ⟨d₁, hwrite, hwrites⟩ := Outcome.bind_eq_ok.mp hwrites
      obtain ⟨w₁, hhead, rfl⟩ := writeElement_gives.mpr ⟨f, hfile, rfl, hwrite⟩
      exact ⟨f.1, w₁, _, hhead, ih.mpr ⟨rest, hrest, rfl, hwrites⟩, rfl⟩

/-- A job is done iff its elements are found and their files can be rendered and written. -/
theorem run_gives {j : Job} {root : Path} {w : World} {paths : List Path} {d : Disk} :
    (j.run root).Gives w paths d ↔ (∃ es, j.elements = .ok es) ∧
      ∃ files, renderAll root j.cells = .ok files ∧ paths = files.map (·.1) ∧
        w.disk.writeAll files = .ok d := by
  rw [run, gives_bind]
  constructor
  · rintro ⟨es, w₁, hfound, hpass⟩
    obtain ⟨helements, rfl⟩ := ofExcept_eq_ok.mp hfound
    rw [cells, (elements_eq_ok helements).2.1]
    exact ⟨⟨es, helements⟩, mapM_writeElement_gives.mp hpass⟩
  · rintro ⟨⟨es, helements⟩, hwritten⟩
    rw [cells, (elements_eq_ok helements).2.1] at hwritten
    exact ⟨es, w, ofExcept_eq_ok.mpr ⟨helements, rfl⟩, mapM_writeElement_gives.mpr hwritten⟩

/-- Jobs are done iff the elements of each are found and all files can be rendered and written. -/
theorem mapM_run_gives {root : Path} {jobs : List Job} {w : World} {paths : List Path} {d : Disk} :
    (∃ lists, (jobs.mapM (Job.run · root)).Gives w lists d ∧ paths = lists.flatten) ↔
      (∀ j ∈ jobs, ∃ es, j.elements = .ok es) ∧
      ∃ files, renderAll root (jobs.flatMap cells) = .ok files ∧ paths = files.map (·.1) ∧
        w.disk.writeAll files = .ok d := by
  induction jobs generalizing w paths with
  | nil =>
    simp only [gives_mapM_nil, List.flatMap_nil, renderAll_nil]
    constructor
    · rintro ⟨lists, ⟨rfl, rfl⟩, rfl⟩; exact ⟨by simp, [], rfl, rfl, rfl⟩
    · rintro ⟨_, files, rfl, rfl, hwrites⟩
      cases hwrites
      exact ⟨[], ⟨rfl, rfl⟩, rfl⟩
  | cons j jobs ih =>
    simp only [gives_mapM_cons, List.flatMap_cons, List.forall_mem_cons]
    constructor
    · rintro ⟨lists, ⟨first, w₁, rest, hhead, htail, rfl⟩, rfl⟩
      obtain ⟨helements, files, hfiles, rfl, hwrites⟩ := run_gives.mp ⟨w₁, hhead, rfl⟩
      obtain ⟨hothers, more, hmore, hpaths, hwrites'⟩ := ih.mp ⟨rest, htail, rfl⟩
      refine ⟨⟨helements, hothers⟩, files ++ more,
        renderAll_append.mpr ⟨files, more, hfiles, hmore, rfl⟩, ?_,
        Disk.writeAll_append.mpr ⟨_, hwrites, hwrites'⟩⟩
      rw [List.flatten_cons, hpaths, List.map_append]
    · rintro ⟨⟨helements, hothers⟩, files, hfiles, rfl, hwrites⟩
      obtain ⟨first, more, hfirst, hmore, rfl⟩ := renderAll_append.mp hfiles
      obtain ⟨d₁, hwrites, hwrites'⟩ := Disk.writeAll_append.mp hwrites
      obtain ⟨w₁, hhead, rfl⟩ := run_gives.mpr ⟨helements, first, hfirst, rfl, hwrites⟩
      obtain ⟨rest, htail, hpaths⟩ := ih.mpr ⟨hothers, more, hmore, rfl, hwrites'⟩
      refine ⟨_, ⟨_, w₁, rest, hhead, htail, rfl⟩, ?_⟩
      rw [List.flatten_cons, ← hpaths, List.map_append]

end Job

namespace Prepared

/-- The cells of a build for definitions given as values: by target, by output, by definition, by
element. -/
def cells (p : Prepared) (definitions : List (String × Value)) : List Cell :=
  p.targets.flatMap fun target =>
    target.outputs.flatMap fun (index, output) =>
      definitions.flatMap fun (name, definition) =>
        (Job.fanOut ⟨target, index, output, name, definition⟩).map
          (Cell.mk ⟨target, index, output, name, definition⟩)

theorem cells_eq_flatMap_jobs (p : Prepared) (definitions : List (String × Value)) :
    p.cells definitions = (p.jobs definitions).flatMap Job.cells := by
  simp only [cells, jobs, List.flatMap_assoc, List.flatMap_map, Job.cells]

theorem length_cells (p : Prepared) (definitions : List (String × Value)) :
    (p.cells definitions).length = (p.targets.map fun target =>
      (target.outputs.map fun (index, output) =>
        (definitions.map fun (name, definition) =>
          (Job.fanOut ⟨target, index, output, name, definition⟩).length).sum).sum).sum := by
  simp only [cells, List.length_flatMap, List.length_map]

/-- A build is rendered iff its definitions can be seen by templates, the elements of each job are
found, and the files of all cells can be rendered and written. -/
theorem render_gives {p : Prepared} {w : World} {paths : List Path} {d : Disk} :
    p.render.Gives w paths d ↔ ∃ definitions, p.contexts = .ok definitions ∧
      (∀ j ∈ p.jobs definitions, ∃ es, j.elements = .ok es) ∧
      ∃ files, renderAll p.output (p.cells definitions) = .ok files ∧
        paths = files.map (·.1) ∧ w.disk.writeAll files = .ok d := by
  simp only [render, gives_bind, ofExcept_eq_ok, cells_eq_flatMap_jobs, ← Job.mapM_run_gives]
  constructor
  · rintro ⟨definitions, w₁, ⟨hcontexts, rfl⟩, lists, w₂, hpass, w₃, hpure, hd⟩
    cases hpure
    exact ⟨definitions, hcontexts, lists, ⟨w₂, hpass, hd⟩, rfl⟩
  · rintro ⟨definitions, hcontexts, lists, ⟨w₂, hpass, hd⟩, rfl⟩
    exact ⟨definitions, w, ⟨hcontexts, rfl⟩, lists, w₂, hpass, w₂, rfl, hd⟩

/-- The files of a build that has been rendered: one for each target, output, definition and element
of what the output is for, in this order. Afterwards each file holds what was rendered for the last
cell whose path leads to it, and all other files are as they were. -/
theorem render_writes_cells {p : Prepared} {w w' : World} {paths : List Path}
    (h : p.render.run w = .ok paths w') :
    ∃ definitions files, p.contexts = .ok definitions ∧
      (∀ target ∈ p.targets, ∀ o ∈ target.outputs, ∀ d ∈ definitions,
        ∃ v, Value.resolve d.1 d.2 o.2.context = .ok v) ∧
      (p.cells definitions).mapM (Cell.file · p.output) = .ok files ∧
      paths = files.map (·.1) ∧
      paths.length = (p.targets.map fun target =>
        (target.outputs.map fun (index, output) =>
          (definitions.map fun (name, definition) =>
            (Job.fanOut ⟨target, index, output, name, definition⟩).length).sum).sum).sum ∧
      w.disk.Holds files w'.disk := by
  obtain ⟨definitions, hcontexts, helements, files, hfiles, hpaths, hwrites⟩ :=
    render_gives.mp ⟨w', h, rfl⟩
  refine ⟨definitions, files, hcontexts, ?_, hfiles, hpaths, ?_, Disk.holds_of_writeAll hwrites⟩
  · rintro target ht ⟨index, output⟩ ho ⟨name, definition⟩ hd
    have hjob : ⟨target, index, output, name, definition⟩ ∈ p.jobs definitions := by
      simp only [jobs, List.mem_flatMap, List.mem_map]
      exact ⟨target, ht, ⟨index, output⟩, ho, ⟨name, definition⟩, hd, rfl⟩
    obtain ⟨es, hes⟩ := helements _ hjob
    exact (Job.elements_eq_ok hes).2.2
  · rw [← length_cells, hpaths, List.length_map, (Outcome.mapM_eq_ok.mp hfiles).length_eq]

end Prepared

/-- A build that writes one and the same file for each of two models. -/
def notes : Prepared where
  targets := [{
    name := "txt"
    params.outputs := [⟨"model", "all.txt", some "models"⟩]
    library := [("@path/0", .plain "@path/0" "all.txt"), ("model", .plain "model" "a model")]
    templates := ["model"] }]
  definitions := [{
    name := "Shop", nameSpace := none, options := [], enums := [], contracts := [], services := []
    extensions := [], models := ["A", "B"].map fun name => ⟨name, false, none, [], [], [], []⟩ }]
  augmentations := 0
  output := ⟨"out"⟩

/-- An empty disk. -/
def blank : World where
  disk.root := .dir []
  disk.here := []

theorem notes_gives : ∃ d, notes.render.Gives blank [⟨"out/all.txt"⟩, ⟨"out/all.txt"⟩] d := by
  obtain ⟨definitions, hcontexts, j, hjobs, helements, htwo, htarget, hindex, hname⟩ :
      ∃ definitions, notes.contexts = .ok definitions ∧ ∃ j, notes.jobs definitions = [j] ∧
        j.elements.isOk ∧ j.fanOut.length = 2 ∧ j.target = notes.targets.head (by simp [notes]) ∧
        j.index = 0 ∧ j.output.templateName = "model" :=
    ⟨_, rfl, _, rfl, by decide, by decide, rfl, rfl, rfl⟩
  let files : List (Path × String) := .replicate 2 (⟨"out/all.txt"⟩, "a model")
  have hfiles : renderAll notes.output (notes.cells definitions) = .ok files := by
    rw [Prepared.cells_eq_flatMap_jobs, hjobs, List.flatMap_singleton, Job.cells]
    have hlength : (j.fanOut.map (Cell.mk j)).length = 2 := by rw [List.length_map, htwo]
    simp only [files, ← hlength]
    refine renderAll_of_forall fun c hc => ?_
    obtain ⟨x, _, rfl⟩ := List.mem_map.mp hc
    have hpath : j.target.library.get? (Target.pathName j.index) =
        some (.plain (Target.pathName j.index) "all.txt") := by rw [htarget, hindex]; rfl
    have htext : j.target.library.get? j.output.templateName =
        some (.plain j.output.templateName "a model") := by rw [htarget, hname]; rfl
    have hdefined : j.target.hasTemplate j.output.templateName := by rw [htarget, hname]; rfl
    have hjoin : notes.output.join (Job.trimSlashes (Text.trim "all.txt")) = ⟨"out/all.txt"⟩ := by
      decide
    have hrelative := Target.renderPath_of_plain (o := j.output) hpath (by decide)
    exact hjoin ▸ Job.file_of_rendered (hrelative _)
      (Target.renderContents_of_plain htext hdefined _) notes.output
  have hwritten : (blank.disk.writeAll files).isOk := by decide
  cases hd : blank.disk.writeAll files with
  | error cause => rw [hd] at hwritten; cases hwritten
  | ok d =>
    refine ⟨d, Prepared.render_gives.mpr ⟨definitions, hcontexts, ?_, files, hfiles, rfl, hd⟩⟩
    rw [hjobs, List.forall_mem_singleton]
    cases hj : j.elements with
    | error e => rw [hj] at helements; cases helements
    | ok es => exact ⟨es, rfl⟩

theorem notes_writes_cells : ∃ w', notes.render.run blank =
      .ok [⟨"out/all.txt"⟩, ⟨"out/all.txt"⟩] w' ∧
    ∃ definitions files, notes.contexts = .ok definitions ∧
      (notes.cells definitions).mapM (Cell.file · notes.output) = .ok files ∧
      files.map (·.1) = [⟨"out/all.txt"⟩, ⟨"out/all.txt"⟩] ∧ blank.disk.Holds files w'.disk := by
  obtain ⟨d, w', hrun, rfl⟩ := notes_gives
  obtain ⟨definitions, files, hcontexts, _, hfiles, hpaths, _, hholds⟩ :=
    Prepared.render_writes_cells hrun
  exact ⟨w', hrun, definitions, files, hcontexts, hfiles, hpaths.symm, hholds⟩

end Stencil
