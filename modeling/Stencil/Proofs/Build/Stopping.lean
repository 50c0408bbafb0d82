import Stencil.Proofs.Build.Checking
import Stencil.Proofs.Build.Rendering

/-! What is left behind when generating fails.

A pass that fails has gone well up to one element and ends there. So what has been written is that
of the builds in front of the one that fails (`Site.Completes`), and of the cells of this one in
front of the job or the cell that fails (`Site.Stops`). Failures of the disk itself are left out. -/

namespace Stencil

open Run

/-! ### Rendering -/

namespace Target

theorem renderPath_eq_error {t : Target} {index : Nat} {o : Output} {context : Fields} {e : Error}
    (h : t.renderPath index o context = .error e) : ∃ fault, e = .template fault := by
  unfold renderPath at h
  split at h
  · cases h
    exact ⟨_, rfl⟩
  · simp only at h
    split at h
    · cases h
      exact ⟨_, rfl⟩
    · cases h

theorem renderContents_eq_error {t : Target} {o : Output} {context : Fields} {e : Error}
    (hdefined : t.hasTemplate o.templateName) (h : t.renderContents o context = .error e) :
    ∃ fault, e = .template fault := by
  rw [renderContents, if_pos hdefined] at h
  split at h
  · cases h
  · cases h
    exact ⟨_, rfl⟩

end Target

namespace Job

/-- If the template of an output is there, a file that cannot be rendered is the fault of a
template. -/
theorem file_eq_error {j : Job} {root : Path} {element : Value} {e : Error}
    (hdefined : j.target.hasTemplate j.output.templateName)
    (h : j.file root element = .error e) : ∃ fault, e = .template fault := by
  rcases Outcome.bind_eq_error.mp h with hpath | ⟨relative, _, h⟩
  · exact Target.renderPath_eq_error hpath
  rcases Outcome.bind_eq_error.mp h with hcontents | ⟨contents, _, hpure⟩
  · exact Target.renderContents_eq_error hdefined hcontents
  · cases hpure

/-- A job that fails, but not for a file, has no elements and has written nothing, or it has written
the files for the elements in front of one that cannot be rendered. -/
theorem run_eq_error {j : Job} {root : Path} {w w' : World} {e : Error}
    (h : (j.run root).run w = .error e w') (hio : ∀ cause, e ≠ .io cause) :
    (j.elements = .error e ∧ w'.disk = w.disk) ∨
      ∃ done c rest files fault, j.cells = done ++ c :: rest ∧ c.file root = .error e ∧
        e = .template fault ∧ renderAll root done = .ok files ∧
        w.disk.writeAll files = .ok w'.disk := by
  rcases bind_eq_error.mp h with hfound | ⟨es, w₁, hfound, hpass⟩
  · obtain ⟨helements, rfl⟩ := ofExcept_eq_error.mp hfound
    exact .inl ⟨helements, rfl⟩
  right
  obtain ⟨helements, rfl⟩ := ofExcept_eq_ok.mp hfound
  obtain ⟨hdefined, hfan, _⟩ := elements_eq_ok helements
  obtain ⟨before, x, rest, paths, w₂, rfl, hbefore, hx⟩ := mapM_eq_error hpass
  obtain ⟨hfile, rfl⟩ := writeElement_eq_error hx hio
  obtain ⟨files, hfiles, _, hwrites⟩ := mapM_writeElement_gives.mp ⟨w', hbefore, rfl⟩
  obtain ⟨fault, hfault⟩ := file_eq_error hdefined hfile
  refine ⟨before.map (Cell.mk j), ⟨j, x⟩, rest.map (Cell.mk j), files, fault, ?_, hfile, hfault,
    hfiles, hwrites⟩
  rw [cells, hfan, List.map_append, List.map_cons]

end Job

namespace Prepared

/-- How rendering a build fails, and the files that have been rendered until then. -/
inductive Stops (p : Prepared) (definitions : List (String × Value)) :
    Error → List (Path × String) → Prop
  /-- A job has no template or no elements. All cells of the jobs in front of it have been rendered,
  and no others. -/
  | job {e before j after files} : p.jobs definitions = before ++ j :: after →
      j.elements = .error e → renderAll p.output (before.flatMap Job.cells) = .ok files →
      Stops p definitions e files
  /-- A template cannot be rendered for a cell. All cells in front of it have been rendered, and no
  others. -/
  | cell {fault before c after files} : p.cells definitions = before ++ c :: after →
      c.file p.output = .error (.template fault) → renderAll p.output before = .ok files →
      Stops p definitions (.template fault) files

/-- Rendering that fails, but not for a file, has written what had been rendered until then. -/
theorem stops_of_render {p : Prepared} {definitions : List (String × Value)} {w w' : World}
    {e : Error} (hcontexts : p.contexts = .ok definitions) (h : p.render.run w = .error e w')
    (hio : ∀ cause, e ≠ .io cause) :
    ∃ files, p.Stops definitions e files ∧ w.disk.writeAll files = .ok w'.disk := by
  rw [render, bind_of_ok (ofExcept_eq_ok.mpr ⟨hcontexts, rfl⟩)] at h
  rcases bind_eq_error.mp h with hpass | ⟨lists, w₁, _, hpure⟩
  swap
  · cases hpure
  obtain ⟨before, j, after, lists, w₁, hjobs, hbefore, hj⟩ := mapM_eq_error hpass
  obtain ⟨_, files, hfiles, _, hwrites⟩ :=
    Job.mapM_run_gives.mp ⟨lists, ⟨w₁, hbefore, rfl⟩, rfl⟩
  rcases Job.run_eq_error hj hio with ⟨helements, hsame⟩ |
    ⟨done, c, rest, more, fault, hcells, hfile, rfl, hmore, hwrites'⟩
  · exact ⟨files, .job hjobs helements hfiles, hsame ▸ hwrites⟩
  · have hsplit : p.cells definitions =
        (before.flatMap Job.cells ++ done) ++ c :: (rest ++ after.flatMap Job.cells) := by
      simp [cells_eq_flatMap_jobs, hjobs, hcells]
    have hrendered := renderAll_append.mpr ⟨files, more, hfiles, hmore, rfl⟩
    exact ⟨files ++ more, .cell hsplit hfile hrendered,
      Disk.writeAll_append.mpr ⟨_, hwrites, hwrites'⟩⟩

end Prepared

/-! ### One build -/

namespace Site

/-- The files that a build is for: those of all its cells. -/
def Fills (s : Site) (b : BuildSpec) (w : World) (files : List (Path × String)) : Prop :=
  ∃ p v definitions, (s.prepare b).run w = .ok p v ∧ p.contexts = .ok definitions ∧
    renderAll p.output (p.cells definitions) = .ok files

/-- How a build fails, and the files that have been rendered until then. -/
inductive Stops (s : Site) (b : BuildSpec) (w : World) : Error → List (Path × String) → Prop
  /-- The targets, the augmentations or the definitions cannot be loaded. -/
  | loading {e v} : (s.prepare b).run w = .error e v → Stops s b w e []
  | rendering {e p v definitions files} : (s.prepare b).run w = .ok p v →
      p.contexts = .ok definitions → p.Stops definitions e files → Stops s b w e files

/-- Builds that go well one after another, and the files that they are for. -/
inductive Completes (s : Site) : List BuildSpec → World → List (Path × String) → World → Prop
  | nil (w : World) : Completes s [] w [] w
  | cons {b : BuildSpec} {rest : List BuildSpec} {w w₁ w₂ : World} {report : BuildReport}
      {files more : List (Path × String)} : (s.build b).run w = .ok report w₁ →
      s.Fills b w files → Completes s rest w₁ more w₂ → Completes s (b :: rest) w (files ++ more) w₂

variable {s : Site} {b : BuildSpec} {w w' : World}

/-- A build that goes well has written the files of all its cells. -/
theorem fills_of_build {report : BuildReport} (h : (s.build b).run w = .ok report w') :
    ∃ files, s.Fills b w files ∧ w.disk.writeAll files = .ok w'.disk := by
  rw [build, bind_of_ok (report_run _ w)] at h
  obtain ⟨p, w₁, hprepare, h⟩ := bind_eq_ok.mp h
  obtain ⟨paths, w₂, hrender, hpure⟩ := bind_eq_ok.mp h
  cases hpure
  obtain ⟨hdisk, hsame⟩ := (s.onlyLooks_prepare b).ok hprepare
  obtain ⟨v, hv⟩ := hsame w rfl
  obtain ⟨definitions, hcontexts, _, files, hfiles, _, hwrites⟩ :=
    Prepared.render_gives.mp ⟨w', hrender, rfl⟩
  exact ⟨files, ⟨p, v, definitions, hv, hcontexts, hfiles⟩, hdisk ▸ hwrites⟩

/-- A build that fails, but not for a file, has written what had been rendered until then. -/
theorem stops_of_build {e : Error} (h : (s.build b).run w = .error e w')
    (hio : ∀ cause, e ≠ .io cause) :
    ∃ files, s.Stops b w e files ∧ w.disk.writeAll files = .ok w'.disk := by
  rw [build, bind_of_ok (report_run _ w)] at h
  rcases bind_eq_error.mp h with hprepare | ⟨p, w₁, hprepare, h⟩
  · obtain ⟨hdisk, hsame⟩ := (s.onlyLooks_prepare b).error hprepare
    obtain ⟨v, hv⟩ := hsame w rfl
    exact ⟨[], .loading hv, congrArg Except.ok hdisk.symm⟩
  rcases bind_eq_error.mp h with hrender | ⟨paths, w₂, _, hpure⟩
  · obtain ⟨hdisk, hsame⟩ := (s.onlyLooks_prepare b).ok hprepare
    obtain ⟨v, hv⟩ := hsame w rfl
    obtain ⟨definitions, hcontexts⟩ := Prepared.exists_contexts (closed_of_prepare hprepare)
    obtain ⟨files, hstops, hwrites⟩ := Prepared.stops_of_render hcontexts hrender hio
    exact ⟨files, .rendering hv hcontexts hstops, hdisk ▸ hwrites⟩
  · cases hpure

/-- Builds that go well have written the files of all their cells. -/
theorem completes_of_mapM {builds : List BuildSpec} {reports : List BuildReport} {w w' : World}
    (h : (builds.mapM s.build).run w = .ok reports w') :
    ∃ files, s.Completes builds w files w' ∧ w.disk.writeAll files = .ok w'.disk := by
  induction builds generalizing w reports with
  | nil =>
    cases h
    exact ⟨[], .nil w', rfl⟩
  | cons b builds ih =>
    rw [List.mapM_cons] at h
    obtain ⟨report, w₁, hbuild, h⟩ := bind_eq_ok.mp h
    obtain ⟨rest, w₂, hrest, hpure⟩ := bind_eq_ok.mp h
    cases hpure
    obtain ⟨files, hfills, hwrites⟩ := fills_of_build hbuild
    obtain ⟨more, hcompletes, hwrites'⟩ := ih hrest
    exact ⟨files ++ more, .cons hbuild hfills hcompletes,
      Disk.writeAll_append.mpr ⟨_, hwrites, hwrites'⟩⟩

end Site

/-! ### All builds of a manifest -/

variable (config : Config) (env : Environment) (manifest : Path)

/-- When generating fails, but not for a file, then either it has not begun with the builds and has
written nothing, or it has written the files of the builds in front of the one that fails and those
that this one had rendered until then. The builds behind it play no part in the outcome. -/
theorem generate_writes_until_failure {w w' : World} {e : Error}
    (h : (generate config env manifest).run w = .error e w') (hio : ∀ cause, e ≠ .io cause) :
    ((start config env manifest).run w = .error e w' ∧ w'.disk = w.disk) ∨
    ∃ s before b after w₁ earlier last,
      (start config env manifest).run w = .ok (before ++ b :: after, s) w ∧
      s.Completes before w earlier w₁ ∧ w.disk.writeAll earlier = .ok w₁.disk ∧
      s.Stops b w₁ e last ∧ w₁.disk.writeAll last = .ok w'.disk ∧
      w.disk.Holds (earlier ++ last) w'.disk ∧
      ∀ others, ((before ++ b :: others).mapM s.build).run w = .error e w' := by
  rw [generate_eq_start_bind] at h
  rcases bind_eq_error.mp h with hstart | ⟨⟨builds, s⟩, w₀, hstart, hrest⟩
  · exact .inl ⟨hstart, ((onlyLooks_start config env manifest).error hstart).1⟩
  right
  obtain ⟨rfl, _⟩ := start_eq_ok config env manifest hstart
  rcases bind_eq_error.mp hrest with hpass | ⟨reports, w₁, _, hconclude⟩
  · obtain ⟨before, b, after, reports, w₁, rfl, hbefore, hb⟩ := mapM_eq_error hpass
    obtain ⟨earlier, hcompletes, hwrites⟩ := Site.completes_of_mapM hbefore
    obtain ⟨last, hstops, hwrites'⟩ := Site.stops_of_build hb hio
    exact ⟨s, before, b, after, w₁, earlier, last, hstart, hcompletes, hwrites, hstops, hwrites',
      (Disk.holds_of_writeAll hwrites).append_of_writeAll hwrites',
      mapM_append_cons_of_error hbefore hb⟩
  · cases hconclude

/-- The second of two builds stops at the second of three models; the first one goes well. -/
theorem generate_two :
    (generate inTurn {} ⟨"two.yml"⟩).failure? fair =
        some (.template (.renderFailed "m" "stands")) ∧
      (((generate inTurn {} ⟨"two.yml"⟩).after fair).disk.readText ⟨"a/X"⟩).toOption = some "X" ∧
      (((generate inTurn {} ⟨"two.yml"⟩).after fair).disk.readText ⟨"b/A"⟩).toOption = some "A" ∧
      ((generate inTurn {} ⟨"two.yml"⟩).after fair).disk.hasEntry ⟨"b/B"⟩ = false ∧
      ((generate inTurn {} ⟨"two.yml"⟩).after fair).disk.hasEntry ⟨"b/C"⟩ = false ∧
      (do
        let (builds, s) ← start inTurn {} ⟨"two.yml"⟩
        (builds.take 1).mapM s.build).failure? fair = none ∧
      (Manifest.load fair.disk ⟨"two.yml"⟩).toOption.map (·.builds.map (·.output)) =
        some ["a", "b"] := by
  decide +kernel

/-- A build stops at an output without a template. -/
theorem generate_booths :
    (generate inTurn {} ⟨"booths.yml"⟩).failure? fair =
        some (.templateNotDefined "n" "booths") ∧
      (((generate inTurn {} ⟨"booths.yml"⟩).after fair).disk.readText ⟨"a/a"⟩).toOption =
        some "hall" ∧
      ((generate inTurn {} ⟨"booths.yml"⟩).after fair).disk.hasEntry ⟨"a/b"⟩ = false ∧
      (Manifest.load fair.disk ⟨"booths.yml"⟩).toOption.map (·.builds.map (·.output)) =
        some ["a"] := by
  decide +kernel

/-- What a start at the fair finds is what the manifest names. -/
theorem outputs_of_start {manifest : Path} {outputs : List String}
    (h : (Manifest.load fair.disk manifest).toOption.map (·.builds.map (·.output)) = some outputs)
    {builds : List BuildSpec} {s : Site} {w : World}
    (hstart : (start inTurn {} manifest).run fair = .ok (builds, s) w) :
    builds.map (·.output) = outputs := by
  obtain ⟨-, m, hm, rfl⟩ := start_eq_ok inTurn {} manifest hstart
  rw [hm] at h
  exact Option.some.inj h

theorem generate_writes_until_failure_fair :
    (∃ w' s first second w₁ earlier last,
      (generate inTurn {} ⟨"two.yml"⟩).run fair =
        .error (.template (.renderFailed "m" "stands")) w' ∧
      (start inTurn {} ⟨"two.yml"⟩).run fair = .ok ([first, second], s) fair ∧
      first.output = "a" ∧ second.output = "b" ∧
      s.Completes [first] fair earlier w₁ ∧
      s.Stops second w₁ (.template (.renderFailed "m" "stands")) last ∧
      fair.disk.Holds (earlier ++ last) w'.disk ∧
      (w'.disk.readText ⟨"a/X"⟩).toOption = some "X" ∧
      (w'.disk.readText ⟨"b/A"⟩).toOption = some "A" ∧
      w'.disk.hasEntry ⟨"b/B"⟩ = false ∧ w'.disk.hasEntry ⟨"b/C"⟩ = false) ∧
    ∃ w' s only last,
      (generate inTurn {} ⟨"booths.yml"⟩).run fair =
        .error (.templateNotDefined "n" "booths") w' ∧
      (start inTurn {} ⟨"booths.yml"⟩).run fair = .ok ([only], s) fair ∧
      s.Stops only fair (.templateNotDefined "n" "booths") last ∧
      fair.disk.Holds last w'.disk ∧
      (w'.disk.readText ⟨"a/a"⟩).toOption = some "hall" ∧ w'.disk.hasEntry ⟨"a/b"⟩ = false := by
  have hnew : (fair.disk.readText ⟨"a/X"⟩).toOption = none ∧
      (fair.disk.readText ⟨"a/a"⟩).toOption = none := by decide
  constructor
  · obtain ⟨hfailure, hX, hA, hB, hC, hfirst, houtputs⟩ := generate_two
    obtain ⟨w', hw'⟩ := failure?_eq_some.mp hfailure
    rw [after_of_error hw'] at hX hA hB hC
    rcases generate_writes_until_failure inTurn {} ⟨"two.yml"⟩ hw' (by simp) with ⟨_, hdisk⟩ |
      ⟨s, before, b, after, w₁, earlier, last, hbuilds, hcompletes, _, hstops, _, hholds, hothers⟩
    · rw [hdisk, hnew.1] at hX
      cases hX
    replace houtputs := outputs_of_start houtputs hbuilds
    -- the build that fails is not the first one, for this one goes well alone
    match before with
    | [] =>
      obtain ⟨_, _, hok⟩ := failure?_eq_none.mp hfirst
      rw [bind_of_ok hbuilds] at hok
      cases (hothers []).symm.trans hok
    | [first] =>
      simp only [List.cons_append, List.nil_append, List.map_cons, List.cons.injEq,
        List.map_eq_nil_iff] at houtputs
      obtain ⟨ha, hb, rfl⟩ := houtputs
      exact ⟨w', s, first, b, w₁, earlier, last, hw', hbuilds, ha, hb, hcompletes, hstops, hholds,
        hX, hA, hB, hC⟩
    | _ :: _ :: before =>
      have hlength := congrArg List.length houtputs
      simp at hlength
  · obtain ⟨hfailure, ha, hb, houtputs⟩ := generate_booths
    obtain ⟨w', hw'⟩ := failure?_eq_some.mp hfailure
    rw [after_of_error hw'] at ha hb
    rcases generate_writes_until_failure inTurn {} ⟨"booths.yml"⟩ hw' (by simp) with ⟨_, hdisk⟩ |
      ⟨s, before, b, after, w₁, earlier, last, hbuilds, hcompletes, _, hstops, _, hholds, _⟩
    · rw [hdisk, hnew.2] at ha
      cases ha
    have hlength := congrArg List.length (outputs_of_start houtputs hbuilds)
    simp only [List.length_map, List.length_append, List.length_cons, List.length_nil] at hlength
    obtain ⟨rfl, rfl⟩ : before = [] ∧ after = [] := by
      simp only [← List.length_eq_zero_iff]
      omega
    cases hcompletes
    exact ⟨w', s, b, last, hw', hbuilds, hstops, hholds, ha, hb⟩

end Stencil
