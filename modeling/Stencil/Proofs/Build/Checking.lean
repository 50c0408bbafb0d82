import Stencil.Build.Generate
import Stencil.Proofs.Build.Looking
import Stencil.Proofs.Definition.Closed

/-! Checking a manifest foretells what generating from it does.

Loading only looks at the files, so that checking changes none of them, and a build that cannot be
loaded fails before it writes anything. Once a build has been loaded, its definitions are closed and
what templates see of them can be found; what is left to go wrong is the rendering itself: a
template or a part of a definition that is not there, a template that cannot be rendered, or a file
that cannot be written (`Error.IsRendering`). -/

namespace Stencil

open Run

/-- The errors of rendering. -/
def Error.IsRendering : Error → Prop
  | .templateNotDefined .. | .contextNotFound .. | .template _ | .io _ => True
  | _ => False

/-! ### Loading -/

namespace Site

theorem onlyLooks_loadDefinition (s : Site) (b : BuildSpec) (index : Augmentation.Index)
    (path : Path) : OnlyLooks (s.loadDefinition b index path) :=
  (OnlyLooks.of_look _).bind fun _ =>
    (OnlyLooks.of_report _).bind fun _ => OnlyLooks.of_ofExcept _

theorem onlyLooks_prepare (s : Site) (b : BuildSpec) : OnlyLooks (s.prepare b) := by
  refine (OnlyLooks.of_look _).bind fun targets => ?_
  refine (OnlyLooks.of_look _).bind fun index => ?_
  refine OnlyLooks.bind ?_ fun definitions => OnlyLooks.of_pure _
  exact (OnlyLooks.of_look _).bind fun paths =>
    OnlyLooks.mapM (s.onlyLooks_loadDefinition b index) paths

theorem closed_of_loadDefinition {s : Site} {b : BuildSpec} {index : Augmentation.Index}
    {path : Path} {w w' : World} {d : Definition}
    (h : (s.loadDefinition b index path).run w = .ok d w') : d.Closed := by
  obtain ⟨document, w₁, _, hrest⟩ := bind_eq_ok.mp h
  obtain ⟨_, w₂, _, hbuild⟩ := bind_eq_ok.mp hrest
  rw [ofExcept_run] at hbuild
  split at hbuild
  · rename_i hok
    cases hbuild
    exact Definition.closed_of_build hok
  · cases hbuild

/-- The definitions of a build that has been loaded are closed. -/
theorem closed_of_prepare {s : Site} {b : BuildSpec} {w w' : World} {p : Prepared}
    (h : (s.prepare b).run w = .ok p w') : ∀ d ∈ p.definitions, d.Closed := by
  obtain ⟨targets, w₁, _, h⟩ := bind_eq_ok.mp h
  obtain ⟨index, w₂, _, h⟩ := bind_eq_ok.mp h
  obtain ⟨definitions, w₃, hdefinitions, h⟩ := bind_eq_ok.mp h
  obtain ⟨paths, w₄, _, hpaths⟩ := bind_eq_ok.mp hdefinitions
  cases h
  intro d hd
  obtain ⟨path, _, v, v', hload⟩ := exists_of_mem_mapM hpaths d hd
  exact closed_of_loadDefinition hload

end Site

/-! ### Rendering -/

theorem Value.resolve_fails {name : String} {definition : Value} {path : Option String} {e : Error}
    (h : Value.resolve name definition path = .error e) : e.IsRendering := by
  unfold Value.resolve at h
  split at h
  · cases h
  · split at h
    · cases h
    · cases h; trivial

theorem Target.renderPath_fails {t : Target} {index : Nat} {o : Output} {context : Fields}
    {e : Error} (h : t.renderPath index o context = .error e) : e.IsRendering := by
  unfold Target.renderPath at h
  split at h
  · cases h; trivial
  · simp only at h
    split at h
    · cases h; trivial
    · cases h

theorem Target.renderContents_fails {t : Target} {o : Output} {context : Fields} {e : Error}
    (h : t.renderContents o context = .error e) : e.IsRendering := by
  unfold Target.renderContents at h
  split at h
  · split at h
    · cases h
    · cases h; trivial
  · cases h; trivial

namespace Job

theorem elements_fails {j : Job} {e : Error} (h : j.elements = .error e) : e.IsRendering := by
  unfold elements at h
  split at h
  · cases h; trivial
  · rcases Outcome.bind_eq_error.mp h with hresolve | ⟨v, _, hpure⟩
    · exact Value.resolve_fails hresolve
    · cases hpure

theorem file_fails {j : Job} {root : Path} {element : Value} {e : Error}
    (h : j.file root element = .error e) : e.IsRendering := by
  rcases Outcome.bind_eq_error.mp h with hpath | ⟨relative, _, h⟩
  · exact Target.renderPath_fails hpath
  rcases Outcome.bind_eq_error.mp h with hcontents | ⟨contents, _, hpure⟩
  · exact Target.renderContents_fails hcontents
  · cases hpure

theorem failsOnly_writeElement (j : Job) (root : Path) (element : Value) :
    FailsOnly Error.IsRendering (j.writeElement root element) := by
  have hio : ∀ cause, (Error.io cause).IsRendering := fun _ => trivial
  refine (FailsOnly.of_ofExcept fun e => file_fails).bind fun file => ?_
  refine (FailsOnly.of_report _).bind fun _ => ?_
  have hwrite : FailsOnly Error.IsRendering
      (Run.change (·.writeText file.1 file.2) >>= fun _ => pure file.1) :=
    (FailsOnly.of_change hio).bind fun _ => FailsOnly.of_pure file.1
  cases hparent : file.1.parent? with
  | none => simpa only [hparent] using hwrite
  | some parent => simpa only [hparent] using (FailsOnly.of_change hio).bind fun _ => hwrite

theorem failsOnly_run (j : Job) (root : Path) : FailsOnly Error.IsRendering (j.run root) :=
  (FailsOnly.of_ofExcept fun _ => elements_fails).bind fun elements =>
    FailsOnly.mapM (j.failsOnly_writeElement root) elements

end Job

namespace Prepared

/-- Closed definitions can be turned into the values that templates are rendered with. -/
theorem exists_contexts {p : Prepared} (h : ∀ d ∈ p.definitions, d.Closed) :
    ∃ contexts, p.contexts = .ok contexts := by
  refine Outcome.exists_mapM_eq_ok fun d hd => ?_
  obtain ⟨c, hc⟩ := Definition.exists_context (h d hd)
  exact ⟨(d.name, c.toValue), by rw [Definition.contextValue_eq_ok hc]; rfl⟩

theorem failsOnly_render {p : Prepared} (h : ∀ d ∈ p.definitions, d.Closed) :
    FailsOnly Error.IsRendering p.render := by
  obtain ⟨contexts, hcontexts⟩ := exists_contexts h
  refine (FailsOnly.of_ofExcept fun e he => ?_).bind fun definitions => ?_
  · rw [hcontexts] at he
    cases he
  · exact (FailsOnly.mapM (fun j => j.failsOnly_run p.output) (p.jobs definitions)).bind fun _ =>
      FailsOnly.of_pure _

end Prepared

/-! ### One build -/

namespace Site

variable {s : Site} {b : BuildSpec} {w w' : World}

/-- A build that cannot be loaded fails in the same way and writes nothing. -/
theorem build_of_prepare_error {e : Error} (h : (s.prepare b).run w = .error e w') :
    ∃ w'', (s.build b).run w = .error e w'' ∧ w''.disk = w.disk := by
  rw [build, bind_of_ok (report_run _ w)]
  -- the report made before loading adds to the log, and loading does not look at the log
  obtain ⟨w'', hw''⟩ := ((s.onlyLooks_prepare b).error h).2 ⟨w.disk, w.log ++ _⟩ rfl
  exact ⟨w'', bind_of_error hw'', ((s.onlyLooks_prepare b).error hw'').1⟩

/-- A build that can be loaded does what has been loaded, unless rendering fails. -/
theorem build_of_prepare_ok {p : Prepared} (h : (s.prepare b).run w = .ok p w') :
    (∃ files w'', (s.build b).run w =
      .ok ⟨p.output, p.targets.map (·.name), p.definitions.map (·.name), files⟩ w'') ∨
    ∃ e w'', (s.build b).run w = .error e w'' ∧ e.IsRendering := by
  obtain ⟨v, hv⟩ := ((s.onlyLooks_prepare b).ok h).2 ⟨w.disk, w.log ++ _⟩ rfl
  rw [build, bind_of_ok (report_run _ w), bind_of_ok hv]
  cases hrender : p.render.run v with
  | ok files v' => exact .inl ⟨files, v', bind_of_ok hrender⟩
  | error e v' =>
    have hfails := Prepared.failsOnly_render (closed_of_prepare h)
    exact .inr ⟨e, v', bind_of_error hrender, hfails v e v' hrender⟩

end Site

/-! ### All builds of a manifest -/

variable (config : Config) (env : Environment) (manifest : Path)

/-- What checking and generating begin with: the builds to do and where to do them. -/
def start : Run (List BuildSpec × Site) := do
  let m ← Run.look (Manifest.load · manifest)
  let s ← Run.look (Site.locate config env manifest)
  return (m.builds, s)

/-- What generating ends with. -/
def conclude (reports : List BuildReport) : Run (List BuildReport) := do
  let count := (reports.flatMap (·.files)).length
  Run.report [.info ("Generated " ++ toString count ++ " files in " ++
    toString reports.length ++ " builds")]
  return reports

theorem check_eq_start_bind : check config env manifest =
    start config env manifest >>= fun (builds, s) => builds.mapM s.prepare := by
  simp only [check, start, bind_assoc, pure_bind]

theorem generate_eq_start_bind : generate config env manifest =
    start config env manifest >>= fun (builds, s) => builds.mapM s.build >>= conclude := by
  simp only [generate, start, bind_assoc, pure_bind]
  rfl

theorem onlyLooks_start : OnlyLooks (start config env manifest) :=
  (OnlyLooks.of_look _).bind fun _ => (OnlyLooks.of_look _).bind fun _ => OnlyLooks.of_pure _

/-- Checking only looks at the files. -/
theorem onlyLooks_check : OnlyLooks (check config env manifest) := by
  rw [check_eq_start_bind]
  exact (onlyLooks_start config env manifest).bind fun (builds, s) =>
    OnlyLooks.mapM s.onlyLooks_prepare builds

theorem start_eq_ok {w w' : World} {builds : List BuildSpec} {s : Site}
    (h : (start config env manifest).run w = .ok (builds, s) w') :
    w' = w ∧ ∃ m, Manifest.load w.disk manifest = .ok m ∧ m.builds = builds := by
  obtain ⟨m, w₁, hload, hrest⟩ := bind_eq_ok.mp h
  obtain ⟨s', w₂, hlocate, hpure⟩ := bind_eq_ok.mp hrest
  cases hpure
  obtain ⟨hm, rfl⟩ := look_eq_ok.mp hload
  exact ⟨(look_eq_ok.mp hlocate).2, m, hm, rfl⟩

/-- Checking changes no file, whatever comes of it. For a manifest of a single build, generating
fails like checking does and changes no file either; where checking succeeds, generating reports
what has been prepared, or else rendering fails. -/
theorem generate_follows_check (w : World) :
    ((check config env manifest).after w).disk = w.disk ∧
    ((∀ m, Manifest.load w.disk manifest = .ok m → m.builds.length = 1) →
      (∀ e w', (check config env manifest).run w = .error e w' →
        ∃ w'', (generate config env manifest).run w = .error e w'' ∧ w''.disk = w.disk) ∧
      ∀ ps w', (check config env manifest).run w = .ok ps w' → ∃ p, ps = [p] ∧
        ((∃ files w'', (generate config env manifest).run w =
            .ok [⟨p.output, p.targets.map (·.name), p.definitions.map (·.name), files⟩] w'') ∨
          ∃ e w'', (generate config env manifest).run w = .error e w'' ∧ e.IsRendering)) := by
  refine ⟨(onlyLooks_check config env manifest).after_disk w, fun hsingle => ?_⟩
  rw [check_eq_start_bind, generate_eq_start_bind]
  cases hstart : (start config env manifest).run w with
  | error cause w₀ =>
    have hdisk := ((onlyLooks_start config env manifest).error hstart).1
    rw [bind_of_error hstart, bind_of_error hstart]
    refine ⟨fun e w' h => ?_, fun ps w' h => by cases h⟩
    cases h
    exact ⟨w₀, rfl, hdisk⟩
  | ok found w₀ =>
    obtain ⟨builds, s⟩ := found
    obtain ⟨rfl, m, hm, rfl⟩ := start_eq_ok config env manifest hstart
    obtain ⟨b, hb⟩ := List.length_eq_one_iff.mp (hsingle m hm)
    simp only [bind_of_ok hstart, hb, List.mapM_cons, List.mapM_nil, bind_assoc, pure_bind]
    cases hprepare : (s.prepare b).run w₀ with
    | error cause w₁ =>
      obtain ⟨w₂, hbuild, hdisk⟩ := Site.build_of_prepare_error hprepare
      rw [bind_of_error hprepare]
      refine ⟨fun e w' h => ?_, fun ps w' h => by cases h⟩
      cases h
      exact ⟨w₂, bind_of_error hbuild, hdisk⟩
    | ok p w₁ =>
      rw [bind_of_ok hprepare]
      refine ⟨fun e w' h => (by cases h), fun ps w' h => ?_⟩
      cases h
      refine ⟨p, rfl, ?_⟩
      rcases Site.build_of_prepare_ok hprepare with ⟨files, w₂, hbuild⟩ | ⟨e, w₂, hbuild, he⟩
      · exact .inl ⟨files, _, bind_of_ok hbuild⟩
      · exact .inr ⟨e, w₂, bind_of_error hbuild, he⟩

/-- A template that fails for one name, and parameters that ask for a file for every model. -/
def stands : Entry :=
  .dir [
    ("outputs", .dir [("m.tpl", .file ("\x7b% if name == \"B\" %\x7d\x7b\x7b no \x7d\x7d" ++
      "\x7b% endif %\x7d\x7b\x7b name \x7d\x7d").toUTF8)]),
    ("params.yml", .file ("extension: txt\noutputs: [\x7btemplateName: m, " ++
      "path: \"\x7b\x7b name \x7d\x7d\", context: models\x7d]").toUTF8)]

/-- Parameters of which the second output has no template. -/
def booths : Entry :=
  .dir [
    ("outputs", .dir [("m.tpl", .file "hall".toUTF8)]),
    ("params.yml", .file ("extension: txt\noutputs: [\x7btemplateName: m, path: a\x7d, " ++
      "\x7btemplateName: n, path: b\x7d]").toUTF8)]

/-- A directory with two documents, two targets and some manifests. -/
def fair : World where
  disk.root := .dir [
    ("Hall.yml", .file "models: [\x7bname: X\x7d]".toUTF8),
    ("Shop.yml", .file "models: [\x7bname: A\x7d, \x7bname: B\x7d, \x7bname: C\x7d]".toUTF8),
    ("booths.yml", .file
      "builds: [\x7btargets: booths, templates: Hall.yml, output: a\x7d]".toUTF8),
    ("one.yml", .file "builds: [\x7btargets: stands, templates: Hall.yml, output: a\x7d]".toUTF8),
    ("stray.yml", .file "builds: [\x7btargets: go, templates: Hall.yml, output: a\x7d]".toUTF8),
    ("targets", .dir [("booths", booths), ("stands", stands)]),
    ("two.yml", .file ("builds: [\x7btargets: stands, templates: Hall.yml, output: a\x7d, " ++
      "\x7btargets: stands, templates: Shop.yml, output: b\x7d]").toUTF8)]
  disk.here := []

/-- Settings with which everything is done in turn. -/
def inTurn : Config where
  concurrency := 1

theorem check_stray :
    (check inTurn {} ⟨"stray.yml"⟩).failure? fair = some (.targetNotDefined "go") ∧
    (Manifest.load fair.disk ⟨"stray.yml"⟩).toOption.map (·.builds.length) = some 1 := by
  decide +kernel

theorem generate_one : ((generate inTurn {} ⟨"one.yml"⟩).result? fair).map (·.map fun r =>
      (r.targets, r.definitions, r.files)) = some [(["stands"], ["Hall"], [⟨"./a/X"⟩])] ∧
    (((generate inTurn {} ⟨"one.yml"⟩).after fair).disk.readText ⟨"a/X"⟩).toOption = some "X" ∧
    (Manifest.load fair.disk ⟨"one.yml"⟩).toOption.map (·.builds.length) = some 1 := by
  decide +kernel

theorem length_builds_of_load {d : Disk} {manifest : Path} {n : Nat}
    (h : (Manifest.load d manifest).toOption.map (·.builds.length) = some n) (m : Manifest)
    (hm : Manifest.load d manifest = .ok m) : m.builds.length = n := by
  rw [hm] at h
  exact Option.some.inj h

theorem generate_follows_check_fair :
    (∃ w', (generate inTurn {} ⟨"stray.yml"⟩).run fair = .error (.targetNotDefined "go") w' ∧
      w'.disk = fair.disk) ∧
    ∃ p w' w'', (check inTurn {} ⟨"one.yml"⟩).run fair = .ok [p] w' ∧
      p.targets.map (·.name) = ["stands"] ∧ p.definitions.map (·.name) = ["Hall"] ∧
      (generate inTurn {} ⟨"one.yml"⟩).run fair =
        .ok [⟨p.output, ["stands"], ["Hall"], [⟨"./a/X"⟩]⟩] w'' ∧
      (w''.disk.readText ⟨"a/X"⟩).toOption = some "X" := by
  constructor
  · obtain ⟨hfailure, hlength⟩ := check_stray
    obtain ⟨w', hw'⟩ := failure?_eq_some.mp hfailure
    have hsingle := length_builds_of_load hlength
    exact ((generate_follows_check inTurn {} ⟨"stray.yml"⟩ fair).2 hsingle).1 _ w' hw'
  · obtain ⟨hresult, htext, hlength⟩ := generate_one
    obtain ⟨reports, w'', hgenerate, hreports⟩ := exists_of_result? hresult
    rw [after_of_ok hgenerate] at htext
    have hsingle := length_builds_of_load hlength
    obtain ⟨hfails, hsucceeds⟩ := (generate_follows_check inTurn {} ⟨"one.yml"⟩ fair).2 hsingle
    -- generating goes well, so checking does, and then both speak of the same build
    cases hcheck : (check inTurn {} ⟨"one.yml"⟩).run fair with
    | error e w' =>
      obtain ⟨_, herror, _⟩ := hfails e w' hcheck
      cases hgenerate.symm.trans herror
    | ok ps w' =>
      obtain ⟨p, rfl, ⟨files, _, hok⟩ | ⟨e, _, herror, _⟩⟩ := hsucceeds ps w' hcheck
      · cases hgenerate.symm.trans hok
        simp only [List.map_cons, List.map_nil, List.cons.injEq, Prod.mk.injEq] at hreports
        obtain ⟨⟨htargets, hdefinitions, rfl⟩, -⟩ := hreports
        rw [htargets, hdefinitions] at hgenerate
        exact ⟨p, w', w'', rfl, htargets, hdefinitions, hgenerate, htext⟩
      · cases hgenerate.symm.trans herror

end Stencil
