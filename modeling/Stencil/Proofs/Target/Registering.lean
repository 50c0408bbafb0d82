import Stencil.Proofs.Lookup
import Stencil.Proofs.Outcome
import Stencil.Proofs.Template.Plain
import Stencil.Target.Load

/-! What a target has under the names of its templates.

A target is put together in three steps: its partial templates, its templates for outputs, and the
templates of its paths. Each step adds sources to a library, and under each name the library has the
last source that was added (`Template.Library.Adds`). The templates of paths come last. So they are
what they were declared to be, and so is every other template whose name is not one of theirs. -/

namespace Stencil

namespace Template

theorem Source.name_of_parse? {name text : String} {t : Source}
    (h : Source.parse? name text = some t) : t.name = name := by
  unfold Source.parse? at h
  obtain ⟨⟨nodes, rest⟩, _, h⟩ := Option.bind_eq_some_iff.mp h
  simp only at h
  split at h
  · cases h
    rfl
  · cases h

namespace Library

/-! ### Adding sources -/

/-- A library that comes from another by adding sources: all can be read, and under each name there
is the last of them, or else what was there before. -/
structure Adds (l : Library) (sources : List (String × String)) (l' : Library) : Prop where
  reads : ∀ s ∈ sources, ∃ t, Source.parse? s.1 s.2 = some t
  get? : ∀ n, l'.get? n = ((sources.reverse.lookup n).bind (Source.parse? n)).or (l.get? n)

theorem Adds.refl (l : Library) : l.Adds [] l where
  reads := by simp
  get? n := rfl

theorem Adds.trans {l l₁ l₂ : Library} {sources more : List (String × String)}
    (h : l.Adds sources l₁) (h' : l₁.Adds more l₂) : l.Adds (sources ++ more) l₂ where
  reads s hs := (List.mem_append.mp hs).elim (h.reads s) (h'.reads s)
  get? n := by
    rw [h'.get?, h.get?, List.reverse_append, List.lookup_append]
    cases hlast : more.reverse.lookup n with
    | none => simp
    | some text =>
      obtain ⟨t, ht⟩ := h'.reads (n, text) (List.mem_reverse.mp (mem_of_lookup hlast))
      simp [ht]

theorem Adds.insert {name text : String} {t : Source} (h : Source.parse? name text = some t)
    (l : Library) : l.Adds [(name, text)] (l.insert t) where
  reads := by simp [h]
  get? n := by
    rw [get?_insert, Source.name_of_parse? h, List.reverse_singleton, lookup_cons_eq]
    split
    · rename_i hn
      simp [hn, h]
    · simp

theorem adds_foldl_insert {sources : List (String × String)} {read : List Source}
    (h : List.Forall₂ (fun s t => Source.parse? s.1 s.2 = some t) sources read) (l : Library) :
    l.Adds sources (read.foldl Library.insert l) := by
  induction h generalizing l with
  | nil => exact .refl l
  | cons hs _ ih => exact (Adds.insert hs l).trans (ih _)

theorem adds_of_add {l l' : Library} {sources : List (String × String)}
    (h : l.add sources = .ok l') : l.Adds sources l' := by
  obtain ⟨read, hread, h⟩ := Outcome.bind_eq_ok.mp h
  obtain ⟨_, _, hpure⟩ := Outcome.bind_eq_ok.mp h
  cases hpure
  refine adds_foldl_insert ((Outcome.mapM_eq_ok.mp hread).imp ?_) l
  rintro ⟨name, text⟩ t ht
  simp only at ht
  split at ht
  · cases ht
    assumption
  · cases ht

/-- A plain text can be added if all templates still fit together. -/
theorem add_plain {l : Library} {name text : String} (hbrace : '\x7b' ∉ text.toList)
    (hne : text ≠ "")
    (hfit : (l.insert (.plain name text)).forM
      (fun (_, t) => (l.insert (.plain name text)).fit t) = .ok ()) :
    l.add [(name, text)] = .ok (l.insert (.plain name text)) := by
  refine Outcome.bind_eq_ok.mpr ⟨[.plain name text], ?_, Outcome.bind_eq_ok.mpr ⟨(), hfit, rfl⟩⟩
  simp only [List.mapM_cons, List.mapM_nil, Source.parse?_of_not_mem name hbrace hne]
  rfl

/-! ### Rendering -/

/-- The template of a name is the one that a text reads as. -/
def Registers (l : Library) (name text : String) : Prop :=
  ∃ t, Source.parse? name text = some t ∧ l.get? name = some t

/-- Renders a text as a template of a name, among the templates of a library. -/
def renderText? (l : Library) (name text : String) (context : Fields) : Option String := do
  let t ← Source.parse? name text
  let root ← (l.chain t).getLast?
  let s : Scope := { library := l, context, chain := l.chain t,
                     frames := [{ template := name, closed := true }] }
  ((renderNested 1000 root.nodes).run.run s).1

theorem Registers.render? {l : Library} {name text : String} (h : l.Registers name text)
    (context : Fields) : l.render? name context = l.renderText? name text context := by
  obtain ⟨t, hread, hget⟩ := h
  simp only [Library.render?, renderText?, hread, hget, Option.bind_eq_bind, Option.bind_some]

theorem Adds.registers {l l' : Library} {sources : List (String × String)}
    (h : l.Adds sources l') {n text : String} (hlast : sources.reverse.lookup n = some text) :
    l'.Registers n text := by
  obtain ⟨t, ht⟩ := h.reads (n, text) (List.mem_reverse.mp (mem_of_lookup hlast))
  exact ⟨t, ht, by rw [h.get?, hlast, Option.bind_some, ht, Option.some_or]⟩

end Library

end Template

/-! ### Targets -/

namespace Target

open Template

theorem pathName_inj {i j : Nat} : pathName i = pathName j ↔ i = j := by
  constructor
  · intro h
    rw [pathName, pathName, String.append_right_inj, Nat.toString_eq_ofList_toDigits,
      Nat.toString_eq_ofList_toDigits, String.ofList_inj] at h
    rw [← Nat.ofDigitChars_ten_toDigits (n := i), h, Nat.ofDigitChars_ten_toDigits]
  · exact congrArg pathName

/-- The sources of the templates of paths, which are counted from `index`. -/
def pathSources (index : Nat) (outputs : List Output) : List (String × String) :=
  outputs.mapIdx fun i o => (pathName (index + i), o.path)

theorem adds_of_addPaths {target : String} {outputs : List Output} {l l' : Library} {index : Nat}
    (h : addPaths target l index outputs = .ok l') : l.Adds (pathSources index outputs) l' := by
  induction outputs generalizing l index with
  | nil =>
    cases h
    exact .refl l'
  | cons o outputs ih =>
    unfold addPaths at h
    split at h
    · rename_i l₁ hadd
      have hfirst := Library.adds_of_add hadd
      have hrest := ih h
      have hsources : pathSources index (o :: outputs) =
          [(pathName index, o.path)] ++ pathSources (index + 1) outputs := by
        simp [pathSources, List.mapIdx_cons, Nat.add_assoc, Nat.add_comm 1]
      exact hsources ▸ hfirst.trans hrest
    · cases h

/-- A target that is put together comes from three steps that succeed. -/
theorem compile_eq_ok {name : String} {params : TargetParams}
    {partials templates : List (String × String)} {t : Target}
    (h : compile name params partials templates = .ok t) : ∃ l l₁ l₂,
      Library.add [] partials = .ok l ∧ l.add templates = .ok l₁ ∧
      addPaths name l₁ 0 params.outputs = .ok l₂ ∧
      t = ⟨name, params, l₂, templates.map (·.1)⟩ := by
  unfold compile at h
  cases hpartials : Library.add [] partials with
  | error fault =>
    simp only [hpartials] at h
    split at h <;> cases h
  | ok l =>
    simp only [hpartials] at h
    split at h
    · cases h
    split at h
    · rename_i l₁ htemplates
      obtain ⟨l₂, hpaths, hpure⟩ := Outcome.bind_eq_ok.mp h
      cases hpure
      exact ⟨l, l₁, l₂, rfl, htemplates, hpaths, rfl⟩
    · cases h

/-- A target is loaded by putting together what is read in its directory. -/
theorem load_eq_ok {d : Disk} {root : Path} {name : String} {t : Target} :
    load d root name = .ok t ↔ ∃ params partials templates,
      d.isDir (root.join ⟨name⟩) ∧ TargetParams.load d (root.join ⟨name⟩) = .ok params ∧
      readSources d Path.stem (listFiles d ((root.join ⟨name⟩).join ⟨"partials"⟩) false) =
        .ok partials ∧
      readSources d (outputName ((root.join ⟨name⟩).join ⟨"outputs"⟩))
        (listFiles d ((root.join ⟨name⟩).join ⟨"outputs"⟩) true) = .ok templates ∧
      compile name params partials templates = .ok t := by
  unfold load
  simp only [Outcome.guard_eq_ok, Outcome.bind_eq_ok, Bool.not_eq_true', Bool.not_eq_false]
  constructor
  · rintro ⟨hdir, params, hparams, partials, hpartials, templates, htemplates, hcompile⟩
    exact ⟨params, partials, templates, hdir, hparams, hpartials, htemplates, hcompile⟩
  · rintro ⟨params, partials, templates, hdir, hparams, hpartials, htemplates, hcompile⟩
    exact ⟨hdir, params, hparams, partials, hpartials, templates, htemplates, hcompile⟩

/-- What a target that has been put together has. -/
theorem adds_of_compile {name : String} {params : TargetParams}
    {partials templates : List (String × String)} {t : Target}
    (h : compile name params partials templates = .ok t) :
    Library.Adds [] (partials ++ templates ++ pathSources 0 params.outputs) t.library ∧
      t.params = params ∧ t.templates = templates.map (·.1) := by
  obtain ⟨l, l₁, l₂, hpartials, htemplates, hpaths, rfl⟩ := compile_eq_ok h
  exact ⟨((Library.adds_of_add hpartials).trans (Library.adds_of_add htemplates)).trans
    (adds_of_addPaths hpaths), rfl, rfl⟩

theorem mem_pathSources {n text : String} {outputs : List Output} :
    (n, text) ∈ pathSources 0 outputs ↔
      ∃ i o, outputs[i]? = some o ∧ n = pathName i ∧ text = o.path := by
  simp only [pathSources, List.mem_mapIdx, List.getElem?_eq_some_iff, Nat.zero_add, Prod.mk.injEq]
  constructor
  · rintro ⟨i, hi, rfl, rfl⟩; exact ⟨i, _, ⟨hi, rfl⟩, rfl, rfl⟩
  · rintro ⟨i, o, ⟨hi, rfl⟩, rfl, rfl⟩; exact ⟨i, hi, rfl, rfl⟩

/-- Under the name of the template of a path, the last source is the path that was declared. -/
theorem lookup_pathName {outputs : List Output} {i : Nat} {o : Output}
    (h : outputs[i]? = some o) (sources : List (String × String)) :
    (sources ++ pathSources 0 outputs).reverse.lookup (pathName i) = some o.path := by
  rw [List.reverse_append, List.lookup_append]
  have hlast : (pathSources 0 outputs).reverse.lookup (pathName i) = some o.path := by
    refine lookup_of_mem (List.mem_reverse.mpr (mem_pathSources.mpr ⟨i, o, h, rfl, rfl⟩)) ?_
    intro text htext
    obtain ⟨j, o', h', hname, rfl⟩ := mem_pathSources.mp (List.mem_reverse.mp htext)
    rw [← pathName_inj.mp hname, h] at h'
    cases h'
    rfl
  rw [hlast, Option.some_or]

/-- Under any other name, the templates of paths play no part. -/
theorem lookup_of_ne_pathName {outputs : List Output} {n : String}
    (h : ∀ i < outputs.length, n ≠ pathName i) (sources : List (String × String)) :
    (sources ++ pathSources 0 outputs).reverse.lookup n = sources.reverse.lookup n := by
  rw [List.reverse_append, List.lookup_append]
  have hnone : (pathSources 0 outputs).reverse.lookup n = none := by
    cases hfound : (pathSources 0 outputs).reverse.lookup n with
    | none => rfl
    | some text =>
      obtain ⟨i, o, ho, hname, _⟩ :=
        mem_pathSources.mp (List.mem_reverse.mp (mem_of_lookup hfound))
      obtain ⟨hi, _⟩ := List.getElem?_eq_some_iff.mp ho
      exact absurd hname (h i hi)
  rw [hnone, Option.none_or]

theorem renderPath_eq_ok {t : Target} {i : Nat} {o : Output} {context : Fields} {path : String} :
    t.renderPath i o context = .ok path ↔
      ∃ text, t.library.render? (pathName i) context = some text ∧ path = Text.trim text ∧
        path ≠ "" := by
  unfold renderPath
  cases t.library.render? (pathName i) context with
  | none => simp
  | some text =>
    by_cases hempty : Text.trim text = ""
    · simp [hempty]
    · simp only [String.isEmpty_iff, hempty, if_false, Except.ok.injEq, Option.some.injEq]
      constructor
      · rintro rfl; exact ⟨text, rfl, rfl, hempty⟩
      · rintro ⟨_, rfl, rfl, _⟩; rfl

theorem renderContents_eq_ok {t : Target} {o : Output} {context : Fields} {out : String}
    (hdefined : t.hasTemplate o.templateName) :
    t.renderContents o context = .ok out ↔ t.library.render? o.templateName context = some out := by
  rw [renderContents, if_pos hdefined]
  cases t.library.render? o.templateName context <;> simp

theorem renderPath_of_plain {t : Target} {i : Nat} {o : Output} {path : String}
    (h : t.library.get? (pathName i) = some (.plain (pathName i) path))
    (hempty : Text.trim path ≠ "") (context : Fields) :
    t.renderPath i o context = .ok (Text.trim path) :=
  renderPath_eq_ok.mpr ⟨path, Library.render?_plain h context, rfl, hempty⟩

theorem renderContents_of_plain {t : Target} {o : Output} {text : String}
    (h : t.library.get? o.templateName = some (.plain o.templateName text))
    (hdefined : t.hasTemplate o.templateName) (context : Fields) :
    t.renderContents o context = .ok text :=
  (renderContents_eq_ok hdefined).mpr (Library.render?_plain h context)

/-- In a target that has been put together, the path of each output is rendered from what was
declared. Every other template is the last source that was given for its name, unless it has the
name of the template of a path; and where it has not, the text of an output is rendered from this
source. -/
theorem compile_registers {name : String} {params : TargetParams}
    {partials templates : List (String × String)} {t : Target}
    (h : compile name params partials templates = .ok t) :
    (∀ n source, (partials ++ templates).reverse.lookup n = some source →
      (∀ i < params.outputs.length, n ≠ pathName i) → t.library.Registers n source) ∧
    ∀ i o, params.outputs[i]? = some o → (i, o) ∈ t.outputs ∧
      t.library.Registers (pathName i) o.path ∧
      (∀ context path, t.renderPath i o context = .ok path ↔
        ∃ text, t.library.renderText? (pathName i) o.path context = some text ∧
          path = Text.trim text ∧ path ≠ "") ∧
      ∀ source, templates.reverse.lookup o.templateName = some source →
        (∀ k < params.outputs.length, o.templateName ≠ pathName k) →
        ∀ context text, t.renderContents o context = .ok text ↔
          t.library.renderText? o.templateName source context = some text := by
  obtain ⟨hadds, hparams, htemplates⟩ := adds_of_compile h
  have huser (n source : String) (hlast : (partials ++ templates).reverse.lookup n = some source)
      (hne : ∀ i < params.outputs.length, n ≠ pathName i) : t.library.Registers n source :=
    hadds.registers ((lookup_of_ne_pathName hne _).trans hlast)
  refine ⟨huser, fun i o ho => ?_⟩
  have hpath : t.library.Registers (pathName i) o.path := hadds.registers (lookup_pathName ho _)
  refine ⟨?_, hpath, fun context path => ?_, fun source hlast hne context text => ?_⟩
  · obtain ⟨hi, rfl⟩ := List.getElem?_eq_some_iff.mp ho
    simp [outputs, hparams, List.mem_mapIdx, hi]
  · rw [renderPath_eq_ok, hpath.render?]
  · have hdefined : t.hasTemplate o.templateName := by
      have hmem := List.mem_reverse.mp (mem_of_lookup hlast)
      simpa [hasTemplate, htemplates] using ⟨source, hmem⟩
    have hboth : (partials ++ templates).reverse.lookup o.templateName = some source := by
      rw [List.reverse_append, List.lookup_append, hlast, Option.some_or]
    rw [renderContents_eq_ok hdefined, (huser _ source hboth hne).render?]

/-- The parameters of a target with one output. -/
def single (template : String) : TargetParams where
  outputs := [⟨template, "x.txt", none⟩]

theorem compile_single {template : String} {l : Library}
    (h : Library.add [(template, .plain template "hello")] [(pathName 0, "x.txt")] = .ok l) :
    compile "txt" (single template) [] [(template, "hello")] =
      .ok ⟨"txt", single template, l, [template]⟩ := by
  have hfirst : Library.add [] [(template, "hello")] =
      .ok [(template, .plain template "hello")] :=
    Library.add_plain (by decide) (by decide) rfl
  have hnone : Library.add [] [] = .ok [] := rfl
  have hshared : sharedName? [] [template] = none := by simp [sharedName?]
  have hpaths : addPaths "txt" [(template, .plain template "hello")] 0 (single template).outputs =
      .ok l := by
    unfold addPaths
    simp only [single, h]
    rfl
  simp only [compile, hnone, hfirst, List.map_nil, List.map_cons, hshared, hpaths]
  rfl

theorem compile_registers_single : ∃ t, compile "txt" (single "model") [] [("model", "hello")] =
      .ok t ∧ t.library.Registers "model" "hello" ∧ t.library.Registers (pathName 0) "x.txt" ∧
      ∀ context text, t.renderContents ⟨"model", "x.txt", none⟩ context = .ok text ↔
        t.library.renderText? "model" "hello" context = some text := by
  let l : Library := [("model", .plain "model" "hello")]
  have hadd : l.add [(pathName 0, "x.txt")] = .ok (l.insert (.plain (pathName 0) "x.txt")) :=
    Library.add_plain (by decide) (by decide) (by decide)
  have hne : ∀ i < (single "model").outputs.length, "model" ≠ pathName i := by decide
  obtain ⟨huser, houtput⟩ := compile_registers (compile_single hadd)
  obtain ⟨_, hpath, _, hcontents⟩ := houtput 0 ⟨"model", "x.txt", none⟩ rfl
  exact ⟨_, compile_single hadd, huser "model" "hello" rfl hne, hpath, hcontents "hello" rfl hne⟩

/-- A template with the name of the template of a path gives way to it. -/
theorem renderContents_pathName : ∃ t,
    compile "txt" (single (pathName 0)) [] [(pathName 0, "hello")] = .ok t ∧
      ∀ context, t.renderContents ⟨pathName 0, "x.txt", none⟩ context = .ok "x.txt" := by
  let l : Library := [(pathName 0, .plain (pathName 0) "hello")]
  have hadd : l.add [(pathName 0, "x.txt")] = .ok (l.insert (.plain (pathName 0) "x.txt")) :=
    Library.add_plain (by decide) (by decide) (by decide)
  refine ⟨_, compile_single hadd, fun context => renderContents_of_plain ?_ ?_ context⟩
  · rw [Library.get?_insert]
    exact if_pos rfl
  · exact List.contains_iff_mem.mpr (List.mem_singleton_self _)

end Target

end Stencil
