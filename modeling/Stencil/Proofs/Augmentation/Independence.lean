import Stencil.Proofs.Augmentation.History
import Stencil.Proofs.Definition.Acceptance

/-! Augmentations do not interfere with construction.

All that augmentations change in a document are extensions, and methods behind those that a model
has already (`Document.Grows`); the rest of the document stays (`Document.bare`). Construction
resolves the types of methods, but no other part of it depends on them. So an augmented document can
be built iff the document can and the types of the new methods can be resolved
(`isConsistent_iff_of_grows`), and then the two definitions agree in all but extensions and methods
(`extends_of_build`). -/

namespace Stencil

namespace Document

/-- A model without its methods and extensions. -/
def Model.bare (m : Model) : Model := { m with methods := [], extensions := [] }

/-- A document without the methods of its models, its extensions and those of its models. -/
def bare (d : Document) : Document := { d with models := d.models.map Model.bare, extensions := [] }

theorem Model.bare_eq_iff {m m' : Model} :
    m'.bare = m.bare ↔ m'.name = m.name ∧ m'.isAbstract = m.isAbstract ∧
      m'.baseModel = m.baseModel ∧ m'.properties = m.properties ∧ m'.contracts = m.contracts := by
  simp [Model.bare]

theorem bare_eq_iff {d d' : Document} :
    d'.bare = d.bare ↔ d'.nameSpace = d.nameSpace ∧ d'.options = d.options ∧ d'.enums = d.enums ∧
      d'.contracts = d.contracts ∧ d'.models.map Model.bare = d.models.map Model.bare ∧
      d'.services = d.services := by
  simp [bare]

/-- A model to which methods of a list have been added behind its own. Its extensions may differ. -/
structure Model.Grows (added : List Method) (m m' : Model) : Prop where
  bare : m'.bare = m.bare
  methods : ∃ extra, m'.methods = m.methods ++ extra ∧ extra ⊆ added

/-- A document to whose models all methods of a list, and only these, have been added. Its
extensions and those of its models may differ. -/
structure Grows (added : List Method) (d d' : Document) : Prop where
  bare : d'.bare = d.bare
  models : List.Forall₂ (Model.Grows added) d.models d'.models
  added : ∀ f ∈ added, ∃ m ∈ d'.models, f ∈ m.methods

namespace Model.Grows

variable {as bs : List Method}

theorem refl (m : Model) : m.Grows as m :=
  ⟨rfl, [], (List.append_nil _).symm, List.nil_subset _⟩

theorem trans {a b c : Model} (h : a.Grows as b) (h' : b.Grows bs c) : a.Grows (as ++ bs) c := by
  obtain ⟨extra, hextra, hadded⟩ := h.methods
  obtain ⟨extra', hextra', hadded'⟩ := h'.methods
  refine ⟨h'.bare.trans h.bare, extra ++ extra', ?_, ?_⟩
  · rw [hextra', hextra, List.append_assoc]
  · exact List.append_subset_of_subset_of_subset
      (List.Subset.trans hadded (List.subset_append_left ..))
      (List.Subset.trans hadded' (List.subset_append_right ..))

theorem methods_subset {m m' : Model} (h : m.Grows as m') : m.methods ⊆ m'.methods := by
  obtain ⟨extra, hextra, _⟩ := h.methods
  rw [hextra]
  exact List.subset_append_left ..

end Model.Grows

namespace Grows

variable {as bs : List Method} {d d' : Document}

theorem refl (d : Document) : d.Grows [] d :=
  ⟨rfl, List.forall₂_same.mpr fun m _ => .refl m, by simp⟩

theorem trans {a b c : Document} (h : a.Grows as b) (h' : b.Grows bs c) :
    a.Grows (as ++ bs) c := by
  refine ⟨h'.bare.trans h.bare, Outcome.forall₂_trans (fun _ _ _ => .trans) h.models h'.models,
    fun f hf => ?_⟩
  rcases List.mem_append.mp hf with hf | hf
  · obtain ⟨m, hm, hfm⟩ := h.added f hf
    obtain ⟨m', hm', hgrows⟩ := Outcome.exists_of_mem_left h'.models hm
    exact ⟨m', hm', hgrows.methods_subset hfm⟩
  · exact h'.added f hf

theorem names (h : d.Grows as d') : d'.models.map (·.name) = d.models.map (·.name) := by
  have hbare := congrArg (fun d => d.models.map (·.name)) h.bare
  simpa [Document.bare, Model.bare, Function.comp_def] using hbare

end Grows

end Document

namespace Augmentation

open Document

/-- The methods that patches add to models of the given names: those of the patches for one of
them. -/
def patchMethods (names : List String) (patches : List Patch) : List Method :=
  (patches.filter (·.name ∈ names)).flatMap (·.methods)

/-- The methods that augmentations add to a document. -/
def addedMethods (augmentations : List Augmentation) (d : Document) : List Method :=
  patchMethods (d.models.map (·.name)) (augmentations.flatMap (·.models))

theorem patchMethods_append (names : List String) (ps qs : List Patch) :
    patchMethods names (ps ++ qs) = patchMethods names ps ++ patchMethods names qs := by
  simp only [patchMethods, List.filter_append, List.flatMap_append]

theorem patchMethods_singleton (names : List String) (p : Patch) :
    patchMethods names [p] = if p.name ∈ names then p.methods else [] := by
  by_cases h : p.name ∈ names <;> simp [patchMethods, h]

/-! ### What augmentations change -/

/-- Only the first model of the name is changed. -/
theorem changeFirst_eq_some {name : String} {change : Model → Model} {models models' : List Model}
    (h : changeFirst name change models = some models') :
    ∃ before m after, models = before ++ m :: after ∧ models' = before ++ change m :: after ∧
      m.name = name ∧ name ∉ before.map (·.name) := by
  fun_induction changeFirst name change models generalizing models' with
  | case1 => cases h
  | case2 m rest hname =>
    cases h
    exact ⟨[], m, rest, rfl, rfl, hname, by simp⟩
  | case3 m rest hname ih =>
    obtain ⟨rest', hrest', rfl⟩ := Option.map_eq_some_iff.mp h
    obtain ⟨before, found, after, rfl, rfl, hfound, hbefore⟩ := ih hrest'
    exact ⟨m :: before, found, after, rfl, rfl, hfound, by simpa [Ne.symm hname] using hbefore⟩

theorem changeFirst_eq_none {name : String} {change : Model → Model} {models : List Model} :
    changeFirst name change models = none ↔ name ∉ models.map (·.name) := by
  fun_induction changeFirst name change models with
  | case1 => simp
  | case2 m rest hname => simp [hname]
  | case3 m rest hname ih => simp [ih, Ne.symm hname]

theorem Patch.grows_applyToModel (p : Patch) (m : Model) : m.Grows p.methods (p.applyToModel m) :=
  ⟨rfl, p.methods, rfl, fun _ h => h⟩

/-- One patch adds its methods to a model, or nothing if there is no such model. -/
theorem grows_applyPatch (a : Augmentation) (s : Document × List Record) (p : Patch) :
    s.1.Grows (patchMethods (s.1.models.map (·.name)) [p]) (a.applyPatch s p).1 := by
  rw [patchMethods_singleton, applyPatch]
  cases hchanged : changeFirst p.name p.applyToModel s.1.models with
  | some models =>
    obtain ⟨before, m, after, hmodels, rfl, hname, _⟩ := changeFirst_eq_some hchanged
    have hsame : ∀ ms : List Model, List.Forall₂ (Model.Grows p.methods) ms ms :=
      fun ms => List.forall₂_same.mpr fun m _ => .refl m
    have hm := p.grows_applyToModel m
    rw [if_pos (by simp [hmodels, hname])]
    refine ⟨?_, ?_, fun f hf => ⟨p.applyToModel m, by simp, ?_⟩⟩
    · simp only [bare, hmodels, List.map_append, List.map_cons, hm.bare]
    · rw [hmodels]
      exact List.rel_append (hsame before) (.cons hm (hsame after))
    · exact List.mem_append_right _ hf
  | none =>
    rw [if_neg (changeFirst_eq_none.mp hchanged)]
    exact .refl _

/-- Patches add their methods one after another; no patch changes which models there are. -/
theorem grows_foldl_applyPatch (a : Augmentation) : ∀ (patches : List Patch)
    (s : Document × List Record), s.1.Grows (patchMethods (s.1.models.map (·.name)) patches)
      (patches.foldl a.applyPatch s).1
  | [], s => .refl s.1
  | p :: patches, s => by
    have hstep := grows_applyPatch a s p
    have hrest := grows_foldl_applyPatch a patches (a.applyPatch s p)
    rw [hstep.names] at hrest
    rw [← List.singleton_append, patchMethods_append, List.singleton_append, List.foldl_cons]
    exact hstep.trans hrest

theorem grows_applyTo (a : Augmentation) (d : Document) :
    d.Grows (patchMethods (d.models.map (·.name)) a.models) (a.applyTo d).1 := by
  let extended : Document := { d with extensions := d.extensions.override a.extensions }
  have hextended : d.Grows [] extended := { Grows.refl d with }
  exact hextended.trans (grows_foldl_applyPatch a a.models (extended, []))

theorem grows_applyAll : ∀ (augmentations : List Augmentation) (d : Document),
    d.Grows (addedMethods augmentations d) (applyAll augmentations d).1
  | [], d => .refl d
  | a :: rest, d => by
    have hstep := grows_applyTo a d
    have hrest := grows_applyAll rest (a.applyTo d).1
    rw [addedMethods, hstep.names] at hrest
    rw [addedMethods, List.flatMap_cons, patchMethods_append]
    exact hstep.trans hrest

end Augmentation

namespace Document

open Definition (namesOf)

variable {added : List Method} {d d' : Document}

/-! ### What construction reads -/

theorem namesOf_bare (d : Document) : namesOf d.bare = namesOf d := by
  simp [namesOf, bare, Model.bare, Function.comp_def]

theorem Grows.namesOf_eq (h : d.Grows added d') : namesOf d' = namesOf d := by
  rw [← namesOf_bare d', h.bare, namesOf_bare d]

/-- All but the types of methods is decided by the bare document. -/
theorem isConsistent_iff_bare (d : Document) :
    d.IsConsistent ↔ d.bare.IsConsistent ∧ ∀ m ∈ d.models, ∀ f ∈ m.methods, ∀ raw ∈ f.typeTexts,
      ∃ t, DataType.parse (namesOf d) raw = .ok t := by
  have hnames := namesOf_bare d
  constructor
  · rintro ⟨hc, hp, hf, hs, hn, hq, hb⟩
    rw [← hnames] at hc hp hs hq
    refine ⟨⟨hc, List.forall_mem_map.mpr hp, ?_, hs, List.forall_mem_map.mpr hn,
      List.forall_mem_map.mpr hq, List.forall_mem_map.mpr ?_⟩, hf⟩
    · exact List.forall_mem_map.mpr fun m _ f hf => absurd hf List.not_mem_nil
    · simpa [bare, Model.bare, Function.comp_def] using hb
  · rintro ⟨⟨hc, hp, _, hs, hn, hq, hb⟩, hf⟩
    rw [hnames] at hc hp hs hq
    refine ⟨hc, List.forall_mem_map.mp hp, hf, hs, List.forall_mem_map.mp hn,
      List.forall_mem_map.mp hq, ?_⟩
    simpa [bare, Model.bare, Function.comp_def] using hb

/-- The methods of a document that has grown are those that were there and those that were added. -/
theorem Grows.forall_methods_iff (h : d.Grows added d') (P : Method → Prop) :
    (∀ m ∈ d'.models, ∀ f ∈ m.methods, P f) ↔
      (∀ m ∈ d.models, ∀ f ∈ m.methods, P f) ∧ ∀ f ∈ added, P f := by
  constructor
  · intro hP
    constructor
    · intro m hm f hf
      obtain ⟨m', hm', hgrows⟩ := Outcome.exists_of_mem_left h.models hm
      exact hP m' hm' f (hgrows.methods_subset hf)
    · intro f hf
      obtain ⟨m, hm, hfm⟩ := h.added f hf
      exact hP m hm f hfm
  · rintro ⟨hold, hnew⟩ m' hm' f hf
    obtain ⟨m, hm, hgrows⟩ := Outcome.exists_of_mem_right h.models hm'
    obtain ⟨extra, hextra, hadded⟩ := hgrows.methods
    rw [hextra] at hf
    rcases List.mem_append.mp hf with hf | hf
    · exact hold m hm f hf
    · exact hnew f (hadded hf)

/-- A document that has grown is consistent iff it was before and the types of the methods that were
added can be resolved. -/
theorem isConsistent_iff_of_grows (h : d.Grows added d') :
    d'.IsConsistent ↔ d.IsConsistent ∧
      ∀ f ∈ added, ∀ raw ∈ f.typeTexts, ∃ t, DataType.parse (namesOf d) raw = .ok t := by
  rw [isConsistent_iff_bare d', isConsistent_iff_bare d, h.bare, h.namesOf_eq,
    h.forall_methods_iff, and_assoc]

end Document

namespace Definition

open Outcome

/-- A model with methods behind those of another. Their extensions may differ. -/
structure Model.Extends (m m' : Model) : Prop where
  name : m'.name = m.name
  isAbstract : m'.isAbstract = m.isAbstract
  baseModel : m'.baseModel = m.baseModel
  contracts : m'.contracts = m.contracts
  properties : m'.properties = m.properties
  methods : m.methods <+: m'.methods

/-- A definition with methods behind those of the models of another. Their extensions and those of
their models may differ. -/
structure Extends (d d' : Definition) : Prop where
  name : d'.name = d.name
  nameSpace : d'.nameSpace = d.nameSpace
  options : d'.options = d.options
  enums : d'.enums = d.enums
  contracts : d'.contracts = d.contracts
  services : d'.services = d.services
  models : List.Forall₂ Model.Extends d.models d'.models

/-! ### What is built -/

theorem Model.extends_of_build {known : KnownNames} {contracts : List Contract}
    {added : List Document.Method} {doc doc' : Document.Model} {m m' : Model}
    (h : doc.Grows added doc') (hm : Model.build known contracts doc = .ok m)
    (hm' : Model.build known contracts doc' = .ok m') : m.Extends m' := by
  obtain ⟨own, methods, included, properties, hown, hmethods, hincluded, hmerge, rfl⟩ :=
    Model.build_eq_ok.mp hm
  obtain ⟨own', methods', included', properties', hown', hmethods', hincluded', hmerge', rfl⟩ :=
    Model.build_eq_ok.mp hm'
  obtain ⟨hname, habstract, hbase, hproperties, hcontracts⟩ := Document.Model.bare_eq_iff.mp h.bare
  obtain ⟨extra, hextra, _⟩ := h.methods
  rw [hproperties, hown] at hown'
  rw [hname, hcontracts, hincluded] at hincluded'
  cases hown'
  cases hincluded'
  rw [hname, hmerge] at hmerge'
  cases hmerge'
  rw [hextra, List.mapM_append, hmethods] at hmethods'
  simp only [bind_eq_ok, pure_eq_ok] at hmethods'
  obtain ⟨_, hsame, more, _, rfl⟩ := hmethods'
  cases hsame
  exact ⟨hname, habstract, hbase, hcontracts, rfl, List.prefix_append ..⟩

theorem extends_of_build {name : String} {options : Fields} {added : List Document.Method}
    {doc doc' : Document} {d d' : Definition} (h : doc.Grows added doc')
    (hd : build name doc options = .ok d) (hd' : build name doc' options = .ok d') :
    d.Extends d' := by
  obtain ⟨contracts, models, services, hcontracts, hmodels, hservices, _, rfl⟩ :=
    build_eq_ok.mp hd
  obtain ⟨contracts', models', services', hcontracts', hmodels', hservices', _, rfl⟩ :=
    build_eq_ok.mp hd'
  have hknown := h.namesOf_eq
  obtain ⟨hspace, hoptions, henums, hsameContracts, _, hsameServices⟩ :=
    Document.bare_eq_iff.mp h.bare
  rw [hknown, hsameContracts, hcontracts] at hcontracts'
  rw [hknown, hsameServices, hservices] at hservices'
  cases hcontracts'
  cases hservices'
  rw [hknown] at hmodels'
  have hextends : List.Forall₂ Model.Extends models models' := by
    refine forall₂_of_mapM ?_ h.models hmodels hmodels'
    exact fun _ _ _ _ => Model.extends_of_build
  refine ⟨rfl, hspace, ?_, ?_, rfl, rfl, hextends⟩
  · rw [assemble, assemble, hoptions]
  · rw [assemble, assemble, henums]

open Augmentation

/-- A document can be built after its augmentations have been applied iff it can be built before and
the types of the methods that they add can be resolved. What is built then differs only in the
extensions of the definition and of its models, and by methods behind the others. -/
theorem build_augmented (index : Index) (name : String) (doc : Document) (options : Fields) :
    ((∃ d', build name (index.augment name doc).1 options = .ok d') ↔
      (∃ d, build name doc options = .ok d) ∧
      ∀ f ∈ addedMethods (index.matching name doc) doc, ∀ raw ∈ f.typeTexts,
        ∃ t, DataType.parse (namesOf doc) raw = .ok t) ∧
    ∀ d', build name (index.augment name doc).1 options = .ok d' →
      ∃ d, build name doc options = .ok d ∧ d.Extends d' := by
  have hgrows : doc.Grows (addedMethods (index.matching name doc) doc)
      (index.augment name doc).1 := by
    rw [Index.augment_eq]
    exact grows_applyAll (index.matching name doc) doc
  have hiff := Document.isConsistent_iff_of_grows hgrows
  rw [← exists_build_iff, ← exists_build_iff] at hiff
  refine ⟨hiff, fun d' hd' => ?_⟩
  obtain ⟨⟨d, hd⟩, _⟩ := hiff.mp ⟨d', hd'⟩
  exact ⟨d, hd, extends_of_build hgrows hd hd'⟩

/-- Two models of one name. -/
def twins : Document where
  models := [{ name := "Order", methods := [{ name := "total" }] }, { name := "Order" }]

/-- Two augmentations for the twins, one of them found by its file; the last patch is for a model
that is not there, so that its type need not be known. -/
def twinAugmentations : Index := Index.ofList
  [(⟨"a.yml"⟩,
    { fqn := some "Shop", extensions := [("audited", .bool true)]
      models := [{ name := "Order"
                   methods := [{ name := "next", returnType := some "Order?" }] }] }),
   (⟨"more/Shop.yml"⟩,
    { models := [{ name := "Order", methods := [{ name := "pay" }] },
                 { name := "Gone", methods := [{ name := "find", returnType := some "Gone" }] }] })]

theorem build_augmented_twins : ∃ d d', build "Shop" twins [] = .ok d ∧
    build "Shop" (twinAugmentations.augment "Shop" twins).1 [] = .ok d' ∧ d.Extends d' ∧
    d'.models.map (fun m => m.methods.map (·.name)) = [["total", "next", "pay"], []] := by
  have hmethods : (build "Shop" (twinAugmentations.augment "Shop" twins).1 []).toOption.map
      (fun d => d.models.map fun m => m.methods.map (·.name)) =
        some [["total", "next", "pay"], []] := by decide +kernel
  cases h : build "Shop" (twinAugmentations.augment "Shop" twins).1 [] with
  | error e => rw [h] at hmethods; cases hmethods
  | ok d' =>
    rw [h] at hmethods
    obtain ⟨d, hd, hextends⟩ := (build_augmented twinAugmentations "Shop" twins []).2 d' h
    exact ⟨d, d', hd, rfl, hextends, Option.some.inj hmethods⟩

end Definition

end Stencil
