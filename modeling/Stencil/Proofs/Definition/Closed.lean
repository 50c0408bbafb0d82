import Stencil.Proofs.Definition.Merging
import Stencil.Proofs.Definition.References

/-! Built definitions are closed.

Every stored type is the one that its text names among the enums and models of the definition
itself, and every contract and base model that a model names is there (`Closed`). Construction
establishes this through name collection, resolution, merging and the check of base models
(`closed_of_build`). What templates see of a closed definition can always be found
(`exists_context`), so that no lookup fails once a definition has been built. -/

namespace Stencil

/-- The enums and models that a type refers to are among the known ones. -/
def DataType.RefersTo (known : KnownNames) : DataType → Prop
  | .primitive .. => True
  | .enum name _ => name ∈ known.enums
  | .model name _ => name ∈ known.models
  | .list item _ => item.RefersTo known

namespace Definition

/-- The names of the enums and models of a definition. -/
def known (d : Definition) : KnownNames := ⟨d.enums.map (·.name), d.models.map (·.name)⟩

/-- The type of a property is the one that its text names. -/
def Property.IsTyped (known : KnownNames) (p : Property) : Prop :=
  DataType.parse known p.rawType = .ok p.dataType

/-- The type of a parameter is the one that its text names. -/
def Param.IsTyped (known : KnownNames) (p : Param) : Prop :=
  DataType.parse known p.rawType = .ok p.dataType

/-- The result of a method refers to known names, and its parameters have the types that their texts
name. -/
structure Method.IsTyped (known : KnownNames) (m : Method) : Prop where
  result : ∀ t, m.returnType = some t → t.RefersTo known
  params : ∀ p ∈ m.params, p.IsTyped known

/-- Every type in a definition is resolved against the names of the definition. -/
structure IsTyped (d : Definition) : Prop where
  contractProperties : ∀ c ∈ d.contracts, ∀ p ∈ c.properties, p.IsTyped d.known
  modelProperties : ∀ m ∈ d.models, ∀ p ∈ m.properties, p.IsTyped d.known
  modelMethods : ∀ m ∈ d.models, ∀ f ∈ m.methods, f.IsTyped d.known
  serviceMethods : ∀ s ∈ d.services, ∀ f ∈ s.methods, f.IsTyped d.known

/-- All types are resolved, and all contracts and base models that models name are there. -/
structure Closed (d : Definition) : Prop where
  typed : d.IsTyped
  contracts : ∀ m ∈ d.models, ∃ included, d.modelContracts m = .ok included
  bases : ∀ m ∈ d.models, ∃ base, d.baseModel m = .ok base

open Outcome

/-! ### What construction establishes -/

/-- Resolution only finds names that are known. -/
theorem refersTo_of_resolve? {known : KnownNames} {cs : List Char} {t : DataType}
    (h : DataType.resolve? known cs = some t) : t.RefersTo known := by
  fun_induction DataType.resolve? known cs generalizing t with
  | case1 => cases h; trivial
  | case2 => cases h; exact ‹_ ∈ known.enums›
  | case3 => cases h; exact ‹_ ∈ known.models›
  | case4 =>
    rename_i ih
    obtain ⟨inner, hinner, rfl⟩ := Option.map_eq_some_iff.mp h
    exact (ih hinner : inner.RefersTo known)
  | case5 => cases h

theorem refersTo_of_parse {known : KnownNames} {raw : String} {t : DataType}
    (h : DataType.parse known raw = .ok t) : t.RefersTo known := by
  unfold DataType.parse at h
  split at h
  · cases h; exact refersTo_of_resolve? ‹_›
  · cases h

theorem Property.isTyped_of_build {known : KnownNames} {doc : Document.Property} {p : Property}
    (h : Property.build known doc = .ok p) : p.IsTyped known := by
  obtain ⟨t, ht, rfl⟩ := Property.build_eq_ok.mp h
  exact ht

theorem Method.isTyped_of_build {known : KnownNames} {doc : Document.Method} {m : Method}
    (h : Method.build known doc = .ok m) : m.IsTyped known := by
  obtain ⟨t, params, ht, hparams, rfl⟩ := Method.build_eq_ok.mp h
  constructor
  · rintro t rfl
    rcases option_mapM_eq_ok.mp ht with ⟨_, hnone⟩ | ⟨raw, t', _, hsome, hparse⟩
    · cases hnone
    · cases hsome; exact refersTo_of_parse hparse
  · intro p hp
    obtain ⟨raw, _, hraw⟩ := exists_of_mem_mapM hparams hp
    obtain ⟨t', ht', rfl⟩ := Param.build_eq_ok.mp hraw
    exact ht'

theorem Contract.isTyped_of_build {known : KnownNames} {doc : Document.Contract} {c : Contract}
    (h : Contract.build known doc = .ok c) : ∀ p ∈ c.properties, p.IsTyped known := by
  obtain ⟨properties, hproperties, rfl⟩ := Contract.build_eq_ok.mp h
  intro p hp
  obtain ⟨raw, _, hraw⟩ := exists_of_mem_mapM hproperties hp
  exact Property.isTyped_of_build hraw

theorem Model.isTyped_of_build {known : KnownNames} {contracts : List Contract}
    (hcontracts : ∀ c ∈ contracts, ∀ p ∈ c.properties, p.IsTyped known) {doc : Document.Model}
    {m : Model} (h : Model.build known contracts doc = .ok m) :
    (∀ p ∈ m.properties, p.IsTyped known) ∧ ∀ f ∈ m.methods, f.IsTyped known := by
  obtain ⟨own, methods, included, hparts, _, rfl⟩ := Model.build_eq_ok_iff.mp h
  constructor
  · intro p hp
    rcases List.mem_append.mp hp with hp | hp
    · obtain ⟨raw, _, hraw⟩ := exists_of_mem_mapM hparts.own hp
      exact Property.isTyped_of_build hraw
    · obtain ⟨_, q, hq, rfl⟩ := exists_of_mem_takenOver hp
      obtain ⟨c, hc, _, hmem⟩ := mem_contractProperties.mp hq
      exact hcontracts c (mem_of_includedContracts hparts.included c hc) q.2 hmem
  · intro f hf
    obtain ⟨raw, _, hraw⟩ := exists_of_mem_mapM hparts.methods hf
    exact Method.isTyped_of_build hraw

/-- The names against which the types of a document are resolved are those of what is built. -/
theorem known_eq_namesOf {name : String} {doc : Document} {options : Fields} {d : Definition}
    (h : build name doc options = .ok d) : d.known = namesOf doc := by
  obtain ⟨contracts, models, services, _, hmodels, _, _, rfl⟩ := build_eq_ok.mp h
  have hnames : models.map (·.name) = doc.models.map (·.name) :=
    map_eq_of_mapM (fun _ _ => Model.build_name) hmodels
  simp only [known, namesOf, assemble, hnames, List.map_map]
  rfl

/-- Building a definition closes it. -/
theorem closed_of_build {name : String} {doc : Document} {options : Fields} {d : Definition}
    (h : build name doc options = .ok d) : d.Closed := by
  have hknown := known_eq_namesOf h
  obtain ⟨contracts, models, services, hcontracts, hmodels, hservices, hbases, hd⟩ :=
    build_eq_ok.mp h
  have htyped : ∀ c ∈ contracts, ∀ p ∈ c.properties, p.IsTyped (namesOf doc) := by
    intro c hc
    obtain ⟨raw, _, hraw⟩ := exists_of_mem_mapM hcontracts hc
    exact Contract.isTyped_of_build hraw
  have hmodel : ∀ m ∈ models, ∃ raw ∈ doc.models, Model.build (namesOf doc) contracts raw = .ok m :=
    fun m hm => exists_of_mem_mapM hmodels hm
  refine ⟨⟨?_, ?_, ?_, ?_⟩, ?_, checkBaseModels_eq_ok.mp hbases⟩
  · rw [hknown, hd]
    exact htyped
  · rw [hknown, hd]
    intro m hm
    obtain ⟨raw, _, hraw⟩ := hmodel m hm
    exact (Model.isTyped_of_build htyped hraw).1
  · rw [hknown, hd]
    intro m hm
    obtain ⟨raw, _, hraw⟩ := hmodel m hm
    exact (Model.isTyped_of_build htyped hraw).2
  · rw [hknown, hd]
    intro s hs f hf
    obtain ⟨raw, _, hraw⟩ := exists_of_mem_mapM hservices hs
    obtain ⟨methods, hmethods, rfl⟩ := Service.build_eq_ok.mp hraw
    obtain ⟨rawMethod, _, hrawMethod⟩ := exists_of_mem_mapM hmethods hf
    exact Method.isTyped_of_build hrawMethod
  · rw [hd]
    intro m hm
    obtain ⟨raw, _, hraw⟩ := hmodel m hm
    obtain ⟨own, methods, included, properties, _, _, hincluded, _, rfl⟩ :=
      Model.build_eq_ok.mp hraw
    exact ⟨included, hincluded⟩

/-! ### What templates see -/

theorem resolves_of_refersTo {d : Definition} : ∀ {t : DataType}, t.RefersTo d.known →
    ∀ r ∈ t.references, d.Resolves r
  | .primitive .., _, _, hr => by cases hr
  | .enum .., h, _, hr => List.mem_singleton.mp hr ▸ h
  | .model .., h, _, hr => List.mem_singleton.mp hr ▸ h
  | .list item _, h, r, hr => resolves_of_refersTo (t := item) h r hr

theorem Property.resolves_of_isTyped {d : Definition} {ps : List Property}
    (h : ∀ p ∈ ps, p.IsTyped d.known) : ∀ r ∈ ps.flatMap (·.dataType.references), d.Resolves r := by
  intro r hr
  obtain ⟨p, hp, hmem⟩ := List.mem_flatMap.mp hr
  exact resolves_of_refersTo (refersTo_of_parse (h p hp)) r hmem

theorem Method.resolves_of_isTyped {d : Definition} {ms : List Method}
    (h : ∀ m ∈ ms, m.IsTyped d.known) : ∀ r ∈ ms.flatMap Method.references, d.Resolves r := by
  intro r hr
  obtain ⟨m, hm, hmem⟩ := List.mem_flatMap.mp hr
  rcases List.mem_append.mp hmem with hmem | hmem
  · obtain ⟨t, ht, hmem⟩ := List.mem_flatMap.mp hmem
    exact resolves_of_refersTo ((h m hm).result t (Option.mem_toList.mp ht)) r hmem
  · obtain ⟨p, hp, hmem⟩ := List.mem_flatMap.mp hmem
    exact resolves_of_refersTo (refersTo_of_parse ((h m hm).params p hp)) r hmem

/-- All references of a closed definition lead to something that is there. -/
theorem Closed.resolves {d : Definition} (hd : d.Closed) : ∀ r ∈ d.references, d.Resolves r := by
  intro r hr
  rcases List.mem_append.mp hr with hr | hr
  · obtain ⟨c, hc, hr⟩ := List.mem_flatMap.mp hr
    exact Property.resolves_of_isTyped (hd.typed.contractProperties c hc) r hr
  rcases List.mem_append.mp hr with hr | hr
  · obtain ⟨m, hm, hr⟩ := List.mem_flatMap.mp hr
    rcases List.mem_append.mp hr with hr | hr
    · obtain ⟨name, hname, rfl⟩ := List.mem_map.mp hr
      obtain ⟨included, hincluded⟩ := hd.contracts m hm
      obtain ⟨c, _, hc⟩ := exists_of_mem_left (includedContracts_eq_ok.mp hincluded) hname
      exact exists_find?_name.mp ⟨c, hc⟩
    rcases List.mem_append.mp hr with hr | hr
    · exact Property.resolves_of_isTyped (hd.typed.modelProperties m hm) r hr
    rcases List.mem_append.mp hr with hr | hr
    · obtain ⟨base, hbase, rfl⟩ := List.mem_map.mp hr
      have hfault := fault?_baseModel m ▸ fault?_eq_none.mpr (hd.bases m hm)
      exact Document.baseFault_eq_nil.mp (List.head?_eq_none_iff.mp hfault) base
        (Option.mem_toList.mp hbase)
    · exact Method.resolves_of_isTyped (hd.typed.modelMethods m hm) r hr
  · obtain ⟨s, hs, hr⟩ := List.mem_flatMap.mp hr
    exact Method.resolves_of_isTyped (hd.typed.serviceMethods s hs) r hr

/-- What templates see of a closed definition can be found. -/
theorem exists_context {d : Definition} (hd : d.Closed) : ∃ c, d.context = .ok c :=
  d.exists_context_iff.mpr hd.resolves

theorem contextValue_eq_ok {d : Definition} {c : Context} (h : d.context = .ok c) :
    d.contextValue = .ok c.toValue := by
  rw [contextValue, h]
  rfl

/-- A definition that could be built has all its types resolved against its own names, and what
templates see of it can be found. -/
theorem built_isTyped_and_context (name : String) (doc : Document) (options : Fields)
    (d : Definition) (h : build name doc options = .ok d) :
    d.IsTyped ∧ ∃ c, d.context = .ok c ∧ d.contextValue = .ok c.toValue := by
  have hclosed := closed_of_build h
  obtain ⟨c, hc⟩ := exists_context hclosed
  exact ⟨hclosed.typed, c, hc, contextValue_eq_ok hc⟩

/-- A document with references of every kind: to an enum, to models declared later, to a contract
and to a base model. -/
def shop : Document where
  enums := [{ name := "Status", values := ["open", "closed"] }]
  contracts := [{ name := "Owned", properties := [{ name := "owner", type := "Customer?" }] }]
  models := [{ name := "Order", baseModel := some "Entity", contracts := ["Owned"]
               properties := [{ name := "history", type := "list:Status??" }]
               methods := [{ name := "total", returnType := some "double"
                             params := [{ name := "payer", type := "Customer" }] }] },
             { name := "Entity", isAbstract := true }, { name := "Customer" }]
  services := [{ name := "Orders"
                 methods := [{ name := "all", returnType := some "list:Order" }] }]

theorem shop_isTyped_and_context : ∃ d, build "Shop" shop [] = .ok d ∧ d.IsTyped ∧
    ∃ c, d.context = .ok c ∧ d.contextValue = .ok c.toValue := by
  have hok : (build "Shop" shop []).isOk = true := by decide +kernel
  cases h : build "Shop" shop [] with
  | error e => rw [h] at hok; cases hok
  | ok d => exact ⟨d, rfl, built_isTyped_and_context "Shop" shop [] d h⟩

end Definition

end Stencil
