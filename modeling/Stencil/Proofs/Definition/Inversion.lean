import Stencil.Definition.Build
import Stencil.Definition.Context
import Stencil.Proofs.Outcome

/-! What stands behind a definition that could be built: for each kind of declaration, the parts of
the document that its parts come from. The same for what templates see of a definition. -/

namespace Stencil.Definition

open Outcome

variable {known : KnownNames}

theorem Property.build_eq_ok {p : Document.Property} {q : Property} :
    Property.build known p = .ok q ↔
      ∃ t, DataType.parse known p.type = .ok t ∧ q = ⟨p.name, p.type, t, none, p.extensions⟩ := by
  simp only [Property.build, bind_eq_ok, pure_eq_ok]

theorem Param.build_eq_ok {p : Document.Param} {q : Param} :
    Param.build known p = .ok q ↔
      ∃ t, DataType.parse known p.type = .ok t ∧ q = ⟨p.name, p.type, t⟩ := by
  simp only [Param.build, bind_eq_ok, pure_eq_ok]

theorem Method.build_eq_ok {m : Document.Method} {q : Method} :
    Method.build known m = .ok q ↔
      ∃ t params, m.returnType.mapM (DataType.parse known) = .ok t ∧
        m.params.mapM (Param.build known) = .ok params ∧ q = ⟨m.name, t, params, m.extensions⟩ := by
  simp only [Method.build, bind_eq_ok, pure_eq_ok]
  constructor
  · rintro ⟨t, ht, params, hparams, rfl⟩; exact ⟨t, params, ht, hparams, rfl⟩
  · rintro ⟨t, params, ht, hparams, rfl⟩; exact ⟨t, ht, params, hparams, rfl⟩

theorem Contract.build_eq_ok {c : Document.Contract} {q : Contract} :
    Contract.build known c = .ok q ↔
      ∃ properties, c.properties.mapM (Property.build known) = .ok properties ∧
        q = ⟨c.name, properties, c.extensions⟩ := by
  simp only [Contract.build, bind_eq_ok, pure_eq_ok]

theorem Service.build_eq_ok {s : Document.Service} {q : Service} :
    Service.build known s = .ok q ↔
      ∃ methods, s.methods.mapM (Method.build known) = .ok methods ∧
        q = ⟨s.name, methods, s.extensions⟩ := by
  simp only [Service.build, bind_eq_ok, pure_eq_ok]

/-- The parts of a model: its own properties, its methods, the contracts that it includes and what
merging them into its properties gives. -/
theorem Model.build_eq_ok {contracts : List Contract} {m : Document.Model} {q : Model} :
    Model.build known contracts m = .ok q ↔
      ∃ own methods included properties, m.properties.mapM (Property.build known) = .ok own ∧
        m.methods.mapM (Method.build known) = .ok methods ∧
        includedContracts contracts m.name m.contracts = .ok included ∧
        (contractProperties included).foldlM (includeProperty m.name) own = .ok properties ∧
        q = ⟨m.name, m.isAbstract, m.baseModel, properties, methods, m.contracts,
          m.extensions⟩ := by
  simp only [Model.build, bind_eq_ok, pure_eq_ok]
  constructor
  · rintro ⟨own, ho, methods, hm, included, hi, properties, hp, rfl⟩
    exact ⟨own, methods, included, properties, ho, hm, hi, hp, rfl⟩
  · rintro ⟨own, methods, included, properties, ho, hm, hi, hp, rfl⟩
    exact ⟨own, ho, methods, hm, included, hi, properties, hp, rfl⟩

/-- The definition that is put together from the parts of a document. -/
def assemble (name : String) (doc : Document) (options : Fields) (contracts : List Contract)
    (models : List Model) (services : List Service) : Definition :=
  { name, nameSpace := doc.nameSpace, options := doc.options.override options
    enums := doc.enums.map Enum.build, contracts, models, services, extensions := doc.extensions }

theorem build_eq_ok {name : String} {doc : Document} {options : Fields} {d : Definition} :
    build name doc options = .ok d ↔
      ∃ contracts models services,
        doc.contracts.mapM (Contract.build (namesOf doc)) = .ok contracts ∧
        doc.models.mapM (Model.build (namesOf doc) contracts) = .ok models ∧
        doc.services.mapM (Service.build (namesOf doc)) = .ok services ∧
        checkBaseModels d = .ok () ∧ d = assemble name doc options contracts models services := by
  simp only [build, bind_eq_ok, pure_eq_ok]
  constructor
  · rintro ⟨contracts, hc, models, hm, services, hs, ⟨⟩, hbase, rfl⟩
    exact ⟨contracts, models, services, hc, hm, hs, hbase, rfl⟩
  · rintro ⟨contracts, models, services, hc, hm, hs, hbase, rfl⟩
    exact ⟨contracts, hc, models, hm, services, hs, (), hbase, rfl⟩

theorem Contract.build_name {doc : Document.Contract} {c : Contract}
    (h : Contract.build known doc = .ok c) : c.name = doc.name := by
  obtain ⟨properties, _, rfl⟩ := Contract.build_eq_ok.mp h
  rfl

theorem Service.build_name {doc : Document.Service} {s : Service}
    (h : Service.build known doc = .ok s) : s.name = doc.name := by
  obtain ⟨methods, _, rfl⟩ := Service.build_eq_ok.mp h
  rfl

theorem Model.build_name {contracts : List Contract} {doc : Document.Model} {m : Model}
    (h : Model.build known contracts doc = .ok m) : m.name = doc.name := by
  obtain ⟨own, methods, included, properties, _, _, _, _, rfl⟩ := Model.build_eq_ok.mp h
  rfl

theorem Model.build_baseModel {contracts : List Contract} {doc : Document.Model} {m : Model}
    (h : Model.build known contracts doc = .ok m) : m.baseModel = doc.baseModel := by
  obtain ⟨own, methods, included, properties, _, _, _, _, rfl⟩ := Model.build_eq_ok.mp h
  rfl

theorem Model.build_contracts {contracts : List Contract} {doc : Document.Model} {m : Model}
    (h : Model.build known contracts doc = .ok m) : m.contracts = doc.contracts := by
  obtain ⟨own, methods, included, properties, _, _, _, _, rfl⟩ := Model.build_eq_ok.mp h
  rfl

/-! ### Lookups -/

/-- A lookup by name succeeds iff the name is among those of the list. -/
theorem exists_find?_name {α : Type} {l : List α} {nameOf : α → String} {name : String} :
    (∃ a, l.find? (nameOf · = name) = some a) ↔ name ∈ l.map nameOf := by
  rw [← Option.isSome_iff_exists, List.find?_isSome]
  simp

theorem find?_name_eq_none {α : Type} {l : List α} {nameOf : α → String} {name : String} :
    l.find? (nameOf · = name) = none ↔ name ∉ l.map nameOf := by
  simp

theorem Contract.name_of_find? {contracts : List Contract} {name : String} {c : Contract}
    (h : Contract.find? contracts name = some c) : c.name = name := by
  simpa using List.find?_some h

theorem includedContracts_eq_ok {contracts : List Contract} {model : String} {names : List String}
    {included : List Contract} :
    includedContracts contracts model names = .ok included ↔
      List.Forall₂ (fun name c => Contract.find? contracts name = some c) names included := by
  rw [includedContracts, mapM_eq_ok]
  constructor
  · refine fun h => h.imp fun name c hc => ?_
    split at hc
    · cases hc; assumption
    · cases hc
  · exact fun h => h.imp fun name c hc => by rw [hc]

/-- The contracts that a model includes are among those that it is given. -/
theorem mem_of_includedContracts {contracts : List Contract} {model : String} {names : List String}
    {included : List Contract} (h : includedContracts contracts model names = .ok included) :
    ∀ c ∈ included, c ∈ contracts := by
  intro c hc
  obtain ⟨name, _, hfind⟩ := exists_of_mem_right (includedContracts_eq_ok.mp h) hc
  exact List.mem_of_find?_eq_some hfind

theorem checkBaseModels_eq_ok {d : Definition} :
    checkBaseModels d = .ok () ↔ ∀ m ∈ d.models, ∃ base, d.baseModel m = .ok base := by
  simp only [checkBaseModels, forM_eq_ok, bind_eq_ok, pure_eq_ok]
  simp

/-! ### Merging -/

theorem mem_contractProperties {contracts : List Contract} {q : String × Property} :
    q ∈ Definition.contractProperties contracts ↔
      ∃ c ∈ contracts, q.1 = c.name ∧ q.2 ∈ c.properties := by
  obtain ⟨name, p⟩ := q
  simp only [Definition.contractProperties, List.mem_flatMap, List.mem_map, Prod.mk.injEq]
  constructor
  · rintro ⟨c, hc, p', hp', rfl, rfl⟩; exact ⟨c, hc, rfl, hp'⟩
  · rintro ⟨c, hc, rfl, hp⟩; exact ⟨c, hc, p, hp, rfl, rfl⟩

/-- One step of merging: the name is there already, with the type of the property, or the property
is added. -/
theorem includeProperty_eq_ok {model : String} {before after : List Property}
    {q : String × Property} :
    includeProperty model before q = .ok after ↔
      (∃ first, before.find? (·.name = q.2.name) = some first ∧ first.dataType = q.2.dataType ∧
        after = before) ∨
      (before.find? (·.name = q.2.name) = none ∧
        after = before ++ [{ q.2 with contract := some q.1 }]) := by
  unfold includeProperty
  cases before.find? (·.name = q.2.name) with
  | none => simp [eq_comm]
  | some first => by_cases htype : first.dataType = q.2.dataType <;> simp [htype, eq_comm]

/-! ### Contexts -/

variable {d : Definition}

theorem propertyContext_eq_ok {inherited : Fields} {p : Property} {c : PropertyContext} :
    d.propertyContext inherited p = .ok c ↔
      ∃ t, d.describeType p.dataType = .ok t ∧
        c = ⟨p.name, t, p.rawType, p.contract, Fields.layer [inherited, p.extensions]⟩ := by
  simp only [propertyContext, bind_eq_ok, pure_eq_ok]

theorem methodContext_eq_ok {inherited : Fields} {m : Method} {c : MethodContext} :
    d.methodContext inherited m = .ok c ↔
      ∃ t params, m.returnType.mapM d.describeType = .ok t ∧
        m.params.mapM d.paramContext = .ok params ∧
        c = ⟨m.name, t, params, Fields.layer [inherited, m.extensions]⟩ := by
  simp only [methodContext, bind_eq_ok, pure_eq_ok]
  constructor
  · rintro ⟨t, ht, params, hparams, rfl⟩; exact ⟨t, params, ht, hparams, rfl⟩
  · rintro ⟨t, params, ht, hparams, rfl⟩; exact ⟨t, ht, params, hparams, rfl⟩

theorem contractContext_eq_ok {k : Contract} {c : ContractContext} :
    d.contractContext k = .ok c ↔
      ∃ properties, k.properties.mapM
          (d.propertyContext (Fields.layer [d.extensions, k.extensions])) = .ok properties ∧
        c = ⟨k.name, properties, Fields.layer [d.extensions, k.extensions]⟩ := by
  simp only [contractContext, bind_eq_ok, pure_eq_ok]

theorem serviceContext_eq_ok {s : Service} {c : ServiceContext} :
    d.serviceContext s = .ok c ↔
      ∃ methods, s.methods.mapM
          (d.methodContext (Fields.layer [d.extensions, s.extensions])) = .ok methods ∧
        c = ⟨s.name, methods, Fields.layer [d.extensions, s.extensions]⟩ := by
  simp only [serviceContext, bind_eq_ok, pure_eq_ok]

theorem modelContext_eq_ok {m : Model} {c : ModelContext} :
    d.modelContext m = .ok c ↔
      ∃ included properties base contracts methods, d.modelContracts m = .ok included ∧
        m.properties.mapM (fun p => d.propertyContext (d.inheritedExtensions m included p) p) =
          .ok properties ∧
        d.baseModel m = .ok base ∧ included.mapM d.contractContext = .ok contracts ∧
        m.methods.mapM (d.methodContext (Fields.layer [d.extensions, m.extensions])) =
          .ok methods ∧
        c = ⟨m.name, m.isAbstract, base.map (·.name), contracts, properties, methods,
          Fields.layer [d.extensions, m.extensions]⟩ := by
  simp only [modelContext, bind_eq_ok, pure_eq_ok]
  constructor
  · rintro ⟨included, hi, properties, hp, base, hb, contracts, hc, methods, hm, rfl⟩
    exact ⟨included, properties, base, contracts, methods, hi, hp, hb, hc, hm, rfl⟩
  · rintro ⟨included, properties, base, contracts, methods, hi, hp, hb, hc, hm, rfl⟩
    exact ⟨included, hi, properties, hp, base, hb, contracts, hc, methods, hm, rfl⟩

theorem context_eq_ok {c : Context} :
    d.context = .ok c ↔
      ∃ contracts models services, d.contracts.mapM d.contractContext = .ok contracts ∧
        d.models.mapM d.modelContext = .ok models ∧
        d.services.mapM d.serviceContext = .ok services ∧
        c = ⟨d.name, d.nameSpace, d.options, d.enums.map d.enumContext, contracts, models, services,
          d.extensions⟩ := by
  simp only [context, bind_eq_ok, pure_eq_ok]
  constructor
  · rintro ⟨contracts, hc, models, hm, services, hs, rfl⟩
    exact ⟨contracts, models, services, hc, hm, hs, rfl⟩
  · rintro ⟨contracts, models, services, hc, hm, hs, rfl⟩
    exact ⟨contracts, hc, models, hm, services, hs, rfl⟩

theorem contractContext_name {k : Contract} {c : ContractContext}
    (h : d.contractContext k = .ok c) : c.name = k.name := by
  obtain ⟨properties, _, rfl⟩ := contractContext_eq_ok.mp h
  rfl

theorem serviceContext_name {s : Service} {c : ServiceContext} (h : d.serviceContext s = .ok c) :
    c.name = s.name := by
  obtain ⟨methods, _, rfl⟩ := serviceContext_eq_ok.mp h
  rfl

theorem modelContext_name {m : Model} {c : ModelContext} (h : d.modelContext m = .ok c) :
    c.name = m.name := by
  obtain ⟨included, properties, base, contracts, methods, _, _, _, _, _, rfl⟩ :=
    modelContext_eq_ok.mp h
  rfl

end Stencil.Definition
