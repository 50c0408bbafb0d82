import Stencil.Proofs.Definition.Closed
import Stencil.Proofs.Fields

/-! The extensions that templates see.

They are layered in stages: what a property or a method inherits is put together first, and its own
extensions are put over that. A property that was taken over also inherits from its contract, which
is looked up by name among those of the model; in a definition that could be built, this finds the
contract that the property was taken from (`inheritedExtensions_of_taken`). So the extensions of
everything that templates see are the levels from the definition down to it (`IsLayered`). -/

namespace Stencil.Definition

open Outcome

/-- The levels of the extensions of a property of a model, outermost first. Those of a property that
was taken over include the contract that it was taken from. -/
inductive PropertyLevels (d : Definition) (m : Model) (p : Property) : List Fields → Prop
  | own (without : p.contract = none) :
    PropertyLevels d m p [d.extensions, m.extensions, p.extensions]
  | taken (k : Contract) (q : Property) (named : k.name ∈ m.contracts)
    (found : d.contract? k.name = some k) (offered : q ∈ k.properties)
    (taken : p = takeOver (k.name, q)) :
    PropertyLevels d m p [d.extensions, k.extensions, m.extensions, p.extensions]

/-- The extensions that are seen of a contract and of its properties. -/
structure ContractContext.IsLayered (d : Definition) (k : Contract) (c : ContractContext) :
    Prop where
  extensions : Fields.IsLayered [d.extensions, k.extensions] c.extensions
  properties : List.Forall₂
    (fun p pc => Fields.IsLayered [d.extensions, k.extensions, p.extensions] pc.extensions)
    k.properties c.properties

/-- The extensions that are seen of a model, of its properties and methods, and of the contracts
that it names. -/
structure ModelContext.IsLayered (d : Definition) (m : Model) (c : ModelContext) : Prop where
  extensions : Fields.IsLayered [d.extensions, m.extensions] c.extensions
  properties : List.Forall₂
    (fun p pc => ∃ levels, PropertyLevels d m p levels ∧ Fields.IsLayered levels pc.extensions)
    m.properties c.properties
  methods : List.Forall₂
    (fun f fc => Fields.IsLayered [d.extensions, m.extensions, f.extensions] fc.extensions)
    m.methods c.methods
  contracts : ∃ included, d.modelContracts m = .ok included ∧
    List.Forall₂ (ContractContext.IsLayered d) included c.contracts

/-- The extensions that are seen of a service and of its methods. -/
structure ServiceContext.IsLayered (d : Definition) (s : Service) (c : ServiceContext) : Prop where
  extensions : Fields.IsLayered [d.extensions, s.extensions] c.extensions
  methods : List.Forall₂
    (fun f fc => Fields.IsLayered [d.extensions, s.extensions, f.extensions] fc.extensions)
    s.methods c.methods

/-- The extensions that are seen of everything in a definition. -/
structure Context.IsLayered (d : Definition) (c : Context) : Prop where
  enums : List.Forall₂
    (fun e ec => Fields.IsLayered [d.extensions, e.extensions] ec.extensions) d.enums c.enums
  contracts : List.Forall₂ (ContractContext.IsLayered d) d.contracts c.contracts
  models : List.Forall₂ (ModelContext.IsLayered d) d.models c.models
  services : List.Forall₂ (ServiceContext.IsLayered d) d.services c.services

variable {d : Definition}

/-! ### Properties and methods -/

theorem propertyContext_isLayered {outer : List Fields} {p : Property} {c : PropertyContext}
    (h : d.propertyContext (Fields.layer outer) p = .ok c) :
    Fields.IsLayered (outer ++ [p.extensions]) c.extensions := by
  obtain ⟨t, _, rfl⟩ := propertyContext_eq_ok.mp h
  exact Fields.isLayered_below outer p.extensions

theorem methodContext_isLayered {outer : List Fields} {f : Method} {c : MethodContext}
    (h : d.methodContext (Fields.layer outer) f = .ok c) :
    Fields.IsLayered (outer ++ [f.extensions]) c.extensions := by
  obtain ⟨t, params, _, _, rfl⟩ := methodContext_eq_ok.mp h
  exact Fields.isLayered_below outer f.extensions

theorem methodContexts_isLayered {outer : List Fields} {methods : List Method}
    {contexts : List MethodContext}
    (h : methods.mapM (d.methodContext (Fields.layer outer)) = .ok contexts) :
    List.Forall₂ (fun f fc => Fields.IsLayered (outer ++ [f.extensions]) fc.extensions)
      methods contexts :=
  (mapM_eq_ok.mp h).imp fun _ _ => methodContext_isLayered

/-! ### Contracts and services -/

theorem contractContext_isLayered {k : Contract} {c : ContractContext}
    (h : d.contractContext k = .ok c) : c.IsLayered d k := by
  obtain ⟨properties, hproperties, rfl⟩ := contractContext_eq_ok.mp h
  exact ⟨Fields.isLayered_layer _,
    (mapM_eq_ok.mp hproperties).imp fun _ _ => propertyContext_isLayered⟩

theorem serviceContext_isLayered {s : Service} {c : ServiceContext}
    (h : d.serviceContext s = .ok c) : c.IsLayered d s := by
  obtain ⟨methods, hmethods, rfl⟩ := serviceContext_eq_ok.mp h
  exact ⟨Fields.isLayered_layer _, methodContexts_isLayered hmethods⟩

/-! ### Models -/

/-- A contract that a model includes is the first one of its name, and the model names it. -/
theorem contract?_of_included {m : Model} {included : List Contract}
    (h : d.modelContracts m = .ok included) {k : Contract} (hk : k ∈ included) :
    k.name ∈ m.contracts ∧ d.contract? k.name = some k := by
  obtain ⟨name, hname, hfind⟩ := exists_of_mem_right (includedContracts_eq_ok.mp h) hk
  obtain rfl := Contract.name_of_find? hfind
  exact ⟨hname, hfind⟩

/-- The contract that a property was taken from is the one that is found under its name. -/
theorem inheritedExtensions_of_taken {m : Model} {included : List Contract}
    (h : d.modelContracts m = .ok included) {k : Contract} (hk : k ∈ included) (q : Property) :
    d.inheritedExtensions m included (takeOver (k.name, q)) =
      Fields.layer [d.extensions, k.extensions, m.extensions] := by
  obtain ⟨found, hfound⟩ := exists_find?_name.mpr (List.mem_map_of_mem hk)
  have hname : found.name = k.name := Contract.name_of_find? hfound
  have hsame : found = k := by
    have hfirst := (contract?_of_included h (List.mem_of_find?_eq_some hfound)).2
    rw [hname, (contract?_of_included h hk).2] at hfirst
    exact (Option.some.inj hfirst).symm
  have hsource : (takeOver (k.name, q)).contract.bind (Contract.find? included) = some k :=
    hsame ▸ hfound
  rw [inheritedExtensions, hsource]

theorem modelContext_isLayered {m : Model} {included : List Contract}
    (hincluded : d.modelContracts m = .ok included)
    (hproperties : ∀ p ∈ m.properties, p.ComesFrom included) {c : ModelContext}
    (h : d.modelContext m = .ok c) : c.IsLayered d m := by
  obtain ⟨included', properties, base, contracts, methods, hincluded', hcontexts, _, hcontracts,
    hmethods, rfl⟩ := modelContext_eq_ok.mp h
  cases hincluded.symm.trans hincluded'
  refine ⟨Fields.isLayered_layer _, ?_, methodContexts_isLayered hmethods, included, hincluded,
    (mapM_eq_ok.mp hcontracts).imp fun _ _ => contractContext_isLayered⟩
  refine ((List.forall₂_and_left _ _).mpr ⟨hproperties, mapM_eq_ok.mp hcontexts⟩).imp ?_
  rintro p pc ⟨hown | ⟨k, hk, q, hq, rfl⟩, hpc⟩
  · have hinherited : d.inheritedExtensions m included p =
        Fields.layer [d.extensions, m.extensions] := by
      rw [inheritedExtensions, hown]
      rfl
    rw [hinherited] at hpc
    exact ⟨_, .own hown, propertyContext_isLayered hpc⟩
  · rw [inheritedExtensions_of_taken hincluded hk] at hpc
    obtain ⟨hnamed, hfound⟩ := contract?_of_included hincluded hk
    exact ⟨_, .taken k q hnamed hfound hq rfl, propertyContext_isLayered hpc⟩

/-- In what templates see of a definition that could be built, the extensions of everything hold the
keys that some level declares, from the definition down to it, and under each key the value of the
innermost level that declares it. -/
theorem extensions_are_layered (name : String) (doc : Document) (options : Fields)
    (d : Definition) (h : build name doc options = .ok d) :
    ∃ c, d.context = .ok c ∧ c.IsLayered d := by
  obtain ⟨c, hc⟩ := exists_context (closed_of_build h)
  refine ⟨c, hc, ?_⟩
  obtain ⟨contracts, models, services, hcontracts, hmodels, hservices, rfl⟩ := context_eq_ok.mp hc
  refine ⟨?_, (mapM_eq_ok.mp hcontracts).imp fun _ _ => contractContext_isLayered, ?_,
    (mapM_eq_ok.mp hservices).imp fun _ _ => serviceContext_isLayered⟩
  · rw [List.forall₂_map_right_iff, List.forall₂_same]
    exact fun e _ => Fields.isLayered_layer [d.extensions, e.extensions]
  · have hmerged := fun m (hm : m ∈ d.models) => exists_included_of_build h hm
    refine ((List.forall₂_and_left _ _).mpr ⟨hmerged, mapM_eq_ok.mp hmodels⟩).imp ?_
    rintro m mc ⟨⟨included, hincluded, hproperties, _⟩, hmc⟩
    exact modelContext_isLayered hincluded hproperties hmc

/-- A document with extensions at every level; the innermost one of `owner` is null. -/
def tagged : Document where
  extensions := [("level", .str "definition"), ("owner", .str "definition")]
  contracts := [{ name := "Identified"
                  extensions := [("key", .str "contract"), ("level", .str "contract")]
                  properties := [{ name := "id", type := "int"
                                   extensions := [("owner", .null)] }] }]
  models := [{ name := "Order", contracts := ["Identified"]
               extensions := [("level", .str "model")]
               properties := [{ name := "total", type := "double"
                                extensions := [("level", .str "property")] }] }]

/-- The keys and texts of the extensions that are seen of the properties of models. -/
def Context.propertyTags (c : Context) : List (String × List (String × Option String)) :=
  c.models.flatMap fun m => m.properties.map fun p =>
    (p.name, p.extensions.map fun e => (e.1, e.2.asText?))

theorem extensions_are_layered_tagged : ∃ d c, build "Shop" tagged [] = .ok d ∧
    d.context = .ok c ∧ c.IsLayered d ∧
    c.propertyTags =
      [("total", [("level", some "property"), ("owner", some "definition")]),
       ("id", [("key", some "contract"), ("level", some "model"), ("owner", none)])] := by
  have htags : ((build "Shop" tagged []).bind Definition.context).toOption.map
      Context.propertyTags =
        some [("total", [("level", some "property"), ("owner", some "definition")]),
          ("id", [("key", some "contract"), ("level", some "model"), ("owner", none)])] := by
    decide +kernel
  obtain ⟨c, hc, htags⟩ := Option.map_eq_some_iff.mp htags
  obtain ⟨d, hd, hdc⟩ := bind_eq_ok.mp (toOption_eq_some.mp hc)
  obtain ⟨c', hc', hlayered⟩ := extensions_are_layered "Shop" tagged [] d hd
  cases hdc.symm.trans hc'
  exact ⟨d, c, hd, hdc, hlayered, htags⟩

end Stencil.Definition
