import Stencil.Proofs.Definition.Closed

/-! Models stand in for the contracts that they include.

Merging sees to it that a model has every property of its contracts, with the same type, and that
each property that it took over is one of a contract that it includes (`Merged`). What templates see
is looked up once more, contract by contract and type by type. The contracts found are the same
ones, and equal types have equal descriptions, so that the same holds of the contexts
(`modelContext_standsIn`). -/

namespace Stencil.Definition

open Outcome

/-- If a property was taken over, then one of the included contracts has it. -/
def Property.IsFrom (included : List Contract) (p : Property) : Prop :=
  ∀ name, p.contract = some name → ∃ c ∈ included, c.name = name ∧
    ∃ q ∈ c.properties, q.name = p.name ∧ q.dataType = p.dataType ∧ q.rawType = p.rawType

/-- The properties of a model after contracts have been merged into them. -/
structure Merged (included : List Contract) (properties : List Property) : Prop where
  covers : ∀ c ∈ included, ∀ q ∈ c.properties,
    ∃ p ∈ properties, p.name = q.name ∧ p.dataType = q.dataType
  origin : ∀ p ∈ properties, p.IsFrom included

/-- A model, as templates see it among contracts, can stand in for those that it includes. -/
structure ModelContext.StandsIn (contracts : List ContractContext) (m : ModelContext) : Prop where
  covers : ∀ c ∈ m.contracts, ∀ q ∈ c.properties,
    ∃ p ∈ m.properties, p.name = q.name ∧ p.type = q.type
  origin : ∀ p ∈ m.properties, ∀ name, p.contract = some name →
    ∃ c ∈ m.contracts, c.name = name ∧
      ∃ q ∈ c.properties, q.name = p.name ∧ q.type = p.type ∧ q.rawType = p.rawType
  listed : ∀ c ∈ m.contracts, contracts.find? (·.name = c.name) = some c

/-! ### Merging -/

theorem Property.ComesFrom.isFrom {included : List Contract} {p : Property}
    (h : p.ComesFrom included) : p.IsFrom included := by
  intro name hname
  rcases h with hown | ⟨c, hc, q, hq, rfl⟩
  · rw [hown] at hname
    cases hname
  · exact ⟨c, hc, Option.some.inj hname, q, hq, rfl, rfl, rfl⟩

/-- The models of a definition that could be built are merged with the contracts that they name. -/
theorem merged_of_build {name : String} {doc : Document} {options : Fields} {d : Definition}
    (h : build name doc options = .ok d) :
    ∀ m ∈ d.models, ∃ included, d.modelContracts m = .ok included ∧
      Merged included m.properties := by
  intro m hm
  obtain ⟨included, hincluded, hfrom, hcovers⟩ := exists_included_of_build h hm
  exact ⟨included, hincluded, hcovers, fun p hp => (hfrom p hp).isFrom⟩

/-! ### Contexts -/

variable {d : Definition}

/-- Properties of one type have one description, wherever they stand. -/
theorem type_eq_of_propertyContext {above above' : Fields} {p q : Property}
    {pc qc : PropertyContext} (htype : p.dataType = q.dataType)
    (hp : d.propertyContext above p = .ok pc) (hq : d.propertyContext above' q = .ok qc) :
    pc.type = qc.type := by
  obtain ⟨t, ht, rfl⟩ := propertyContext_eq_ok.mp hp
  obtain ⟨t', ht', rfl⟩ := propertyContext_eq_ok.mp hq
  rw [htype, ht'] at ht
  exact (Except.ok.inj ht).symm

theorem exists_of_contractContext {k : Contract} {c : ContractContext}
    (h : d.contractContext k = .ok c) :
    ∃ above, List.Forall₂ (fun q qc => d.propertyContext above q = .ok qc) k.properties
      c.properties := by
  obtain ⟨properties, hproperties, rfl⟩ := contractContext_eq_ok.mp h
  exact ⟨_, mapM_eq_ok.mp hproperties⟩

theorem propertyContext_name {above : Fields} {p : Property} {c : PropertyContext}
    (h : d.propertyContext above p = .ok c) :
    c.name = p.name ∧ c.rawType = p.rawType ∧ c.contract = p.contract := by
  obtain ⟨t, _, rfl⟩ := propertyContext_eq_ok.mp h
  exact ⟨rfl, rfl, rfl⟩

/-- The context of an included contract is the one listed for the first contract of its name. -/
theorem find?_contractContext {contexts : List ContractContext} {m : Model}
    {included : List Contract} (hincluded : d.modelContracts m = .ok included)
    (hcontexts : d.contracts.mapM d.contractContext = .ok contexts) {k : Contract}
    (hk : k ∈ included) {c : ContractContext} (hc : d.contractContext k = .ok c) :
    contexts.find? (·.name = c.name) = some c := by
  obtain ⟨name, _, hfind⟩ := exists_of_mem_right (includedContracts_eq_ok.mp hincluded) hk
  have hname := Contract.name_of_find? hfind
  have hfound := find?_rel (p := (·.name = name)) (q := (·.name = name))
    (fun k c hkc => by rw [contractContext_name hkc]) (mapM_eq_ok.mp hcontexts)
  rw [Contract.find?] at hfind
  rw [hfind] at hfound
  rw [contractContext_name hc, hname]
  generalize contexts.find? (·.name = name) = found at hfound
  cases hfound with
  | some hsame => rw [Except.ok.inj (hc.symm.trans hsame)]

theorem modelContext_standsIn {contexts : List ContractContext} {m : Model}
    {included : List Contract} (hincluded : d.modelContracts m = .ok included)
    (hmerged : Merged included m.properties)
    (hcontexts : d.contracts.mapM d.contractContext = .ok contexts) {c : ModelContext}
    (h : d.modelContext m = .ok c) : c.StandsIn contexts := by
  obtain ⟨included', properties, base, contracts, methods, hincluded', hproperties, _, hcontracts,
    _, rfl⟩ := modelContext_eq_ok.mp h
  cases hincluded.symm.trans hincluded'
  rw [mapM_eq_ok] at hproperties hcontracts
  refine ⟨fun c hc qc hqc => ?_, fun pc hpc name hname => ?_, fun c hc => ?_⟩
  · obtain ⟨k, hk, hkc⟩ := exists_of_mem_right hcontracts hc
    obtain ⟨above, hrel⟩ := exists_of_contractContext hkc
    obtain ⟨q, hq, hqqc⟩ := exists_of_mem_right hrel hqc
    obtain ⟨p, hp, hpname, htype⟩ := hmerged.covers k hk q hq
    obtain ⟨pc, hpc, hppc⟩ := exists_of_mem_left hproperties hp
    refine ⟨pc, hpc, ?_, type_eq_of_propertyContext htype hppc hqqc⟩
    rw [(propertyContext_name hppc).1, (propertyContext_name hqqc).1, hpname]
  · obtain ⟨p, hp, hppc⟩ := exists_of_mem_right hproperties hpc
    obtain ⟨hpname, hpraw, hpcontract⟩ := propertyContext_name hppc
    obtain ⟨k, hk, hkname, q, hq, hqname, htype, hraw⟩ :=
      hmerged.origin p hp name (hpcontract ▸ hname)
    obtain ⟨c, hc, hkc⟩ := exists_of_mem_left hcontracts hk
    obtain ⟨above, hrel⟩ := exists_of_contractContext hkc
    obtain ⟨qc, hqc, hqqc⟩ := exists_of_mem_left hrel hq
    obtain ⟨hqcname, hqcraw, _⟩ := propertyContext_name hqqc
    refine ⟨c, hc, (contractContext_name hkc).trans hkname, qc, hqc, ?_,
      type_eq_of_propertyContext htype hqqc hppc, ?_⟩
    · rw [hqcname, hqname, hpname]
    · rw [hqcraw, hraw, hpraw]
  · obtain ⟨k, hk, hkc⟩ := exists_of_mem_right hcontracts hc
    exact find?_contractContext hincluded hcontexts hk hkc

theorem names_of_includedContracts {contracts : List Contract} {model : String}
    {names : List String} {included : List Contract}
    (h : includedContracts contracts model names = .ok included) :
    included.map (·.name) = names := by
  have hrel := includedContracts_eq_ok.mp h
  clear h
  induction hrel with
  | nil => rfl
  | cons hfind _ ih => rw [List.map_cons, ih, Contract.name_of_find? hfind]

theorem modelContext_names {m : Model} {c : ModelContext} (h : d.modelContext m = .ok c) :
    (c.name, c.contracts.map (·.name)) = (m.name, m.contracts) := by
  obtain ⟨included, properties, base, contracts, methods, hincluded, _, _, hcontracts, _, rfl⟩ :=
    modelContext_eq_ok.mp h
  have hnames : contracts.map (·.name) = included.map (·.name) :=
    map_eq_of_mapM (fun _ _ => contractContext_name) hcontracts
  rw [hnames, names_of_includedContracts hincluded]

/-- What templates see of a definition that could be built has a model for each declared one, with
the contracts that it names, and each of them can stand in for these contracts. -/
theorem models_stand_in (name : String) (doc : Document) (options : Fields) (d : Definition)
    (h : build name doc options = .ok d) : ∃ c, d.context = .ok c ∧
      (c.models.map fun m => (m.name, m.contracts.map (·.name))) =
        (doc.models.map fun m => (m.name, m.contracts)) ∧
      ∀ m ∈ c.models, m.StandsIn c.contracts := by
  obtain ⟨c, hc⟩ := exists_context (closed_of_build h)
  have hmerged := merged_of_build h
  obtain ⟨contexts, models, services, hcontexts, hmodels, _, rfl⟩ := context_eq_ok.mp hc
  refine ⟨_, hc, ?_, fun m hm => ?_⟩
  · obtain ⟨contracts, built, _, _, hbuilt, _, _, rfl⟩ := build_eq_ok.mp h
    calc models.map (fun m => (m.name, m.contracts.map (·.name)))
      _ = built.map fun m => (m.name, m.contracts) :=
        map_eq_of_mapM (fun _ _ => modelContext_names) hmodels
      _ = doc.models.map fun m => (m.name, m.contracts) :=
        map_eq_of_mapM (fun _ _ hm => by rw [Model.build_name hm, Model.build_contracts hm]) hbuilt
  · obtain ⟨built, hbuilt, hcontext⟩ := exists_of_mem_mapM hmodels hm
    obtain ⟨included, hincluded, hmerge⟩ := hmerged built hbuilt
    exact modelContext_standsIn hincluded hmerge hcontexts hcontext

/-- Two contracts of one name, of which the first counts; it is included twice, and the model has
one of its properties already under another spelling of its type. -/
def aliases : Document where
  contracts := [{ name := "Owned", properties := [{ name := "owner", type := "String?" },
                                                  { name := "since", type := "int" }] },
                { name := "Owned", properties := [{ name := "other", type := "any" }] }]
  models := [{ name := "Order", contracts := ["Owned", "Owned"]
               properties := [{ name := "owner", type := " str?" }] }]

theorem models_stand_in_aliases : ∃ d c, build "Shop" aliases [] = .ok d ∧ d.context = .ok c ∧
    (∀ m ∈ c.models, m.StandsIn c.contracts) ∧
    (c.models.map fun m => m.properties.map fun p => (p.name, p.rawType, p.contract)) =
      [[("owner", " str?", none), ("since", "int", some "Owned")]] := by
  have hproperties : ((build "Shop" aliases []).bind Definition.context).toOption.map
      (fun c => c.models.map fun m => m.properties.map fun p => (p.name, p.rawType, p.contract)) =
        some [[("owner", " str?", none), ("since", "int", some "Owned")]] := by decide +kernel
  cases h : build "Shop" aliases [] with
  | error e => rw [h] at hproperties; cases hproperties
  | ok d =>
    obtain ⟨c, hc, _, hstands⟩ := models_stand_in "Shop" aliases [] d h
    rw [h, Except.bind, hc] at hproperties
    exact ⟨d, c, rfl, hc, hstands, Option.some.inj hproperties⟩

end Stencil.Definition
