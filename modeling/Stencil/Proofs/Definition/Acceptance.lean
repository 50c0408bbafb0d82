import Stencil.Proofs.Definition.Inversion

/-! Which documents can be built, and which error the others end in.

`Document.IsConsistent` says what a document must satisfy: its type texts name types, its models
name declared contracts and base models, and a property that a model takes over has the type of the
first property of its name. `Document.faults` lists everything that is wrong with a document, in the
order in which construction meets it:

    contracts, models, services, base models
    model: own properties, methods, names of contracts, merged properties
    method: result, parameters

`build_iff_consistent` says that the consistent documents are those that can be built, and that any
other document ends in its first fault. -/

namespace Stencil

/-- The type that a text names, if it names one. -/
def KnownNames.typeOf? (known : KnownNames) (raw : String) : Option DataType :=
  (DataType.parse known raw).toOption

namespace Document

open Definition (namesOf)

/-- The type texts of a method: that of its result, then those of its parameters. -/
def Method.typeTexts (m : Method) : List String := m.returnType.toList ++ m.params.map (·.type)

/-- The properties of the contracts that a model names, in the order in which it names them. Of
several contracts of one name the first counts. -/
def includedProperties (d : Document) (m : Model) : List Property :=
  m.contracts.flatMap fun name =>
    (d.contracts.find? (·.name = name)).toList.flatMap (·.properties)

/-- What a document must satisfy. -/
structure IsConsistent (d : Document) : Prop where
  contractTypes : ∀ c ∈ d.contracts, ∀ p ∈ c.properties,
    ∃ t, DataType.parse (namesOf d) p.type = .ok t
  propertyTypes : ∀ m ∈ d.models, ∀ p ∈ m.properties,
    ∃ t, DataType.parse (namesOf d) p.type = .ok t
  methodTypes : ∀ m ∈ d.models, ∀ f ∈ m.methods, ∀ raw ∈ f.typeTexts,
    ∃ t, DataType.parse (namesOf d) raw = .ok t
  serviceTypes : ∀ s ∈ d.services, ∀ f ∈ s.methods, ∀ raw ∈ f.typeTexts,
    ∃ t, DataType.parse (namesOf d) raw = .ok t
  contracts : ∀ m ∈ d.models, ∀ name ∈ m.contracts, name ∈ d.contracts.map (·.name)
  merges : ∀ m ∈ d.models, ∀ q ∈ d.includedProperties m, ∀ first,
    (m.properties ++ d.includedProperties m).find? (·.name = q.name) = some first →
    (namesOf d).typeOf? first.type = (namesOf d).typeOf? q.type
  baseModels : ∀ m ∈ d.models, ∀ base, m.baseModel = some base → base ∈ d.models.map (·.name)

/-! ### Faults -/

/-- A text that names no type. -/
def typeFault (known : KnownNames) (raw : String) : List Error :=
  if (known.typeOf? raw).isSome then [] else [.unsupportedType raw]

/-- The name of a contract that is not declared. -/
def contractFault (declared : List String) (model name : String) : List Error :=
  if name ∈ declared then [] else [.contractNotDefined name model]

/-- A property whose type differs from that of the first property of its name in a list. -/
def mergeFault (known : KnownNames) (model : String) (all : List Property) (q : Property) :
    List Error :=
  match all.find? (·.name = q.name) with
  | some first =>
    if known.typeOf? first.type = known.typeOf? q.type then []
    else [.propertyTypeConflict model q.name first.type q.type]
  | none => []

/-- The name of a base model that is not declared. -/
def baseFault (declared : List String) (base : Option String) : List Error :=
  base.toList.flatMap fun name => if name ∈ declared then [] else [.modelNotDefined name]

/-- What is wrong with properties. -/
def propertyFaults (known : KnownNames) (properties : List Property) : List Error :=
  properties.flatMap fun p => typeFault known p.type

/-- What is wrong with methods. -/
def methodFaults (known : KnownNames) (methods : List Method) : List Error :=
  methods.flatMap fun f => f.typeTexts.flatMap (typeFault known)

/-- What is wrong with a model, its base model apart. -/
def modelFaults (d : Document) (m : Model) : List Error :=
  propertyFaults (namesOf d) m.properties ++ (methodFaults (namesOf d) m.methods ++
    (m.contracts.flatMap (contractFault (d.contracts.map (·.name)) m.name) ++
      (d.includedProperties m).flatMap
        (mergeFault (namesOf d) m.name (m.properties ++ d.includedProperties m))))

/-- What is wrong with a document. -/
def faults (d : Document) : List Error :=
  d.contracts.flatMap (fun c => propertyFaults (namesOf d) c.properties) ++
    (d.models.flatMap d.modelFaults ++
      (d.services.flatMap (fun s => methodFaults (namesOf d) s.methods) ++
        d.models.flatMap fun m => baseFault (d.models.map (·.name)) m.baseModel))

/-! ### No faults -/

theorem typeFault_eq_nil {known : KnownNames} {raw : String} :
    typeFault known raw = [] ↔ ∃ t, DataType.parse known raw = .ok t := by
  unfold typeFault KnownNames.typeOf?
  cases DataType.parse known raw <;> simp [Except.toOption]

theorem contractFault_eq_nil {declared : List String} {model name : String} :
    contractFault declared model name = [] ↔ name ∈ declared := by
  unfold contractFault
  split <;> simp [*]

theorem mergeFault_eq_nil {known : KnownNames} {model : String} {all : List Property}
    {q : Property} :
    mergeFault known model all q = [] ↔ ∀ first, all.find? (·.name = q.name) = some first →
      known.typeOf? first.type = known.typeOf? q.type := by
  unfold mergeFault
  split
  · rename_i first hfirst
    rw [hfirst]
    split <;> simp [*]
  · rename_i hnone
    simp [hnone]

theorem baseFault_eq_nil {declared : List String} {base : Option String} :
    baseFault declared base = [] ↔ ∀ name, base = some name → name ∈ declared := by
  unfold baseFault
  cases base with
  | none => simp
  | some name => by_cases h : name ∈ declared <;> simp [h]

/-- A document without faults is consistent. -/
theorem faults_eq_nil {d : Document} : d.faults = [] ↔ d.IsConsistent := by
  simp only [faults, modelFaults, propertyFaults, methodFaults, List.append_eq_nil_iff,
    List.flatMap_eq_nil_iff, typeFault_eq_nil, contractFault_eq_nil, mergeFault_eq_nil,
    baseFault_eq_nil]
  constructor
  · rintro ⟨hc, hm, hs, hb⟩
    exact ⟨hc, fun m h => (hm m h).1, fun m h => (hm m h).2.1, hs, fun m h => (hm m h).2.2.1,
      fun m h => (hm m h).2.2.2, hb⟩
  · rintro ⟨hc, hp, hf, hs, hn, hq, hb⟩
    exact ⟨hc, fun m h => ⟨hp m h, hf m h, hn m h, hq m h⟩, hs, hb⟩

end Document

namespace Definition

open Outcome Document

variable {known : KnownNames}

/-! ### Faults of types -/

theorem fault?_parse (raw : String) :
    fault? (DataType.parse known raw) = (typeFault known raw).head? := by
  unfold typeFault KnownNames.typeOf? DataType.parse
  cases DataType.resolve? known (Text.trim raw).toList <;> rfl

theorem fault?_properties (ps : List Document.Property) :
    fault? (ps.mapM (Property.build known)) = (propertyFaults known ps).head? := by
  refine fault?_mapM fun p _ => ?_
  rw [Property.build, fault?_bind_pure, fault?_parse]

theorem fault?_method (m : Document.Method) :
    fault? (Method.build known m) = (m.typeTexts.flatMap (typeFault known)).head? := by
  have hreturn : fault? (m.returnType.mapM (DataType.parse known)) =
      (m.returnType.toList.flatMap (typeFault known)).head? := by
    cases m.returnType with
    | none => rfl
    | some raw =>
      rw [Option.toList_some, List.flatMap_singleton, ← fault?_parse]
      cases h : DataType.parse known raw <;> simp [h, Functor.map, Except.map]
  have hparams : fault? (m.params.mapM (Param.build known)) =
      ((m.params.map (·.type)).flatMap (typeFault known)).head? := by
    rw [List.flatMap_map]
    refine fault?_mapM fun p _ => ?_
    rw [Param.build, fault?_bind_pure, fault?_parse]
  rw [Method.build, Method.typeTexts, List.flatMap_append]
  exact fault?_bind hreturn fun _ _ => by rw [fault?_bind_pure, hparams]

theorem fault?_methods (ms : List Document.Method) :
    fault? (ms.mapM (Method.build known)) = (methodFaults known ms).head? :=
  fault?_mapM fun m _ => fault?_method m

/-! ### Faults of merging -/

/-- A stored property is a declared one with its type; the contract does not matter. -/
structure Stores (known : KnownNames) (declared : Document.Property) (stored : Property) :
    Prop where
  name : stored.name = declared.name
  rawType : stored.rawType = declared.type
  type : known.typeOf? declared.type = some stored.dataType

theorem stores_of_build {declared : Document.Property} {stored : Property}
    (h : Property.build known declared = .ok stored) : Stores known declared stored := by
  obtain ⟨t, ht, rfl⟩ := Property.build_eq_ok.mp h
  exact ⟨rfl, rfl, by rw [KnownNames.typeOf?, ht]; rfl⟩

theorem stores_of_mapM {declared : List Document.Property} {stored : List Property}
    (h : declared.mapM (Property.build known) = .ok stored) :
    List.Forall₂ (Stores known) declared stored :=
  (mapM_eq_ok.mp h).imp fun _ _ => stores_of_build

/-- The invariant of merging: under every name, the first stored property is the first one that was
declared so far. -/
def Mirrors (known : KnownNames) (seen : List Document.Property) (stored : List Property) : Prop :=
  ∀ name, Option.Rel (Stores known) (seen.find? (·.name = name)) (stored.find? (·.name = name))

theorem mirrors_of_forall₂ {seen : List Document.Property} {stored : List Property}
    (h : List.Forall₂ (Stores known) seen stored) : Mirrors known seen stored := by
  intro name
  refine find?_rel (fun a b hab => ?_) h
  rw [hab.name]

/-- The fault of one step of merging. Whatever is declared later does not matter, for the property
itself comes before it. -/
theorem fault?_includeProperty {model : String} {seen later : List Document.Property}
    {stored : List Property} {declared : Document.Property} {q : String × Property}
    (hmirror : Mirrors known seen stored) (hq : Stores known declared q.2) :
    fault? (includeProperty model stored q) =
      (mergeFault known model (seen ++ declared :: later) declared).head? := by
  have hself : ∀ rest : List Document.Property,
      (declared :: rest).find? (·.name = declared.name) = some declared := fun rest => by simp
  have hfirst := hmirror declared.name
  unfold includeProperty mergeFault
  rw [hq.name, List.find?_append, hself]
  generalize seen.find? (·.name = declared.name) = found at hfirst ⊢
  generalize stored.find? (·.name = declared.name) = there at hfirst ⊢
  cases hfirst with
  | none => simp
  | some hstores =>
    simp only [Option.some_or, hstores.type, hq.type, hstores.rawType, hq.rawType,
      Option.some.injEq]
    split <;> rfl

/-- One step of merging keeps the invariant. -/
theorem mirrors_includeProperty {model : String} {seen : List Document.Property}
    {stored stored' : List Property} {declared : Document.Property} {q : String × Property}
    (hmirror : Mirrors known seen stored) (hq : Stores known declared q.2)
    (h : includeProperty model stored q = .ok stored') :
    Mirrors known (seen ++ [declared]) stored' := by
  intro name
  have hat := hmirror name
  rw [List.find?_append, List.find?_singleton]
  rcases includeProperty_eq_ok.mp h with ⟨existing, hexisting, _, rfl⟩ | ⟨_, rfl⟩
  · -- the name was there already, so nothing is added and the first one stays
    rw [hq.name] at hexisting
    by_cases hname : declared.name = name
    · rw [hname] at hexisting
      rw [hexisting] at hat ⊢
      generalize seen.find? (·.name = name) = found at hat ⊢
      cases hat with
      | some hrel => exact .some hrel
    · simpa [hname] using hat
  · rw [List.find?_append, List.find?_singleton]
    by_cases hname : declared.name = name
    · have hadded : Stores known declared { q.2 with contract := some q.1 } :=
        ⟨hq.name, hq.rawType, hq.type⟩
      have hqname : q.2.name = name := hq.name.trans hname
      rw [if_pos (decide_eq_true hname), if_pos (decide_eq_true hqname)]
      generalize seen.find? (·.name = name) = found at hat ⊢
      generalize stored.find? (·.name = name) = there at hat ⊢
      cases hat with
      | none => exact .some hadded
      | some hrel => exact .some hrel
    · have hqname : ¬ q.2.name = name := fun h => hname (hq.name.symm.trans h)
      simpa [hname, hqname] using hat

/-- Merging ends in the first property whose type differs from that of the first property of its
name. -/
theorem fault?_merge {model : String} : ∀ {rest : List (String × Property)}
    {later : List Document.Property}, List.Forall₂ (Stores known) later (rest.map (·.2)) →
    ∀ {seen : List Document.Property} {stored : List Property}, Mirrors known seen stored →
    fault? (rest.foldlM (includeProperty model) stored) =
      (later.flatMap (mergeFault known model (seen ++ later))).head?
  | [], later, hrest, seen, stored, hmirror => by
    rw [List.map_nil, List.forall₂_nil_right_iff] at hrest
    subst hrest
    rfl
  | q :: rest, later, hrest, seen, stored, hmirror => by
    rw [List.map_cons, List.forall₂_cons_right_iff] at hrest
    obtain ⟨declared, later, hq, hrest, rfl⟩ := hrest
    rw [List.foldlM_cons, List.flatMap_cons]
    refine fault?_bind (fault?_includeProperty hmirror hq) fun stored' hstep => ?_
    rw [fault?_merge hrest (mirrors_includeProperty hmirror hq hstep)]
    simp

/-! ### Faults of models and documents -/

/-- What is built from declared contracts, contract by contract. -/
def StoresContract (known : KnownNames) (declared : Document.Contract) (stored : Contract) : Prop :=
  stored.name = declared.name ∧ List.Forall₂ (Stores known) declared.properties stored.properties

theorem storesContract_of_build {declared : Document.Contract} {stored : Contract}
    (h : Contract.build known declared = .ok stored) : StoresContract known declared stored := by
  obtain ⟨properties, hproperties, rfl⟩ := Contract.build_eq_ok.mp h
  exact ⟨rfl, stores_of_mapM hproperties⟩

theorem storesContract_of_mapM {declared : List Document.Contract} {stored : List Contract}
    (h : declared.mapM (Contract.build known) = .ok stored) :
    List.Forall₂ (StoresContract known) declared stored :=
  (mapM_eq_ok.mp h).imp fun _ _ => storesContract_of_build

theorem find?_storesContract {declared : List Document.Contract} {stored : List Contract}
    (h : List.Forall₂ (StoresContract known) declared stored) (name : String) :
    Option.Rel (StoresContract known) (declared.find? (·.name = name))
      (Contract.find? stored name) := by
  refine find?_rel (fun a b hab => ?_) h
  rw [hab.1]

theorem fault?_includedContracts {d : Document} {stored : List Contract}
    (h : List.Forall₂ (StoresContract known) d.contracts stored) (model : String)
    (names : List String) : fault? (includedContracts stored model names) =
      (names.flatMap (contractFault (d.contracts.map (·.name)) model)).head? := by
  refine fault?_mapM fun name _ => ?_
  have hfind := find?_storesContract h name
  rw [contractFault]
  generalize Contract.find? stored name = there at hfind ⊢
  cases hdeclared : d.contracts.find? (·.name = name) with
  | none =>
    rw [hdeclared] at hfind
    rw [if_neg (find?_name_eq_none.mp hdeclared)]
    cases hfind
    rfl
  | some c =>
    rw [hdeclared] at hfind
    rw [if_pos (exists_find?_name.mp ⟨c, hdeclared⟩)]
    cases hfind
    rfl

/-- The properties that a model takes over are those of the declared contracts that it names. -/
theorem stores_includedProperties {d : Document} {stored : List Contract}
    (h : List.Forall₂ (StoresContract known) d.contracts stored) {names : List String}
    {included : List Contract}
    (hincluded : List.Forall₂ (fun name c => Contract.find? stored name = some c) names included) :
    List.Forall₂ (Stores known)
      (names.flatMap fun name =>
        (d.contracts.find? (·.name = name)).toList.flatMap (·.properties))
      ((contractProperties included).map (·.2)) := by
  induction hincluded with
  | nil => exact .nil
  | cons hname _ ih =>
    rename_i name c names included _
    have hfind := find?_storesContract h name
    rw [hname] at hfind
    simp only [contractProperties, List.flatMap_cons, List.map_append] at ih ⊢
    refine List.rel_append ?_ ih
    generalize d.contracts.find? (·.name = name) = declared at hfind ⊢
    cases hfind with
    | some hstores => simpa using hstores.2

theorem fault?_model {d : Document} {stored : List Contract}
    (h : List.Forall₂ (StoresContract (namesOf d)) d.contracts stored) (m : Document.Model) :
    fault? (Model.build (namesOf d) stored m) = (d.modelFaults m).head? := by
  rw [Model.build, modelFaults]
  refine fault?_bind (fault?_properties m.properties) fun own hown => ?_
  refine fault?_bind (fault?_methods m.methods) fun methods _ => ?_
  refine fault?_bind (fault?_includedContracts h m.name m.contracts) fun included hincluded => ?_
  rw [fault?_bind_pure]
  exact fault?_merge (stores_includedProperties h (includedContracts_eq_ok.mp hincluded))
    (mirrors_of_forall₂ (stores_of_mapM hown))

theorem fault?_baseModel {d : Definition} (m : Model) :
    fault? (d.baseModel m) = (baseFault (d.models.map (·.name)) m.baseModel).head? := by
  rw [baseModel, baseFault]
  cases m.baseModel with
  | none => rfl
  | some name =>
    simp only [Option.toList_some, List.flatMap_singleton, model?]
    cases hfind : d.models.find? (·.name = name) with
    | none => rw [if_neg (find?_name_eq_none.mp hfind)]; rfl
    | some base => rw [if_pos (exists_find?_name.mp ⟨base, hfind⟩)]; rfl

theorem fault?_checkBaseModels (d : Definition) :
    fault? (checkBaseModels d) =
      (d.models.flatMap fun m => baseFault (d.models.map (·.name)) m.baseModel).head? := by
  refine fault?_forM fun m _ => ?_
  rw [fault?_bind_pure, fault?_baseModel]

/-- A document ends in its first fault. -/
theorem fault?_build (name : String) (doc : Document) (options : Fields) :
    fault? (build name doc options) = doc.faults.head? := by
  rw [build, faults]
  refine fault?_bind ?_ fun contracts hcontracts => ?_
  · refine fault?_mapM fun c _ => ?_
    rw [Contract.build, fault?_bind_pure, fault?_properties]
  refine fault?_bind ?_ fun models hmodels => ?_
  · exact fault?_mapM fun m _ => fault?_model (storesContract_of_mapM hcontracts) m
  refine fault?_bind ?_ fun services _ => ?_
  · refine fault?_mapM fun s _ => ?_
    rw [Service.build, fault?_bind_pure, fault?_methods]
  rw [fault?_bind_pure, fault?_checkBaseModels]
  have hnames : models.map (·.name) = doc.models.map (·.name) :=
    map_eq_of_mapM (fun _ _ => Model.build_name) hmodels
  have hbases : models.map (·.baseModel) = doc.models.map (·.baseModel) :=
    map_eq_of_mapM (fun _ _ => Model.build_baseModel) hmodels
  have hmap : ∀ declared : List String,
      models.flatMap (fun m => baseFault declared m.baseModel) =
        doc.models.flatMap fun m => baseFault declared m.baseModel := by
    intro declared
    simpa only [List.flatMap_map] using congrArg (List.flatMap (baseFault declared)) hbases
  rw [hnames, hmap]

theorem exists_build_iff {name : String} {doc : Document} {options : Fields} :
    (∃ d, build name doc options = .ok d) ↔ doc.IsConsistent := by
  rw [← fault?_eq_none, fault?_build, List.head?_eq_none_iff, faults_eq_nil]

/-- The documents that can be built are the consistent ones; any other document ends in its first
fault. -/
theorem build_iff_consistent (name : String) (doc : Document) (options : Fields) :
    ((∃ d, build name doc options = .ok d) ↔ doc.IsConsistent) ∧
    ∀ e, build name doc options = .error e ↔ doc.faults.head? = some e := by
  have hfault := fault?_build name doc options
  constructor
  · rw [← faults_eq_nil, ← List.head?_eq_none_iff, ← hfault, fault?_eq_none]
  · intro e
    rw [← hfault, fault?_eq_some]

end Definition

end Stencil
