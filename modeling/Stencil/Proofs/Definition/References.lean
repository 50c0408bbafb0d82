import Stencil.Proofs.Definition.Acceptance

/-! References by name, and what templates see of a definition in which some lead nowhere.

`Definition.references` lists everything that a definition refers to by name, in the order in which
it is looked up:

    contracts, models, services
    model: names of contracts, properties, base model, methods
    method: result, parameters

Nothing is assumed of the definition: its lists may have been changed after it was built. What
templates see of it can be found iff all references lead to something that is there, and else the
first one that does not is named (`fault?_context`). -/

namespace Stencil

/-- Something that is referred to by name; of a contract also the model that names it. -/
inductive Reference where
  | enum (name : String)
  | model (name : String)
  | contract (name owner : String)
deriving DecidableEq, Repr

/-- The error about a reference that leads nowhere. -/
def Reference.error : Reference → Error
  | .enum name => .enumNotDefined name
  | .model name => .modelNotDefined name
  | .contract name owner => .contractNotDefined name owner

/-- What a type refers to, at any depth. -/
def DataType.references : DataType → List Reference
  | .primitive .. => []
  | .enum name _ => [.enum name]
  | .model name _ => [.model name]
  | .list item _ => item.references

namespace Definition

/-- What a method refers to. -/
def Method.references (m : Method) : List Reference :=
  m.returnType.toList.flatMap DataType.references ++ m.params.flatMap (·.dataType.references)

/-- What a contract refers to. -/
def Contract.references (c : Contract) : List Reference :=
  c.properties.flatMap (·.dataType.references)

/-- What a model refers to. -/
def Model.references (m : Model) : List Reference :=
  m.contracts.map (.contract · m.name) ++ (m.properties.flatMap (·.dataType.references) ++
    (m.baseModel.toList.map .model ++ m.methods.flatMap Method.references))

/-- What a service refers to. -/
def Service.references (s : Service) : List Reference := s.methods.flatMap Method.references

/-- Everything that a definition refers to. -/
def references (d : Definition) : List Reference :=
  d.contracts.flatMap Contract.references ++
    (d.models.flatMap Model.references ++ d.services.flatMap Service.references)

/-- A reference leads to something that is there. -/
def Resolves (d : Definition) : Reference → Prop
  | .enum name => name ∈ d.enums.map (·.name)
  | .model name => name ∈ d.models.map (·.name)
  | .contract name _ => name ∈ d.contracts.map (·.name)

instance (d : Definition) (r : Reference) : Decidable (d.Resolves r) :=
  match r with
  | .enum _ | .model _ | .contract .. => inferInstanceAs (Decidable (_ ∈ _))

/-- The errors about references that lead nowhere. -/
def dangling (d : Definition) (refs : List Reference) : List Error :=
  refs.flatMap fun r => if d.Resolves r then [] else [r.error]

open Outcome

variable (d : Definition)

theorem dangling_append (refs more : List Reference) :
    d.dangling (refs ++ more) = d.dangling refs ++ d.dangling more := List.flatMap_append

theorem dangling_flatMap {α : Type} (l : List α) (f : α → List Reference) :
    d.dangling (l.flatMap f) = l.flatMap fun a => d.dangling (f a) := List.flatMap_assoc

theorem dangling_map {α : Type} (l : List α) (f : α → Reference) :
    d.dangling (l.map f) = l.flatMap fun a => if d.Resolves (f a) then [] else [(f a).error] :=
  List.flatMap_map ..

theorem dangling_singleton (r : Reference) :
    d.dangling [r] = if d.Resolves r then [] else [r.error] := List.flatMap_singleton ..

theorem head?_dangling (refs : List Reference) :
    (d.dangling refs).head? = (refs.find? fun r => ¬ d.Resolves r).map Reference.error := by
  induction refs with
  | nil => rfl
  | cons r refs ih =>
    rw [← List.singleton_append, dangling_append, dangling_singleton, List.singleton_append,
      List.find?_cons]
    by_cases h : d.Resolves r <;> simp [h, ih]

/-- Work that rests on a lookup fails iff the reference leads nowhere. -/
theorem fault?_lookup {α β : Type} {found : Option α} {r : Reference}
    (h : (∃ a, found = some a) ↔ d.Resolves r) {x : Except Error β}
    (hsome : ∀ a, found = some a → ∃ b, x = .ok b) (hnone : found = none → x = .error r.error) :
    fault? x = (d.dangling [r]).head? := by
  rw [dangling_singleton]
  cases hfound : found with
  | none => rw [if_neg (mt h.mpr (by simp [hfound])), hnone hfound]; rfl
  | some a =>
    obtain ⟨b, hb⟩ := hsome a hfound
    rw [if_pos (h.mp ⟨a, hfound⟩), hb]
    rfl

/-! ### Types -/

theorem fault?_describeType : ∀ t : DataType,
    fault? (d.describeType t) = (d.dangling t.references).head?
  | .primitive .. => rfl
  | .enum name n => by
    rw [describeType]
    exact d.fault?_lookup (r := .enum name) exists_find?_name (fun e he => ⟨_, by rw [enum?, he]⟩)
      fun he => by rw [enum?, he]; rfl
  | .model name n => by
    rw [describeType]
    exact d.fault?_lookup (r := .model name) exists_find?_name (fun m hm => ⟨_, by rw [model?, hm]⟩)
      fun hm => by rw [model?, hm]; rfl
  | .list item n => by
    rw [describeType, fault?_bind_pure, fault?_describeType item]
    rfl

theorem fault?_propertyContexts (inherited : Property → Fields) (ps : List Property) :
    fault? (ps.mapM fun p => d.propertyContext (inherited p) p) =
      (d.dangling (ps.flatMap (·.dataType.references))).head? := by
  rw [dangling_flatMap]
  refine fault?_mapM fun p _ => ?_
  rw [propertyContext, fault?_bind_pure, fault?_describeType]

theorem fault?_methodContext (inherited : Fields) (m : Method) :
    fault? (d.methodContext inherited m) = (d.dangling m.references).head? := by
  have hresult : fault? (m.returnType.mapM d.describeType) =
      (d.dangling (m.returnType.toList.flatMap DataType.references)).head? := by
    cases m.returnType with
    | none => rfl
    | some t =>
      rw [Option.toList_some, List.flatMap_singleton, ← fault?_describeType]
      cases h : d.describeType t <;> simp [h, Functor.map, Except.map]
  have hparams : fault? (m.params.mapM d.paramContext) =
      (d.dangling (m.params.flatMap (·.dataType.references))).head? := by
    rw [dangling_flatMap]
    refine fault?_mapM fun p _ => ?_
    rw [paramContext, fault?_bind_pure, fault?_describeType]
  rw [methodContext, Method.references, dangling_append]
  exact fault?_bind hresult fun _ _ => by rw [fault?_bind_pure, hparams]

theorem fault?_methodContexts (inherited : Fields) (ms : List Method) :
    fault? (ms.mapM (d.methodContext inherited)) =
      (d.dangling (ms.flatMap Method.references)).head? := by
  rw [dangling_flatMap]
  exact fault?_mapM fun m _ => d.fault?_methodContext inherited m

/-! ### Contracts, models and services -/

theorem fault?_contractContext (c : Contract) :
    fault? (d.contractContext c) = (d.dangling c.references).head? := by
  rw [contractContext, fault?_bind_pure]
  exact d.fault?_propertyContexts (fun _ => Fields.layer [d.extensions, c.extensions]) c.properties

theorem fault?_serviceContext (s : Service) :
    fault? (d.serviceContext s) = (d.dangling s.references).head? := by
  rw [serviceContext, fault?_bind_pure]
  exact d.fault?_methodContexts (Fields.layer [d.extensions, s.extensions]) s.methods

theorem fault?_modelContracts (m : Model) :
    fault? (d.modelContracts m) = (d.dangling (m.contracts.map (.contract · m.name))).head? := by
  rw [← List.flatMap_singleton' (m.contracts.map _), dangling_flatMap, List.flatMap_map]
  refine fault?_mapM fun name _ => ?_
  exact d.fault?_lookup (r := .contract name m.name) exists_find?_name
    (fun c hc => ⟨c, by rw [Contract.find?, hc]⟩) fun hc => by rw [Contract.find?, hc]; rfl

/-- The contracts that a model includes are seen with it; they are among those of the definition, so
that nothing new can be missing in them. -/
theorem fault?_modelContext (hcontracts : ∀ c ∈ d.contracts, ∃ v, d.contractContext c = .ok v)
    (m : Model) : fault? (d.modelContext m) = (d.dangling m.references).head? := by
  rw [modelContext, Model.references, dangling_append, dangling_append, dangling_append]
  refine fault?_bind (d.fault?_modelContracts m) fun included hincluded => ?_
  refine fault?_bind (d.fault?_propertyContexts _ m.properties) fun properties _ => ?_
  refine fault?_bind ?_ fun base _ => ?_
  · rw [fault?_baseModel, dangling_map]
    rfl
  obtain ⟨contexts, hcontexts⟩ := exists_mapM_eq_ok fun c hc =>
    hcontracts c (mem_of_includedContracts hincluded c hc)
  rw [hcontexts]
  exact (fault?_bind_pure ..).trans (d.fault?_methodContexts _ m.methods)

/-- What templates see of a definition can be found unless a reference leads nowhere; the first such
reference is named. -/
theorem fault?_context : fault? d.context = (d.dangling d.references).head? := by
  rw [context, references, dangling_append, dangling_append, dangling_flatMap, dangling_flatMap,
    dangling_flatMap]
  refine fault?_bind ?_ fun contracts hcontracts => ?_
  · exact fault?_mapM fun c _ => d.fault?_contractContext c
  have hseen : ∀ c ∈ d.contracts, ∃ v, d.contractContext c = .ok v := by
    intro c hc
    obtain ⟨v, _, hv⟩ := exists_of_mem_left (mapM_eq_ok.mp hcontracts) hc
    exact ⟨v, hv⟩
  refine fault?_bind ?_ fun models _ => ?_
  · exact fault?_mapM fun m _ => d.fault?_modelContext hseen m
  rw [fault?_bind_pure]
  exact fault?_mapM fun s _ => d.fault?_serviceContext s

theorem exists_context_iff : (∃ c, d.context = .ok c) ↔ ∀ r ∈ d.references, d.Resolves r := by
  rw [← fault?_eq_none, fault?_context, head?_dangling, Option.map_eq_none_iff,
    List.find?_eq_none]
  simp

/-- What templates see of a definition can be found iff everything that it refers to is there: every
enum and model in its types at any depth, and every base model and contract that its models name.
Else the first reference that leads nowhere is named. -/
theorem context_iff_references_resolve :
    ((∃ c, d.context = .ok c) ↔ ∀ r ∈ d.references, d.Resolves r) ∧
    ∀ e, d.context = .error e ↔ ∃ before r after, d.references = before ++ r :: after ∧
      (∀ q ∈ before, d.Resolves q) ∧ ¬ d.Resolves r ∧ e = r.error := by
  refine ⟨d.exists_context_iff, fun e => ?_⟩
  rw [← fault?_eq_some, fault?_context, head?_dangling, Option.map_eq_some_iff]
  constructor
  · rintro ⟨r, hfind, rfl⟩
    obtain ⟨hr, before, after, hsplit, hbefore⟩ := List.find?_eq_some_iff_append.mp hfind
    exact ⟨before, r, after, hsplit, by simpa using hbefore, by simpa using hr, rfl⟩
  · rintro ⟨before, r, after, hsplit, hbefore, hr, rfl⟩
    refine ⟨r, List.find?_eq_some_iff_append.mpr ⟨?_, before, after, hsplit, ?_⟩, rfl⟩
    · simpa using hr
    · simpa using hbefore

end Definition

end Stencil
