import Stencil.Definition.Basic
import Stencil.Document.Basic

/-! Building a definition from a document.

Types are resolved against all enum and model names of the document. A model takes over the
properties of the contracts that it names, in order; a property whose name it has already must have
the same type. -/

namespace Stencil.Definition

variable (known : KnownNames)

/-- Resolves the type of a property. -/
def Property.build (p : Document.Property) : Except Error Property := do
  return ⟨p.name, p.type, ← DataType.parse known p.type, none, p.extensions⟩

/-- Resolves the type of a parameter. -/
def Param.build (p : Document.Param) : Except Error Param := do
  return ⟨p.name, p.type, ← DataType.parse known p.type⟩

/-- Resolves the result type of a method, then the types of its parameters. -/
def Method.build (m : Document.Method) : Except Error Method := do
  let returnType ← m.returnType.mapM (DataType.parse known)
  return ⟨m.name, returnType, ← m.params.mapM (Param.build known), m.extensions⟩

/-- Takes over an enum as it is. -/
def Enum.build (e : Document.Enum) : Enum := ⟨e.name, e.values, e.extensions⟩

/-- Resolves the types of a contract. -/
def Contract.build (c : Document.Contract) : Except Error Contract := do
  return ⟨c.name, ← c.properties.mapM (Property.build known), c.extensions⟩

/-- Resolves the types of a service. -/
def Service.build (s : Document.Service) : Except Error Service := do
  return ⟨s.name, ← s.methods.mapM (Method.build known), s.extensions⟩

/-- Adds a property of a contract to the properties of a model, unless it has one of that name;
the types of the two must agree. -/
def includeProperty (model : String) (properties : List Property) (incoming : String × Property) :
    Except Error (List Property) :=
  match properties.find? (·.name = incoming.2.name) with
  | some existing =>
    if existing.dataType = incoming.2.dataType then .ok properties
    else .error (.propertyTypeConflict model incoming.2.name existing.rawType incoming.2.rawType)
  | none => .ok (properties ++ [{ incoming.2 with contract := some incoming.1 }])

/-- The properties of contracts, each with the name of its contract. -/
def contractProperties (contracts : List Contract) : List (String × Property) :=
  contracts.flatMap fun c => c.properties.map (c.name, ·)

/-- Resolves the types of a model and merges its contracts. -/
def Model.build (contracts : List Contract) (m : Document.Model) : Except Error Model := do
  let own ← m.properties.mapM (Property.build known)
  let methods ← m.methods.mapM (Method.build known)
  let included ← includedContracts contracts m.name m.contracts
  let properties ← (contractProperties included).foldlM (includeProperty m.name) own
  return ⟨m.name, m.isAbstract, m.baseModel, properties, methods, m.contracts, m.extensions⟩

/-- The names that the types of a document may refer to. -/
def namesOf (d : Document) : KnownNames := ⟨d.enums.map (·.name), d.models.map (·.name)⟩

/-- Checks that every base model is declared. -/
def checkBaseModels (d : Definition) : Except Error Unit :=
  d.models.forM fun m => do
    let _ ← d.baseModel m

/-- Builds the definition of a document; `options` override the options of the document. -/
def build (name : String) (d : Document) (options : Fields) : Except Error Definition := do
  let known := namesOf d
  let contracts ← d.contracts.mapM (Contract.build known)
  let models ← d.models.mapM (Model.build known contracts)
  let services ← d.services.mapM (Service.build known)
  let definition : Definition :=
    { name, nameSpace := d.nameSpace, options := d.options.override options
      enums := d.enums.map Enum.build, contracts, models, services, extensions := d.extensions }
  checkBaseModels definition
  return definition

end Stencil.Definition
