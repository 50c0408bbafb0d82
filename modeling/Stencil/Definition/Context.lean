import Stencil.Definition.Basic

/-! What templates see of a definition.

Extensions are layered: an inner level overrides the outer ones, from the definition over the
contract and the model or service down to the property or method. The descriptor of an enum type
also lists the values of the enum. -/

namespace Stencil.Definition

/-- A property as seen by templates. -/
structure PropertyContext where
  name : String
  type : Value
  rawType : String
  contract : Option String
  extensions : Fields

/-- A parameter as seen by templates. -/
structure ParamContext where
  name : String
  type : Value
  rawType : String

/-- A method as seen by templates. -/
structure MethodContext where
  name : String
  returnType : Option Value
  params : List ParamContext
  extensions : Fields

/-- An enum as seen by templates. -/
structure EnumContext where
  name : String
  values : List String
  extensions : Fields

/-- A contract as seen by templates. -/
structure ContractContext where
  name : String
  properties : List PropertyContext
  extensions : Fields

/-- A model as seen by templates. -/
structure ModelContext where
  name : String
  isAbstract : Bool
  baseModel : Option String
  contracts : List ContractContext
  properties : List PropertyContext
  methods : List MethodContext
  extensions : Fields

/-- A service as seen by templates. -/
structure ServiceContext where
  name : String
  methods : List MethodContext
  extensions : Fields

/-- A definition as seen by templates. -/
structure Context where
  name : String
  nameSpace : Option String
  options : Fields
  enums : List EnumContext
  contracts : List ContractContext
  models : List ModelContext
  services : List ServiceContext
  extensions : Fields

variable (d : Definition)

/-- The descriptor of a type, with the values of the enums in it. -/
def describeType : DataType → Except Error Value
  | .primitive kind n => .ok (DataType.primitive kind n).descriptor
  | .enum name n =>
    match d.enum? name with
    | some e =>
      .ok (.record [("dataType", .str "enum"), ("nullable", .bool n), ("enumName", .str name),
        ("values", .strings e.values)])
    | none => .error (.enumNotDefined name)
  | .model name n =>
    match d.model? name with
    | some _ => .ok (DataType.model name n).descriptor
    | none => .error (.modelNotDefined name)
  | .list item n => do
    let described ← describeType item
    return .record [("dataType", .str "list"), ("nullable", .bool n), ("itemType", described)]

/-- The context of a property below the extensions that it inherits. -/
def propertyContext (inherited : Fields) (p : Property) : Except Error PropertyContext := do
  return ⟨p.name, ← d.describeType p.dataType, p.rawType, p.contract,
    Fields.layer [inherited, p.extensions]⟩

/-- The context of a parameter. -/
def paramContext (p : Param) : Except Error ParamContext := do
  return ⟨p.name, ← d.describeType p.dataType, p.rawType⟩

/-- The context of a method below the extensions that it inherits. -/
def methodContext (inherited : Fields) (m : Method) : Except Error MethodContext := do
  let returnType ← m.returnType.mapM d.describeType
  return ⟨m.name, returnType, ← m.params.mapM d.paramContext,
    Fields.layer [inherited, m.extensions]⟩

/-- The context of an enum. -/
def enumContext (e : Enum) : EnumContext :=
  ⟨e.name, e.values, Fields.layer [d.extensions, e.extensions]⟩

/-- The context of a contract. -/
def contractContext (c : Contract) : Except Error ContractContext := do
  let inherited := Fields.layer [d.extensions, c.extensions]
  return ⟨c.name, ← c.properties.mapM (d.propertyContext inherited), inherited⟩

/-- The extensions that a property of a model inherits: those of the contract that it was merged
from lie between those of the definition and those of the model. -/
def inheritedExtensions (m : Model) (contracts : List Contract) (p : Property) : Fields :=
  match p.contract.bind (Contract.find? contracts) with
  | some c => Fields.layer [d.extensions, c.extensions, m.extensions]
  | none => Fields.layer [d.extensions, m.extensions]

/-- The context of a model. -/
def modelContext (m : Model) : Except Error ModelContext := do
  let inherited := Fields.layer [d.extensions, m.extensions]
  let contracts ← d.modelContracts m
  let properties ← m.properties.mapM fun p =>
    d.propertyContext (d.inheritedExtensions m contracts p) p
  let base ← d.baseModel m
  let included ← contracts.mapM d.contractContext
  let methods ← m.methods.mapM (d.methodContext inherited)
  return ⟨m.name, m.isAbstract, base.map (·.name), included, properties, methods, inherited⟩

/-- The context of a service. -/
def serviceContext (s : Service) : Except Error ServiceContext := do
  let inherited := Fields.layer [d.extensions, s.extensions]
  return ⟨s.name, ← s.methods.mapM (d.methodContext inherited), inherited⟩

/-- The context of a definition. -/
def context : Except Error Context := do
  let contracts ← d.contracts.mapM d.contractContext
  let models ← d.models.mapM d.modelContext
  let services ← d.services.mapM d.serviceContext
  return { name := d.name, nameSpace := d.nameSpace, options := d.options
           enums := d.enums.map d.enumContext, contracts, models, services
           extensions := d.extensions }

/-- A property context as a value. -/
def PropertyContext.toValue (p : PropertyContext) : Value :=
  .record [("name", .str p.name), ("type", p.type), ("rawType", .str p.rawType),
    ("contract", .optional p.contract), ("extensions", .object p.extensions)]

/-- A parameter context as a value. -/
def ParamContext.toValue (p : ParamContext) : Value :=
  .record [("name", .str p.name), ("type", p.type), ("rawType", .str p.rawType)]

/-- A method context as a value. -/
def MethodContext.toValue (m : MethodContext) : Value :=
  .record [("name", .str m.name), ("returnType", m.returnType.getD .null),
    ("params", .list (m.params.map ParamContext.toValue)), ("extensions", .object m.extensions)]

/-- An enum context as a value. -/
def EnumContext.toValue (e : EnumContext) : Value :=
  .record [("name", .str e.name), ("values", .strings e.values),
    ("extensions", .object e.extensions)]

/-- A contract context as a value. -/
def ContractContext.toValue (c : ContractContext) : Value :=
  .record [("name", .str c.name),
    ("properties", .list (c.properties.map PropertyContext.toValue)),
    ("extensions", .object c.extensions)]

/-- A model context as a value. -/
def ModelContext.toValue (m : ModelContext) : Value :=
  .record [("name", .str m.name), ("abstract", .bool m.isAbstract),
    ("baseModel", .optional m.baseModel),
    ("contracts", .list (m.contracts.map ContractContext.toValue)),
    ("properties", .list (m.properties.map PropertyContext.toValue)),
    ("methods", .list (m.methods.map MethodContext.toValue)), ("extensions", .object m.extensions)]

/-- A service context as a value. -/
def ServiceContext.toValue (s : ServiceContext) : Value :=
  .record [("name", .str s.name), ("methods", .list (s.methods.map MethodContext.toValue)),
    ("extensions", .object s.extensions)]

/-- A definition context as a value. -/
def Context.toValue (c : Context) : Value :=
  .record [("name", .str c.name), ("namespace", .optional c.nameSpace),
    ("options", .object c.options), ("enums", .list (c.enums.map EnumContext.toValue)),
    ("contracts", .list (c.contracts.map ContractContext.toValue)),
    ("models", .list (c.models.map ModelContext.toValue)),
    ("services", .list (c.services.map ServiceContext.toValue)),
    ("extensions", .object c.extensions)]

/-- The context of a definition as a value. -/
def contextValue : Except Error Value := do return (← d.context).toValue

end Stencil.Definition
