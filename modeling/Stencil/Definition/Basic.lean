import Stencil.DataType

/-! Definitions: documents whose types are resolved and whose contracts are merged. -/

namespace Stencil

namespace Definition

/-- A property with its resolved type, and the contract that it was merged from, if any. -/
structure Property where
  name : String
  rawType : String
  dataType : DataType
  contract : Option String
  extensions : Fields

/-- A parameter with its resolved type. -/
structure Param where
  name : String
  rawType : String
  dataType : DataType

/-- A method with its resolved types. -/
structure Method where
  name : String
  returnType : Option DataType
  params : List Param
  extensions : Fields

/-- An enum and its values. -/
structure Enum where
  name : String
  values : List String
  extensions : Fields

/-- A contract with its resolved properties. -/
structure Contract where
  name : String
  properties : List Property
  extensions : Fields

/-- A model: its own properties, then those merged from its contracts. -/
structure Model where
  name : String
  isAbstract : Bool
  baseModel : Option String
  properties : List Property
  methods : List Method
  contracts : List String
  extensions : Fields

/-- A service with its resolved methods. -/
structure Service where
  name : String
  methods : List Method
  extensions : Fields

end Definition

/-- A whole definition. -/
structure Definition where
  name : String
  nameSpace : Option String
  options : Fields
  enums : List Definition.Enum
  contracts : List Definition.Contract
  models : List Definition.Model
  services : List Definition.Service
  extensions : Fields

namespace Definition

/-- The first property of a name. -/
def Model.property? (m : Model) (name : String) : Option Property :=
  m.properties.find? (·.name = name)

/-- The first method of a name. -/
def Model.method? (m : Model) (name : String) : Option Method := m.methods.find? (·.name = name)

/-- The first contract of a name in a list. -/
def Contract.find? (contracts : List Contract) (name : String) : Option Contract :=
  contracts.find? (·.name = name)

/-- The first enum of a name. -/
def enum? (d : Definition) (name : String) : Option Enum := d.enums.find? (·.name = name)

/-- The first contract of a name. -/
def contract? (d : Definition) (name : String) : Option Contract := Contract.find? d.contracts name

/-- The first model of a name. -/
def model? (d : Definition) (name : String) : Option Model := d.models.find? (·.name = name)

/-- The first service of a name. -/
def service? (d : Definition) (name : String) : Option Service :=
  d.services.find? (·.name = name)

/-- The base model of a model, if it declares one. -/
def baseModel (d : Definition) (m : Model) : Except Error (Option Model) :=
  match m.baseModel with
  | none => .ok none
  | some base =>
    match d.model? base with
    | some found => .ok (some found)
    | none => .error (.modelNotDefined base)

/-- The contracts of a list that a model names, in the order in which it names them. -/
def includedContracts (contracts : List Contract) (model : String) (names : List String) :
    Except Error (List Contract) :=
  names.mapM fun name =>
    match Contract.find? contracts name with
    | some found => .ok found
    | none => .error (.contractNotDefined name model)

/-- The contracts that a model includes. -/
def modelContracts (d : Definition) (m : Model) : Except Error (List Contract) :=
  includedContracts d.contracts m.name m.contracts

end Definition

end Stencil
