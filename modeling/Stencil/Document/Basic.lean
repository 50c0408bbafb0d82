import Stencil.Value.Basic

/-! Documents that declare the enums, contracts, models and services of an interface.

Types are still the texts that were written; nothing is checked against anything else. -/

namespace Stencil

namespace Document

/-- A declared property. -/
structure Property where
  name : String := ""
  type : String := ""
  extensions : Fields := []

/-- A declared parameter. -/
structure Param where
  name : String := ""
  type : String := ""
deriving DecidableEq

/-- A declared method. -/
structure Method where
  name : String := ""
  returnType : Option String := none
  params : List Param := []
  extensions : Fields := []

/-- A declared enum. -/
structure Enum where
  name : String := ""
  values : List String := []
  extensions : Fields := []

/-- A declared contract: a bundle of properties that models include. -/
structure Contract where
  name : String := ""
  properties : List Property := []
  extensions : Fields := []

/-- A declared model. -/
structure Model where
  name : String := ""
  isAbstract : Bool := false
  baseModel : Option String := none
  properties : List Property := []
  methods : List Method := []
  contracts : List String := []
  extensions : Fields := []

/-- A declared service. -/
structure Service where
  name : String := ""
  methods : List Method := []
  extensions : Fields := []

end Document

/-- A whole document. -/
structure Document where
  nameSpace : Option String := none
  options : Fields := []
  enums : List Document.Enum := []
  contracts : List Document.Contract := []
  models : List Document.Model := []
  services : List Document.Service := []
  extensions : Fields := []

end Stencil
