import Stencil.Document.Basic
import Stencil.Source

/-! Reading documents from trees of data.

Every field may be left out and fields of other names are passed over; a field that is there must
be of its kind. -/

namespace Stencil.Document

open Source

variable {σ : Type} [Source σ]

/-- Reads a property. -/
def Property.read? (s : σ) : Reading Property := do
  let es ← entries? ["name", "type", "extensions"] s
  return { name := ← field es "name" text? ""
           type := ← field es "type" text? ""
           extensions := ← field es "extensions" fields? [] }

/-- Reads a parameter. -/
def Param.read? (s : σ) : Reading Param := do
  let es ← entries? ["name", "type"] s
  return { name := ← field es "name" text? "", type := ← field es "type" text? "" }

/-- Reads a method. -/
def Method.read? (s : σ) : Reading Method := do
  let es ← entries? ["name", "returnType", "params", "extensions"] s
  return { name := ← field es "name" text? ""
           returnType := ← field es "returnType" optionalText? none
           params := ← field es "params" (list? Param.read?) []
           extensions := ← field es "extensions" fields? [] }

/-- Reads an enum. -/
def Enum.read? (s : σ) : Reading Enum := do
  let es ← entries? ["name", "values", "extensions"] s
  return { name := ← field es "name" text? ""
           values := ← field es "values" (list? text?) []
           extensions := ← field es "extensions" fields? [] }

/-- Reads a contract. -/
def Contract.read? (s : σ) : Reading Contract := do
  let es ← entries? ["name", "properties", "extensions"] s
  return { name := ← field es "name" text? ""
           properties := ← field es "properties" (list? Property.read?) []
           extensions := ← field es "extensions" fields? [] }

/-- Reads a model. -/
def Model.read? (s : σ) : Reading Model := do
  let es ← entries?
    ["name", "abstract", "baseModel", "properties", "methods", "contracts", "extensions"] s
  return { name := ← field es "name" text? ""
           isAbstract := ← field es "abstract" flag? false
           baseModel := ← field es "baseModel" optionalText? none
           properties := ← field es "properties" (list? Property.read?) []
           methods := ← field es "methods" (list? Method.read?) []
           contracts := ← field es "contracts" (list? text?) []
           extensions := ← field es "extensions" fields? [] }

/-- Reads a service. -/
def Service.read? (s : σ) : Reading Service := do
  let es ← entries? ["name", "methods", "extensions"] s
  return { name := ← field es "name" text? ""
           methods := ← field es "methods" (list? Method.read?) []
           extensions := ← field es "extensions" fields? [] }

/-- Reads a document. -/
def read? (s : σ) : Reading Document := do
  let es ← entries?
    ["namespace", "options", "enums", "contracts", "models", "services", "extensions"] s
  return { nameSpace := ← field es "namespace" optionalText? none
           options := ← field es "options" fields? []
           enums := ← field es "enums" (list? Enum.read?) []
           contracts := ← field es "contracts" (list? Contract.read?) []
           models := ← field es "models" (list? Model.read?) []
           services := ← field es "services" (list? Service.read?) []
           extensions := ← field es "extensions" fields? [] }

end Stencil.Document
