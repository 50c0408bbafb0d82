import Stencil.Document.Basic

/-! Documents as values: every field is written, under its external name. -/

namespace Stencil.Document

/-- A property as a value. -/
def Property.toValue (p : Property) : Value :=
  .record [("name", .str p.name), ("type", .str p.type), ("extensions", .object p.extensions)]

/-- A parameter as a value. -/
def Param.toValue (p : Param) : Value := .record [("name", .str p.name), ("type", .str p.type)]

/-- A method as a value. -/
def Method.toValue (m : Method) : Value :=
  .record [("name", .str m.name), ("returnType", .optional m.returnType),
    ("params", .list (m.params.map Param.toValue)), ("extensions", .object m.extensions)]

/-- An enum as a value. -/
def Enum.toValue (e : Enum) : Value :=
  .record [("name", .str e.name), ("values", .strings e.values),
    ("extensions", .object e.extensions)]

/-- A contract as a value. -/
def Contract.toValue (c : Contract) : Value :=
  .record [("name", .str c.name), ("properties", .list (c.properties.map Property.toValue)),
    ("extensions", .object c.extensions)]

/-- A model as a value. -/
def Model.toValue (m : Model) : Value :=
  .record [("name", .str m.name), ("abstract", .bool m.isAbstract),
    ("baseModel", .optional m.baseModel),
    ("properties", .list (m.properties.map Property.toValue)),
    ("methods", .list (m.methods.map Method.toValue)), ("contracts", .strings m.contracts),
    ("extensions", .object m.extensions)]

/-- A service as a value. -/
def Service.toValue (s : Service) : Value :=
  .record [("name", .str s.name), ("methods", .list (s.methods.map Method.toValue)),
    ("extensions", .object s.extensions)]

/-- A document as a value. -/
def toValue (d : Document) : Value :=
  .record [("namespace", .optional d.nameSpace), ("options", .object d.options),
    ("enums", .list (d.enums.map Enum.toValue)),
    ("contracts", .list (d.contracts.map Contract.toValue)),
    ("models", .list (d.models.map Model.toValue)),
    ("services", .list (d.services.map Service.toValue)), ("extensions", .object d.extensions)]

end Stencil.Document
