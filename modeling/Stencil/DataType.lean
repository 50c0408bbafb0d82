import Stencil.Error
import Stencil.Text.Letter
import Stencil.Value.Basic

/-! Types of properties, parameters and results.

A type is written as a primitive keyword in any ASCII case, as the name of a declared enum or model,
or as `list:` before an item type; one trailing `?` makes it nullable. -/

namespace Stencil

/-- The built-in types. -/
inductive Primitive where
  | string
  | boolean
  | integer
  | float
  | double
  | byte
  | any
deriving DecidableEq, Repr

namespace Primitive

/-- The name of a built-in type. -/
def name : Primitive → String
  | .string => "string"
  | .boolean => "boolean"
  | .integer => "integer"
  | .float => "float"
  | .double => "double"
  | .byte => "byte"
  | .any => "any"

/-- Keywords, in lower case, with their short forms. -/
def keywords : List (String × Primitive) :=
  [("string", .string), ("str", .string), ("boolean", .boolean), ("bool", .boolean),
   ("integer", .integer), ("int", .integer), ("float", .float), ("single", .float),
   ("double", .double), ("byte", .byte), ("any", .any)]

/-- The built-in type that a keyword in any ASCII case names. -/
def ofKeyword? (word : List Char) : Option Primitive :=
  keywords.lookup (.ofList (word.map Char.toLower))

end Primitive

/-- A resolved type; every layer may be nullable. -/
inductive DataType where
  | primitive (kind : Primitive) (nullable : Bool)
  | enum (name : String) (nullable : Bool)
  | model (name : String) (nullable : Bool)
  | list (item : DataType) (nullable : Bool)
deriving DecidableEq, Repr

/-- The names that a type may refer to. -/
structure KnownNames where
  enums : List String
  models : List String

namespace DataType

/-- Whether null is a value of the type. -/
def nullable : DataType → Bool
  | .primitive _ n | .enum _ n | .model _ n | .list _ n => n

/-- The name of the kind of a type. -/
def kindName : DataType → String
  | .primitive kind _ => kind.name
  | .enum .. => "enum"
  | .model .. => "model"
  | .list .. => "list"

/-- The description of a type that templates see. -/
def descriptor : DataType → Value
  | .primitive kind n => .record [("dataType", .str kind.name), ("nullable", .bool n)]
  | .enum name n =>
    .record [("dataType", .str "enum"), ("nullable", .bool n), ("enumName", .str name)]
  | .model name n =>
    .record [("dataType", .str "model"), ("nullable", .bool n), ("modelName", .str name)]
  | .list item n =>
    .record [("dataType", .str "list"), ("nullable", .bool n), ("itemType", item.descriptor)]

/-- The text without one question mark at its end, and whether it had one. -/
def stripMark (cs : List Char) : List Char × Bool :=
  if cs.getLast? = some '?' then (cs.dropLast, true) else (cs, false)

/-- The item type written after `list:`. -/
def itemText? : List Char → Option (List Char)
  | 'l' :: 'i' :: 's' :: 't' :: ':' :: rest => some rest
  | _ => none

theorem length_stripMark_le (cs : List Char) : (stripMark cs).1.length ≤ cs.length := by
  unfold stripMark
  split <;> simp

theorem length_lt_of_itemText? {cs item : List Char} (h : itemText? cs = some item) :
    item.length < cs.length := by
  unfold itemText? at h
  split at h
  · cases h; simp; omega
  · simp at h

/-- The type that a text without surrounding blanks names, if it names one. A keyword comes before
an enum, an enum before a model and a model before a list. -/
def resolve? (known : KnownNames) (cs : List Char) : Option DataType :=
  let name := (stripMark cs).1
  let nullable := (stripMark cs).2
  match Primitive.ofKeyword? name with
  | some kind => some (.primitive kind nullable)
  | none =>
    if String.ofList name ∈ known.enums then some (.enum (.ofList name) nullable)
    else if String.ofList name ∈ known.models then some (.model (.ofList name) nullable)
    else
      match h : itemText? (stripMark cs).1 with
      | some item =>
        have := Nat.lt_of_lt_of_le (length_lt_of_itemText? h) (length_stripMark_le cs)
        (resolve? known item).map (.list · nullable)
      | none => none
termination_by cs.length

/-- The type that a text names. -/
def parse (known : KnownNames) (raw : String) : Except Error DataType :=
  match resolve? known (Text.trim raw).toList with
  | some type => .ok type
  | none => .error (.unsupportedType raw)

end DataType

end Stencil
