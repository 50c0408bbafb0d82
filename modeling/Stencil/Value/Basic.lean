/-! Free-form values: what options and extensions hold and what templates see.

An object is a list of fields in ascending order of their keys; whole numbers and floating-point
numbers are kept apart. -/

namespace Stencil

/-- A free-form value. -/
inductive Value where
  | null
  | bool (b : Bool)
  | int (n : Int)
  | float (x : Float)
  | str (s : String)
  | list (items : List Value)
  | object (fields : List (String × Value))
deriving Inhabited

/-- The fields of an object. -/
abbrev Fields := List (String × Value)

namespace Fields

/-- The value under a key. -/
def get? (m : Fields) (key : String) : Option Value := m.lookup key

/-- Puts a value under a key, in place of the one that is there. -/
def insert (m : Fields) (key : String) (value : Value) : Fields :=
  match m with
  | [] => [(key, value)]
  | (k, v) :: rest =>
    if key = k then (key, value) :: rest
    else if key < k then (key, value) :: (k, v) :: rest
    else (k, v) :: insert rest key value

/-- Fields of a list of pairs; of two pairs with one key the later counts. -/
def ofList (pairs : List (String × Value)) : Fields :=
  pairs.foldl (fun m p => m.insert p.1 p.2) []

/-- The fields of `base` overridden by those of `upper`: under each key of `upper` stands what
`upper.get?` has there. -/
def override (base upper : Fields) : Fields :=
  upper.foldr (fun p m => m.insert p.1 p.2) base

/-- Fields given level by level, outermost first: an inner level overrides the outer ones. -/
def layer (levels : List Fields) : Fields := levels.foldl override []

end Fields

namespace Value

/-- An object with the given fields. -/
def record (pairs : List (String × Value)) : Value := .object (Fields.ofList pairs)

/-- A text that may be absent; absence is null. -/
def optional : Option String → Value
  | none => .null
  | some s => .str s

/-- The text of a value that is a text. -/
def asText? : Value → Option String
  | .str s => some s
  | _ => none

/-- A list of texts. -/
def strings (items : List String) : Value := .list (items.map .str)

/-- The value under a key of an object. -/
def field? : Value → String → Option Value
  | .object fields, key => Fields.get? fields key
  | _, _ => none

mutual

/-- Whether two values are equal. Whole and floating-point numbers are never equal. -/
def beq : Value → Value → Bool
  | .null, .null => true
  | .bool a, .bool b => a == b
  | .int a, .int b => a == b
  | .float a, .float b => a == b
  | .str a, .str b => a == b
  | .list a, .list b => beqList a b
  | .object a, .object b => beqFields a b
  | _, _ => false

/-- Equality of lists of values. -/
def beqList : List Value → List Value → Bool
  | [], [] => true
  | a :: as, b :: bs => beq a b && beqList as bs
  | _, _ => false

/-- Equality of lists of fields. -/
def beqFields : List (String × Value) → List (String × Value) → Bool
  | [], [] => true
  | (k, a) :: as, (l, b) :: bs => k == l && beq a b && beqFields as bs
  | _, _ => false

end

instance : BEq Value := ⟨beq⟩

end Value

end Stencil
