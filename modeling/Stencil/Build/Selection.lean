import Stencil.Error
import Stencil.Text.Letter
import Stencil.Value.Basic

/-! Selecting a part of a value by a dotted path of keys and indices. -/

namespace Stencil.Value

/-- Whether a value is null. -/
def isNull : Value → Bool
  | .null => true
  | _ => false

/-- The index below `2 ^ 64` that a segment names: digits, with an optional plus in front. -/
def index? (segment : List Char) : Option Nat :=
  let digits := if segment.head? == some '+' then segment.tail else segment
  if digits.isEmpty || !digits.all Char.isDigit then none
  else
    let n := digits.foldl (fun n c => 10 * n + (c.toNat - '0'.toNat)) 0
    if n < Nat.pow 2 64 then some n else none

/-- The part of a value that one segment selects: a field of an object or an item of a list. -/
def step? (v : Value) (segment : List Char) : Option Value :=
  match v with
  | .object fields => Fields.get? fields (.ofList segment)
  | .list items => (index? segment).bind (items[·]?)
  | _ => none

/-- The part of a value that a list of segments selects. -/
def follow? (v : Value) (segments : List (List Char)) : Option Value := segments.foldlM step? v

/-- The part of a value that a dotted path selects; the empty path selects the whole. Null counts
as absent. -/
def select? (root : Value) (path : String) : Option Value :=
  let cs := (Text.trim path).toList
  if cs.isEmpty then some root
  else (follow? root (cs.splitOn '.')).filter fun v => !v.isNull

/-- What an output of a definition is rendered for. -/
def resolve (definitionName : String) (definition : Value) : Option String → Except Error Value
  | none => .ok definition
  | some path =>
    match select? definition path with
    | some v => .ok v
    | none => .error (.contextNotFound path definitionName)

/-- The elements that are rendered one by one: the items of a list, or the value itself. -/
def elements : Value → List Value
  | .list items => items
  | v => [v]

end Stencil.Value
