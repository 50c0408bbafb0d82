import Stencil.Decimal.Reading
import Stencil.Value.Basic
import Stencil.Yaml.ScalarText

/-! What plain scalars stand for where any value may stand. -/

namespace Stencil.Yaml.Scalar

/-- Whether a plain scalar stands for null. -/
def isNull (text : String) : Bool := ["", "~", "null", "Null", "NULL"].contains text

/-- The truth value that a plain scalar stands for. -/
def bool? (text : String) : Option Bool :=
  if ["true", "True", "TRUE"].contains text then some true
  else if ["false", "False", "FALSE"].contains text then some false
  else none

/-- The number that digits of a base name; there must be at least one. -/
def digits? (base : Nat) (cs : List Char) : Option Nat := do
  let digits ← cs.mapM Text.hexValue?
  if !digits.isEmpty && digits.all (· < base) then
    some (digits.foldl (fun n d => base * n + d) 0)
  else none

/-- The number that digits with a prefix for their base name. -/
def prefixed? : List Char → Option Nat
  | '0' :: 'x' :: rest => digits? 16 rest
  | '0' :: 'o' :: rest => digits? 8 rest
  | '0' :: 'b' :: rest => digits? 2 rest
  | _ => none

/-- Whether a text is a zero with further digits behind it; that is no number. -/
def isPadded (cs : List Char) : Bool :=
  match (Decimal.splitSign cs).2 with
  | '0' :: rest => !rest.isEmpty && rest.all Char.isDigit
  | _ => false

/-- The whole number of at most 128 bits that a plain scalar stands for. -/
def int? (cs : List Char) : Option Int :=
  let (negative, body) := Decimal.splitSign cs
  let decimal := if isPadded cs then none else digits? 10 body
  match (prefixed? body).or decimal with
  | some n =>
    if negative then (if n ≤ Nat.pow 2 127 then some (-(n : Int)) else none)
    else if n < Nat.pow 2 128 then some n
    else none
  | none => none

/-- Whether a plain scalar names an infinity or no number. -/
def isNonFinite (text : String) : Bool :=
  [".inf", ".Inf", ".INF", "+.inf", "+.Inf", "+.INF", "-.inf", "-.Inf", "-.INF",
    ".nan", ".NaN", ".NAN"].contains text

/-- Whether two signs stand in front of a text. -/
def hasTwoSigns : List Char → Bool
  | '+' :: c :: _ => c == '+' || c == '-'
  | _ => false

/-- The value that a plain scalar stands for. There is none for a whole number that needs more
than 64 bits; a number that is not finite is null. -/
def value? (text : String) : Option Value :=
  let cs := text.toList
  if isNull text then some .null
  else
    match bool? text with
    | some b => some (.bool b)
    | none =>
      match int? cs with
      | some n => if -0x8000000000000000 ≤ n ∧ n < 0x10000000000000000 then some (.int n) else none
      | none =>
        if isNonFinite text then some .null
        else if isPadded cs || hasTwoSigns cs then some (.str text)
        else
          match Decimal.float? cs with
          | some x => some (.float x)
          | none => some (.str text)

end Stencil.Yaml.Scalar
