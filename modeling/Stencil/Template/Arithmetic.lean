import Stencil.Decimal.Shortest
import Stencil.Template.Basic

/-! Operations on numbers in templates.

Two whole numbers of 64 bits give a whole number of 64 bits or no result; other numbers are taken
for floating-point ones. A quotient is whole if it has no fraction. -/

namespace Stencil.Template

/-- The number that a value is, as a floating-point number. -/
def number? : Value → Option Float
  | .int n => some (Float.ofInt n)
  | .float x => some x
  | _ => none

/-- Whether a whole number has 64 bits, one of which is its sign. -/
def isSigned (n : Int) : Bool := -0x8000000000000000 ≤ n && n < 0x8000000000000000

/-- Whether a whole number has 64 bits and no sign. -/
def isUnsigned (n : Int) : Bool := 0 ≤ n && n < 0x10000000000000000

/-- A floating-point result; none if it is no number or beyond all numbers. -/
def finite? (x : Float) : Option Value := if x.isFinite then some (.float x) else none

/-- The rest of a division of floating-point numbers, with the sign of the first. -/
def floatRest (x y : Float) : Float :=
  if !x.isFinite || y.isNaN || y == 0 then 0.0 / 0.0
  else if !y.isFinite then x
  else
    let a := Decimal.Binary.ofBits x.toBits.toNat
    let b := Decimal.Binary.ofBits y.toBits.toNat
    let unit := min a.power b.power
    let units (n : Decimal.Binary) : Nat := n.significand * Nat.pow 2 (n.power - unit).toNat
    let rest := Float.scaleB (Float.ofNat (units a % units b)) unit
    if x < 0 then -rest else rest

/-- A quotient. -/
def quotient? (x y : Float) : Option Value :=
  let q := x / y
  if q.isFinite && q.round == q then some (.int q.toInt64.toInt) else finite? q

/-- An operation on floating-point numbers. -/
def Arithmetic.onFloats (op : Arithmetic) (x y : Float) : Option Value :=
  match op with
  | .add => finite? (x + y)
  | .sub => finite? (x - y)
  | .mul => finite? (x * y)
  | .div => quotient? x y
  | .rem => finite? (floatRest x y)

/-- An operation on whole numbers; a quotient and a rest by zero have no result. -/
def Arithmetic.onInts (op : Arithmetic) (m n : Int) : Option Int :=
  match op with
  | .add => some (m + n)
  | .sub => some (m - n)
  | .mul => some (m * n)
  | .div => none
  | .rem => if n = 0 then none else some (m.tmod n)

/-- The result of an operation on two values. Outside there is none if the values are no numbers or
the result is too large; inside there is none if the result is no number. -/
def Arithmetic.apply (op : Arithmetic) (l r : Value) : Option (Option Value) := do
  let x ← number? l
  let y ← number? r
  match op, l, r with
  | .div, _, _ => return quotient? x y
  | _, .int m, .int n =>
    let fits : Option (Int → Bool) :=
      if isSigned m && isSigned n then some isSigned
      else if isUnsigned m && isUnsigned n then some isUnsigned
      else none
    match fits with
    | some fits =>
      let result ← op.onInts m n
      if fits result then return some (.int result) else failure
    | none => return op.onFloats x y
  | _, _, _ => return op.onFloats x y

end Stencil.Template
