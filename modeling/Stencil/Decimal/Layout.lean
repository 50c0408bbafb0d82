import Stencil.Decimal.Shortest

/-! Floating-point numbers as text, in two layouts.

Rendered text writes every number positionally and drops an empty fraction; data text keeps the
fraction (`1.0`) and turns to an exponent for numbers from `10 ^ 16` on and below `10 ^ -5`. -/

namespace Stencil.Decimal

/-- How a number is laid out. -/
structure Layout where
  /-- Whether a whole number is written with an empty fraction, `1.0`. -/
  keepsFraction : Bool
  /-- Range of the count of digits before the point in which no exponent is written. -/
  positional : Option (Int × Int)

/-- Numbers in rendered text. -/
def rendered : Layout := ⟨false, none⟩

/-- Numbers in data text. -/
def data : Layout := ⟨true, some (-4, 16)⟩

/-- Digits with a point after the first `before` of them; zeros fill a gap on either side. -/
def withPoint (keepsFraction : Bool) (digits : List Char) (before : Int) : List Char :=
  if before ≤ 0 then '0' :: '.' :: (List.replicate (-before).toNat '0' ++ digits)
  else
    let n := before.toNat
    if digits.length ≤ n then
      digits ++ List.replicate (n - digits.length) '0' ++ (if keepsFraction then ['.', '0'] else [])
    else digits.take n ++ '.' :: digits.drop n

/-- Digits with a point after the first of them and an exponent, which has a sign. -/
def scientific (digits : List Char) (before : Int) : List Char :=
  let mantissa := if digits.length ≤ 1 then digits else digits.take 1 ++ '.' :: digits.drop 1
  let exponent := before - 1
  mantissa ++ 'e' :: (if exponent < 0 then '-' else '+') :: (toString exponent.natAbs).toList

/-- A finite number as text. -/
def Layout.format (layout : Layout) (x : Float) : String :=
  let d := shortest x
  let digits := (toString d.digits).toList
  let before := digits.length + d.exponent
  let isPositional := layout.positional.all fun r => r.1 ≤ before && before ≤ r.2
  let body :=
    if isPositional then withPoint layout.keepsFraction digits before else scientific digits before
  .ofList (if isNegative x then '-' :: body else body)

end Stencil.Decimal
