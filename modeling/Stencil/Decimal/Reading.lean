/-! Decimal texts as floating-point numbers: digits with an optional point and an optional
exponent, rounded to the nearest number. -/

namespace Stencil.Decimal

/-- The number that a row of decimal digits names. -/
def natOfDigits (cs : List Char) : Nat := cs.foldl (fun n c => 10 * n + (c.toNat - '0'.toNat)) 0

/-- The floating-point number nearest to `digits * 10 ^ exponent`; none if that is beyond the
largest one. -/
def nearest? (digits : Nat) (exponent : Int) : Option Float :=
  let lead := ((toString digits).length : Int) + exponent
  if digits = 0 || lead < -400 then some 0
  else if lead > 400 then none
  else
    let x := Float.ofScientific digits (exponent < 0) exponent.natAbs
    if x.isFinite then some x else none

/-- Splits off a sign and tells whether it is negative. -/
def splitSign : List Char → Bool × List Char
  | '-' :: rest => (true, rest)
  | '+' :: rest => (false, rest)
  | cs => (false, cs)

/-- Reads the exponent behind the digits: empty, or `e` with an optional sign and digits. -/
def exponent? : List Char → Option Int
  | [] => some 0
  | e :: cs =>
    let (negative, digits) := splitSign cs
    if (e == 'e' || e == 'E') && !digits.isEmpty && digits.all Char.isDigit then
      let n : Int := natOfDigits digits
      some (if negative then -n else n)
    else none

/-- Reads a finite floating-point number. -/
def float? (cs : List Char) : Option Float := do
  let (negative, cs) := splitSign cs
  let whole := cs.takeWhile Char.isDigit
  let cs := cs.dropWhile Char.isDigit
  let (fraction, cs) :=
    match cs with
    | '.' :: rest => (rest.takeWhile Char.isDigit, rest.dropWhile Char.isDigit)
    | _ => ([], cs)
  if whole.isEmpty && fraction.isEmpty then none
  else
    let x ← nearest? (natOfDigits (whole ++ fraction)) ((← exponent? cs) - fraction.length)
    return if negative then -x else x

end Stencil.Decimal
