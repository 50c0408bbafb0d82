/-! The fewest decimal digits that name a floating-point number.

A finite positive number is `m * 2 ^ q`. The reals that round to it form an interval around it; its
ends belong to it when `m` is even. The digits sought are the first that fall inside the interval
when the number is written with one, two, three … digits. -/

namespace Stencil.Decimal

/-- A positive decimal number `digits * 10 ^ exponent`. -/
structure Digits where
  digits : Nat
  exponent : Int
deriving DecidableEq, Repr

/-- A number given by its significand and its power of two. -/
structure Binary where
  significand : Nat
  power : Int
  /-- Whether the number below lies at half the distance of the number above. -/
  narrowBelow : Bool
deriving DecidableEq, Repr

/-- Significand and power of the magnitude of a finite number. -/
def Binary.ofBits (bits : Nat) : Binary :=
  let fraction : Nat := bits % Nat.pow 2 52
  let biased : Nat := bits / Nat.pow 2 52 % Nat.pow 2 11
  if biased = 0 then ⟨fraction, -1074, false⟩
  else ⟨Nat.pow 2 52 + fraction, (biased : Int) - 1075, fraction == 0 && biased > 1⟩

/-- `n * 2 ^ p * 10 ^ e` as a fraction. -/
def scaled (n : Nat) (p e : Int) : Nat × Nat :=
  (n * Nat.pow 2 p.toNat * Nat.pow 10 e.toNat, Nat.pow 2 (-p).toNat * Nat.pow 10 (-e).toNat)

/-- Whether `d` units of `10 ^ unit` round to the number. -/
def Binary.roundsTo (b : Binary) (d : Nat) (unit : Int) : Bool :=
  let (high, below) := scaled (4 * b.significand + 2) (b.power - 2) (-unit)
  let (low, _) := scaled (4 * b.significand - (if b.narrowBelow then 1 else 2)) (b.power - 2) (-unit)
  if b.significand % 2 = 0 then low ≤ d * below && d * below ≤ high
  else low < d * below && d * below < high

/-- The digits on the grid of `10 ^ unit` that round to the number: the nearer of its two
neighbours, and of two equally near ones the even one. -/
def Binary.onGrid? (b : Binary) (unit : Int) : Option Nat :=
  let (n, d) := scaled b.significand b.power (-unit)
  let floor := n / d
  let rest := 2 * (n % d)
  let nearest := if rest < d ∨ (rest = d ∧ floor % 2 = 0) then floor else floor + 1
  let other := if nearest = floor then floor + 1 else floor
  [nearest, other].find? (b.roundsTo · unit)

/-- The exponent of the leading digit of `n * 2 ^ p`, where `n` is positive. -/
def leadingExponent (n : Nat) (p : Int) : Int :=
  let (num, den) := scaled n p 0
  if den ≤ num then ((toString (num / den)).length : Int) - 1
  else
    let down : Nat := ((List.range 400).find? (fun j => den ≤ num * Nat.pow 10 j)).getD 0
    Int.neg down

/-- The fewest digits that read back as the number. -/
def Binary.shortest (b : Binary) : Digits :=
  let lead := leadingExponent b.significand b.power
  let grids := (List.range 17).map fun (n : Nat) => lead - n
  match grids.findSome? fun unit => (b.onGrid? unit).map fun d => Digits.mk d unit with
  | some d => d
  | none => ⟨0, 0⟩

/-- Moves the zeros at the end of the digits into the exponent. -/
def Digits.strip (d : Digits) : Digits :=
  let zeros := ((toString d.digits).toList.reverse.takeWhile (· == '0')).length
  if d.digits = 0 then ⟨0, 0⟩ else ⟨d.digits / Nat.pow 10 zeros, d.exponent + zeros⟩

/-- The fewest digits of the magnitude of a finite number. -/
def shortest (x : Float) : Digits :=
  let b := Binary.ofBits (x.toBits.toNat % Nat.pow 2 63)
  if b.significand = 0 then ⟨0, 0⟩ else b.shortest.strip

/-- Whether the sign of a number is negative; so it is for negative zero. -/
def isNegative (x : Float) : Bool := x.toBits.toNat / Nat.pow 2 63 == 1

end Stencil.Decimal
