/-! Sets of code points given by evenly spaced runs, and shifts of such runs.

A property table is a list of strides; a case table is a list of shifted strides. -/

namespace Stencil.Text

/-- The code points `first, first + step, …` up to `last`. -/
structure Stride where
  first : Nat
  last : Nat
  step : Nat
deriving DecidableEq, Repr

/-- Whether a code point lies on the stride. -/
def Stride.contains (s : Stride) (n : Nat) : Bool :=
  s.first ≤ n && n ≤ s.last && (n - s.first) % s.step == 0

/-- Whether a character lies on one of the strides. -/
def onStride (table : List Stride) (c : Char) : Bool := table.any (·.contains c.toNat)

/-- A stride whose code points all move by the same distance. -/
structure Shift where
  source : Stride
  distance : Int
deriving DecidableEq, Repr

/-- The character that a table of shifts moves `c` to, if it moves it. -/
def shift? (table : List Shift) (c : Char) : Option Char :=
  (table.find? (·.source.contains c.toNat)).map fun s => Char.ofNat ((c.toNat : Int) + s.distance).toNat

end Stencil.Text
