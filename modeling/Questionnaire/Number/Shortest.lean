/-
**The fewest digits that read back.**

Every real number between two bounds around a finite number is read as that number.  Among the
decimals between the bounds, the written one has the fewest digits and, of those, lies nearest.

A finite number is a whole count of units of `2 ^ (-1074)`, hence its size times `10 ^ 1074` is a
whole number: everything below is exact arithmetic on naturals scaled by that power.

Main definitions:

* `Questionnaire.Number.Readback` — the reals that are read as a given number;
* `Questionnaire.Number.candidate?` — the nearest decimal on a given grid that reads back;
* `Questionnaire.Number.shortest` — the digits of a number, with their power of ten.
-/

import Questionnaire.Number.Rounding

set_option autoImplicit false

namespace Questionnaire

namespace Number

/-- Which of two equally near decimals is taken. -/
inductive Tie where
  | toEven
  | up
  deriving DecidableEq

/-- The power that turns units into whole counts of `10 ^ (-1074)`. -/
def decimalScale : Nat := Nat.pow 5 1074

/-- The reals that are read as a given number: an interval, counted in quarters of a unit, which
contains its ends exactly when the number's last binary digit is zero. -/
structure Readback where
  low : Nat
  high : Nat
  closed : Bool

/-- The interval reaches half way to the neighbours.  The lower neighbour of a power of two is
only half as far away as the upper one. -/
def readback (units : Nat) : Readback :=
  let gap := 1 <<< (units.log2 - 52)
  let below := if 53 ≤ units.log2 ∧ units = 1 <<< units.log2 then gap else 2 * gap
  ⟨4 * units - below, 4 * units + 2 * gap, units / gap % 2 == 0⟩

/-- Whether a decimal, given as a count of `10 ^ (-1074)`, lies in the interval. -/
def Readback.contains (r : Readback) (decimal : Nat) : Bool :=
  if r.closed then
    decide (r.low * decimalScale ≤ 4 * decimal) && decide (4 * decimal ≤ r.high * decimalScale)
  else
    decide (r.low * decimalScale < 4 * decimal) && decide (4 * decimal < r.high * decimalScale)

/-- The decimal on the grid of the multiples of a step that is nearest to a number and reads back
as it.  Only the two neighbours of the number on the grid can be. -/
def candidate? (tie : Tie) (units step : Nat) : Option Nat :=
  let exact := units * decimalScale
  let lower := exact / step
  let reads (c : Nat) := (readback units).contains (c * step)
  match reads lower, reads (lower + 1) with
  | false, false => none
  | true, false => some lower
  | false, true => some (lower + 1)
  | true, true =>
    let rest := 2 * (exact % step)
    if rest < step then some lower
    else if step < rest then some (lower + 1)
    else match tie with
      | .up => some (lower + 1)
      | .toEven => some (lower + lower % 2)

/-- Moves the zeros at the end of a coefficient into the power of ten. -/
def dropZeros : Nat → Nat → Int → Nat × Int
  | 0, coefficient, power => (coefficient, power)
  | fuel + 1, coefficient, power =>
    if coefficient % 10 = 0 then dropZeros fuel (coefficient / 10) (power + 1)
    else (coefficient, power)

/-- The coefficient and the power of ten of the shortest decimal that reads back as a positive
count of units; seventeen digits always suffice. -/
def shortest (tie : Tie) (units : Nat) : Nat × Int :=
  let exact := units * decimalScale
  let length := digitCount exact
  let found := (List.range 17).findSome? fun n =>
    let places := length - (n + 1)
    (candidate? tie units (Nat.pow 10 places)).map fun c => (c, (places : Int) - 1074)
  let (coefficient, power) := found.getD (exact, -1074)
  dropZeros (digitCount coefficient) coefficient power

end Number

end Questionnaire
