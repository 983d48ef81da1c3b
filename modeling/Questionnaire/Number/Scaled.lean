/-
**Digits scaled in double precision.**

A numeral of a document is not brought to the number nearest to it.  Its digits are taken into a
word of 64 bits as long as they fit, the word becomes a number, and that is multiplied or divided by
powers of ten which are numbers of double precision themselves.  Each of these steps rounds, so a
numeral with many digits or a large power may come out as a neighbour of the nearest number.

Main definitions:

* `Questionnaire.Number.takeDigits` — digits taken into a word, and how many are left out;
* `Questionnaire.Number.tenPower` — a power of ten in double precision;
* `Questionnaire.Number.scaled` — a word times a power of ten, step by step.
-/

import Questionnaire.Number.Rounding

set_option autoImplicit false

namespace Questionnaire

namespace Number

/-- The greatest word of 64 bits. -/
def maxWord : Nat := 18446744073709551615

/-- Takes decimal digits into a word as long as they fit.  What comes back is the word and how many
digits are left out. -/
def takeDigits (word : Nat) : List Char → Nat × Nat
  | [] => (word, 0)
  | d :: ds =>
    let next := 10 * word + (d.toNat - '0'.toNat)
    if next ≤ maxWord then takeDigits next ds else (word, ds.length + 1)

/-- The greatest power of ten that is a finite number. -/
def maxTenPower : Nat := 308

/-- A power of ten in double precision, as a count of units. -/
def tenPower (power : Nat) : Nat := roundUnits (Nat.pow 10 power * one) 1

/-- A count of units divided by a power of ten.  A power that is too large is taken in several
steps, until nothing is left. -/
def scaledDown (negative : Bool) (units power : Nat) : Number :=
  if power ≤ maxTenPower then nearest negative (units * one) (tenPower power)
  else if units = 0 then zero negative
  else scaledDown negative (roundUnits (units * one) (tenPower maxTenPower)) (power - maxTenPower)
termination_by power
decreasing_by
  have hpositive : 0 < maxTenPower := by decide
  omega

/-- **A word times a power of ten**, both brought to double precision first.  Beyond the greatest
power of ten there is nothing but infinity and zero. -/
def scaled (negative : Bool) (word : Nat) (exponent : Int) : Number :=
  let units := roundUnits (word * one) 1
  if exponent < 0 then scaledDown negative units exponent.natAbs
  else if exponent ≤ maxTenPower then nearest negative (units * tenPower exponent.natAbs) one
  else if word = 0 then zero negative
  else .infinite negative

end Number

end Questionnaire
