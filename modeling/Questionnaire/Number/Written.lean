/-
**How numbers are written.**

Both written forms have the digits of `Number/Shortest.lean` and differ in their layout.  In JSON
form a number of ordinary size is written with a point and at least one digit behind it, any other
with an exponent.  In plain form there is never an exponent, and a whole number has no point.

Main definitions:

* `Questionnaire.Number.Layout` — where the two forms differ;
* `Questionnaire.Number.toJsonText`, `Questionnaire.Number.toPlainText` — the two forms.
-/

import Questionnaire.Number.Shortest

set_option autoImplicit false

namespace Questionnaire

namespace Number

/-- A layout for numbers.  `positional p` says whether a number is written without an exponent
when its point stands `p` places behind the start of its digits. -/
structure Layout where
  tie : Tie
  positional : Int → Bool
  wholeEnd : String

/-- Sizes from `10 ^ (-5)` up to `10 ^ 16` are written without an exponent, and a whole number
ends in a zero behind its point. -/
def Layout.json : Layout := ⟨.toEven, fun p => decide (-5 < p) && decide (p ≤ 16), ".0"⟩

/-- No size takes an exponent, and a whole number has no point. -/
def Layout.plain : Layout := ⟨.up, fun _ => true, ""⟩

/-- A text of zeros. -/
def zeros (n : Nat) : String := String.ofList (List.replicate n '0')

/-- Digits with a point `place` places behind their start. -/
def Layout.positionalText (layout : Layout) (digits : List Char) (place : Int) : String :=
  if place ≤ 0 then "0." ++ zeros (-place).toNat ++ String.ofList digits
  else if digits.length ≤ place.toNat then
    String.ofList digits ++ zeros (place.toNat - digits.length) ++ layout.wholeEnd
  else
    String.ofList (digits.take place.toNat) ++ "." ++ String.ofList (digits.drop place.toNat)

/-- Digits with a point behind the first one and an exponent, whose sign is always written. -/
def exponentText (digits : List Char) (power : Int) : String :=
  let significand :=
    match digits with
    | first :: second :: rest => String.ofList (first :: '.' :: second :: rest)
    | _ => String.ofList digits
  let sign := if power < 0 then "-" else "+"
  significand ++ "e" ++ sign ++ toString power.natAbs

/-- A positive count of units in a layout. -/
def Layout.unitsText (layout : Layout) (units : Nat) : String :=
  let (coefficient, power) := shortest layout.tie units
  let digits := Nat.toDigits 10 coefficient
  let place := digits.length + power
  if layout.positional place then layout.positionalText digits place
  else exponentText digits (place - 1)

/-- A number in a layout. -/
def Layout.text (layout : Layout) : Number → String
  | .nan => "NaN"
  | .infinite negative => if negative then "-inf" else "inf"
  | .finite negative units _ =>
    let sign := if negative then "-" else ""
    sign ++ if units = 0 then "0" ++ layout.wholeEnd else layout.unitsText units

/-- The JSON form of a number. -/
def toJsonText (x : Number) : String := Layout.json.text x

/-- The plain form of a number. -/
def toPlainText (x : Number) : String := Layout.plain.text x

end Number

end Questionnaire
