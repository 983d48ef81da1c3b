/-
**Decimal numerals.**

A numeral is read in two steps: its characters give a sign, a string of digits and a power of ten,
and in free text these give the nearest number.  This module holds the pieces that the readers
share, and the reader for numbers in free text: an optional sign, digits with an optional point
among or beside them, an optional exponent, or one of the words for infinity and not-a-number in any
case.

Main definitions:

* `Questionnaire.Numeral` — sign, digits and power of ten;
* `Questionnaire.Numeral.value` — the number nearest to a numeral;
* `Questionnaire.Numeral.exponent?` — the exponent of a numeral, with its mark;
* `Questionnaire.Number.ofText?` — the number that a free text is, if it is one.
-/

import Questionnaire.Number.Rounding
import Questionnaire.Text.Blank

set_option autoImplicit false

namespace Questionnaire

/-- A decimal numeral: the number `digits * 10 ^ exponent` with a sign. -/
structure Numeral where
  negative : Bool
  digits : Nat
  exponent : Int
  deriving DecidableEq

namespace Numeral

/-- The number nearest to a numeral. -/
def value (n : Numeral) : Number := Number.ofDecimal n.negative n.digits n.exponent

/-- The natural that a string of decimal digits stands for. -/
def natOfDigits (ds : List Char) : Nat := ds.foldl (fun n d => 10 * n + (d.toNat - '0'.toNat)) 0

/-- The numeral with the given digits before and after its point. -/
def ofParts (negative : Bool) (whole fraction : List Char) (power : Int) : Numeral :=
  ⟨negative, natOfDigits (whole ++ fraction), power - fraction.length⟩

/-- Takes an exponent off the front of a text: a mark in either case, an optional sign and at
least one digit.  A text without the mark has the exponent zero. -/
def exponent? (cs : List Char) : Option (Int × List Char) :=
  let signed (negative : Bool) (cs : List Char) : Option (Int × List Char) :=
    match cs.span Char.isDigit with
    | ([], _) => none
    | (ds, rest) =>
      let n : Int := natOfDigits ds
      some (if negative then -n else n, rest)
  let marked (cs : List Char) : Option (Int × List Char) :=
    match cs with
    | '+' :: rest => signed false rest
    | '-' :: rest => signed true rest
    | _ => signed false cs
  match cs with
  | 'e' :: rest => marked rest
  | 'E' :: rest => marked rest
  | _ => some (0, cs)

/-- The digits after a point at the front of a text, and what follows them. -/
def fraction (cs : List Char) : List Char × List Char :=
  match cs with
  | '.' :: rest => rest.span Char.isDigit
  | _ => ([], cs)

end Numeral

namespace Number

/-- The number of an unsigned text: a word for infinity or not-a-number, or digits before or after
an optional point with an optional exponent. -/
def ofUnsigned? (negative : Bool) (cs : List Char) : Option Number :=
  let word := String.ofList (cs.map Char.toLower)
  if word = "inf" ∨ word = "infinity" then some (.infinite negative)
  else if word = "nan" then some .nan
  else
    let (whole, afterWhole) := cs.span Char.isDigit
    let (fraction, afterFraction) := Numeral.fraction afterWhole
    if whole.isEmpty && fraction.isEmpty then none
    else
      match Numeral.exponent? afterFraction with
      | some (power, []) => some (Numeral.ofParts negative whole fraction power).value
      | _ => none

/-- The number that a text is, if it is one.  The text may start with a sign. -/
def ofText? (s : String) : Option Number :=
  match s.toList with
  | '-' :: rest => ofUnsigned? true rest
  | '+' :: rest => ofUnsigned? false rest
  | cs => ofUnsigned? false cs

end Number

end Questionnaire
