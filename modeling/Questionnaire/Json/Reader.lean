/-
**Reading JSON.**

A text that keeps to the grammar still has no value when a numeral is too large for a number of
double precision, when a string has an unpaired surrogate, or when its containers nest too deeply.
Of several members with one key the last one counts.

Main definitions:

* `Questionnaire.Json.Literal.toNumber` — the number of double precision that a numeral is read as;
* `Questionnaire.Json.ReadError` — why a text has no value;
* `Questionnaire.Json.Tree.toJson` — the document of a tree;
* `Questionnaire.Json.ofText` — the document of a text.
-/

import Questionnaire.Json.Tree
import Questionnaire.Number.Scaled

set_option autoImplicit false

namespace Questionnaire

/-- The number of double precision that a numeral is read as.  Of the digits that are left out,
those before the point count as zeros and those behind it count for nothing. -/
def Json.Literal.toNumber (literal : Json.Literal) : Number :=
  let (word, zeros) := Number.takeDigits 0 literal.before
  let (word, ignored) := Number.takeDigits word literal.behind
  let places : Int := (literal.behind.length : Int) - ignored
  Number.scaled literal.negative word (literal.power + zeros - places)

/-- The number of a document that a numeral writes: an integer if it is written as one and fits 64
bits, and a number of double precision if not.  A minus in front of a zero needs the latter. -/
def JsonNumber.ofLiteral? (literal : Json.Literal) : Option JsonNumber :=
  let size : Int := Numeral.natOfDigits literal.before
  let n : Int := if literal.negative then -size else size
  let exact :=
    if literal.isWhole && !(literal.negative && n == 0) then JsonNumber.ofInt? n else none
  exact.or (JsonNumber.ofNumber? literal.toNumber)

namespace Json

/-- Why a text has no value. -/
inductive ReadError where
  | grammar
  | outOfRange
  | unpairedSurrogate
  | tooDeep
  deriving DecidableEq

/-- What is wrong with the text, in words. -/
def ReadError.message : ReadError → String
  | .grammar => "the text does not keep to the grammar"
  | .outOfRange => "number out of range"
  | .unpairedSurrogate => "a string has an unpaired surrogate"
  | .tooDeep => "recursion limit exceeded"

namespace Tree

mutual

/-- The document of a tree whose containers may nest `depth` deep. -/
def toJson (depth : Nat) : Tree → Except ReadError Json
  | .null => .ok .null
  | .bool b => .ok (.bool b)
  | .number literal =>
    match JsonNumber.ofLiteral? literal with
    | some n => .ok (.number n)
    | none => .error .outOfRange
  | .string (some s) => .ok (.string s)
  | .string none => .error .unpairedSurrogate
  | .array items =>
    if depth = 0 then .error .tooDeep else (toItems (depth - 1) items).map Json.array
  | .object members =>
    if depth = 0 then .error .tooDeep
    else (toMembers (depth - 1) members).map fun entries => .object (Keyed.ofList entries)

/-- The documents of the items of an array. -/
def toItems (depth : Nat) : List Tree → Except ReadError (List Json)
  | [] => .ok []
  | item :: items => do
    let item ← toJson depth item
    let items ← toItems depth items
    return item :: items

/-- The documents of the members of an object. -/
def toMembers (depth : Nat) :
    List (Option String × Tree) → Except ReadError (List (String × Json))
  | [] => .ok []
  | (some key, value) :: members => do
    let value ← toJson depth value
    let members ← toMembers depth members
    return (key, value) :: members
  | (none, _) :: _ => .error .unpairedSurrogate

end

end Tree

/-- How deep the containers of a document may nest. -/
def maxDepth : Nat := 127

/-- The document of a text whose containers may nest `depth` deep. -/
def ofTextWithin (depth : Nat) (text : String) : Except ReadError Json :=
  match Tree.ofText? text with
  | some tree => tree.toJson depth
  | none => .error .grammar

/-- The document of a text. -/
def ofText (text : String) : Except ReadError Json := ofTextWithin maxDepth text

end Json

end Questionnaire
