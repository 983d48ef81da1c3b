/-
**JSON documents.**

A document keeps the numbers that are written as integers of 64 bits apart from all others: an id
`5` and an id `5.0` are different texts, and only an integer can be a count.

Main definitions:

* `Questionnaire.JsonNumber` — a number of a document;
* `Questionnaire.Json` — a document;
* `Questionnaire.Json.Shape` — which of the six shapes a document has, as messages name it.
-/

import Questionnaire.Keyed
import Questionnaire.Number.Written

set_option autoImplicit false

namespace Questionnaire

/-- A number of a JSON document: an integer that fits 64 bits, signed or not, or any other finite
number. -/
inductive JsonNumber where
  | integer (n : Int) (inRange : -9223372036854775808 ≤ n ∧ n ≤ 18446744073709551615)
  | real (x : Number) (finite : x.isFinite = true)
  deriving DecidableEq

namespace JsonNumber

/-- The integer as a number of a document, if it fits 64 bits. -/
def ofInt? (n : Int) : Option JsonNumber :=
  if h : -9223372036854775808 ≤ n ∧ n ≤ 18446744073709551615 then some (.integer n h) else none

/-- The number as a number of a document, if it is finite. -/
def ofNumber? (x : Number) : Option JsonNumber :=
  if h : x.isFinite = true then some (.real x h) else none

/-- The number that a number of a document stands for. -/
def toNumber : JsonNumber → Number
  | .integer n _ => Number.ofInt n
  | .real x _ => x

/-- The natural that is written, if it is written as an integer. -/
def toNat? : JsonNumber → Option Nat
  | .integer n _ => if 0 ≤ n then some n.toNat else none
  | .real _ _ => none

/-- The number as a document writes it. -/
def text : JsonNumber → String
  | .integer n _ => toString n
  | .real x _ => x.toJsonText

end JsonNumber

/-- A JSON document.  The members of an object stand in the order in which they are written out;
a document that was read has them in the order of their keys, each key once. -/
inductive Json where
  | null
  | bool (b : Bool)
  | number (n : JsonNumber)
  | string (s : String)
  | array (items : List Json)
  | object (members : List (String × Json))

namespace Json

instance : Inhabited Json := ⟨.null⟩

/-- The shapes of documents. -/
inductive Shape where
  | null
  | boolean
  | number
  | string
  | array
  | object
  deriving DecidableEq

/-- The shape of a document. -/
def shape : Json → Shape
  | .null => .null
  | .bool _ => .boolean
  | .number _ => .number
  | .string _ => .string
  | .array _ => .array
  | .object _ => .object

/-- A shape with its article. -/
def Shape.name : Shape → String
  | .null => "null"
  | .boolean => "a boolean"
  | .number => "a number"
  | .string => "a string"
  | .array => "an array"
  | .object => "an object"

/-- The text of a document that is a string. -/
def string? : Json → Option String
  | .string s => some s
  | _ => none

/-- The truth value of a document that is one. -/
def bool? : Json → Option Bool
  | .bool b => some b
  | _ => none

/-- The number of a document that is one. -/
def number? : Json → Option JsonNumber
  | .number n => some n
  | _ => none

/-- A number as a document; only finite numbers have one of their own. -/
def ofNumber (x : Number) : Json :=
  match JsonNumber.ofNumber? x with
  | some n => .number n
  | none => .null

/-- A count as a document. -/
def ofNat (n : Nat) : Json :=
  match JsonNumber.ofInt? n with
  | some n => .number n
  | none => ofNumber (Number.ofNat n)

/-- A list of texts as a document. -/
def ofStrings (texts : List String) : Json := .array (texts.map Json.string)

end Json

end Questionnaire
