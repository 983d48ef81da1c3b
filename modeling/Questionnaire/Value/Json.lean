/-
**Values as JSON.**

In plain form a value is the document that looks like it, and what JSON cannot write, the infinite
numbers and not-a-number, is null.  In tagged form every value is wrapped in the name of its kind,
so that a stored value is read back as what it was.

Main definitions:

* `Questionnaire.Value.toJson`, `Questionnaire.Value.ofJson` — plain form, both ways;
* `Questionnaire.Value.toTagged`, `Questionnaire.Value.ofTagged?` — tagged form, both ways.
-/

import Questionnaire.Value
import Questionnaire.Json.Basic

set_option autoImplicit false

namespace Questionnaire

namespace Value

mutual

/-- The plain form of a value. -/
def toJson : Value → Json
  | .null => .null
  | .bool b => .bool b
  | .number x => .ofNumber x
  | .text s => .string s
  | .list items => .array (toItems items)
  | .record entries => .object (toMembers entries)

/-- The plain forms of items. -/
def toItems : List Value → List Json
  | [] => []
  | item :: items => toJson item :: toItems items

/-- The plain forms of entries. -/
def toMembers : List (String × Value) → List (String × Json)
  | [] => []
  | (key, value) :: entries => (key, toJson value) :: toMembers entries

end

mutual

/-- The value that a document is the plain form of.  Every number becomes one of double
precision. -/
def ofJson : Json → Value
  | .null => .null
  | .bool b => .bool b
  | .number n => .number n.toNumber
  | .string s => .text s
  | .array items => .list (ofItems items)
  | .object members => .record (ofMembers members)

/-- The values of items. -/
def ofItems : List Json → List Value
  | [] => []
  | item :: items => ofJson item :: ofItems items

/-- The values of members. -/
def ofMembers : List (String × Json) → List (String × Value)
  | [] => []
  | (key, value) :: members => (key, ofJson value) :: ofMembers members

end

mutual

/-- The tagged form of a value. -/
def toTagged : Value → Json
  | .null => .string "Null"
  | .bool b => .object [("Bool", .bool b)]
  | .number x => .object [("Number", .ofNumber x)]
  | .text s => .object [("Text", .string s)]
  | .list items => .object [("List", .array (toTaggedItems items))]
  | .record entries => .object [("Record", .object (toTaggedMembers entries))]

/-- The tagged forms of items. -/
def toTaggedItems : List Value → List Json
  | [] => []
  | item :: items => toTagged item :: toTaggedItems items

/-- The tagged forms of entries. -/
def toTaggedMembers : List (String × Value) → List (String × Json)
  | [] => []
  | (key, value) :: entries => (key, toTagged value) :: toTaggedMembers entries

end

mutual

/-- The value of a tagged form.  A form has exactly one tag, and what stands under a tag must be
of its kind; null may also be written with null under its tag. -/
def ofTagged? : Json → Option Value
  | .string tag => if tag = "Null" then some .null else none
  | .object [(tag, content)] =>
    match content with
    | .null => if tag = "Null" then some .null else none
    | .bool b => if tag = "Bool" then some (.bool b) else none
    | .number n => if tag = "Number" then some (.number n.toNumber) else none
    | .string s => if tag = "Text" then some (.text s) else none
    | .array items => if tag = "List" then (ofTaggedItems? items).map Value.list else none
    | .object members =>
      if tag = "Record" then (ofTaggedMembers? members).map Value.record else none
  | _ => none

/-- The values of tagged items. -/
def ofTaggedItems? : List Json → Option (List Value)
  | [] => some []
  | item :: items =>
    match ofTagged? item, ofTaggedItems? items with
    | some item, some items => some (item :: items)
    | _, _ => none

/-- The values of tagged members. -/
def ofTaggedMembers? : List (String × Json) → Option (List (String × Value))
  | [] => some []
  | (key, value) :: members =>
    match ofTagged? value, ofTaggedMembers? members with
    | some value, some members => some ((key, value) :: members)
    | _, _ => none

end

end Value

end Questionnaire
