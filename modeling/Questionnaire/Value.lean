/-
**Values.**

A value is what a respondent answers, what a session stores under a variable and what a condition
compares with.  Texts are read generously: a text may count as the number or the truth value that
it spells.

Main definitions:

* `Questionnaire.Value` — null, truth values, numbers, texts, lists and records;
* `Questionnaire.Value.numeric?`, `Questionnaire.Value.truth?` — the number and the truth value
  that a value counts as;
* `Questionnaire.Value.alike` — equality, number by number;
* `Questionnaire.Value.agrees` — equality up to the spelling of numbers and truth values;
* `Questionnaire.Value.render` — the text of a value in messages.
-/

import Questionnaire.Keyed
import Questionnaire.Number.Numeral
import Questionnaire.Number.Written

set_option autoImplicit false

namespace Questionnaire

/-- A stored or compared value.  The entries of a record stand in the order of their keys. -/
inductive Value where
  | null
  | bool (b : Bool)
  | number (x : Number)
  | text (s : String)
  | list (items : List Value)
  | record (entries : List (String × Value))

/-- Values by the name of their variable. -/
abbrev Variables := Keyed Value

/-- The truth value that a text spells, in any case and between any blanks. -/
def truthOfText? (s : String) : Option Bool :=
  let word := (trim s).toLower
  if word = "true" ∨ word = "yes" then some true
  else if word = "false" ∨ word = "no" then some false
  else none

/-- The finite number that a text spells between any blanks. -/
def numberOfText? (s : String) : Option Number := (Number.ofText? (trim s)).filter Number.isFinite

namespace Value

instance : Inhabited Value := ⟨.null⟩

/-- The finite number that a value counts as. -/
def numeric? : Value → Option Number
  | .number x => if x.isFinite then some x else none
  | .text s => numberOfText? s
  | _ => none

/-- The truth value that a value counts as. -/
def truth? : Value → Option Bool
  | .bool b => some b
  | .text s => truthOfText? s
  | _ => none

/-- The text of a value that is one. -/
def text? : Value → Option String
  | .text s => some s
  | _ => none

/-- Whether a value is null. -/
def isNull : Value → Bool
  | .null => true
  | _ => false

/-- Whether a value is a list. -/
def isList : Value → Bool
  | .list _ => true
  | _ => false

/-! ### Equality -/

mutual

/-- Equality of values.  Numbers are compared as numbers, so a value that contains not-a-number
is not even equal to itself. -/
def alike : Value → Value → Bool
  | .null, .null => true
  | .bool a, .bool b => a == b
  | .number x, .number y => x.same y
  | .text s, .text t => s == t
  | .list xs, .list ys => alikeItems xs ys
  | .record xs, .record ys => alikeEntries xs ys
  | _, _ => false
termination_by structural value => value

/-- Equality of the items of two lists. -/
def alikeItems : List Value → List Value → Bool
  | [], [] => true
  | x :: xs, y :: ys => alike x y && alikeItems xs ys
  | _, _ => false
termination_by structural items => items

/-- Equality of the entries of two records. -/
def alikeEntries : List (String × Value) → List (String × Value) → Bool
  | [], [] => true
  | (k, x) :: xs, (l, y) :: ys => k == l && alike x y && alikeEntries xs ys
  | _, _ => false
termination_by structural entries => entries

end

/-- Whether two optional numbers are present and equal. -/
def sameNumber (x y : Option Number) : Bool :=
  match x, y with
  | some x, some y => x.same y
  | _, _ => false

/-- Whether a value agrees with an operand.  The value is first read as what the operand is: as a
number beside a number, as a truth value beside a truth value.  An operand that is a text is read as
what the value is, if that is a finite number or a truth value.  Lists and records agree only when
they are equal. -/
def agrees (value operand : Value) : Bool :=
  match operand with
  | .number x => sameNumber value.numeric? (some x)
  | .bool b => value.truth? == some b
  | .text t =>
    match value with
    | .text s => s == t
    | .number _ => sameNumber value.numeric? (Number.ofText? (trim t))
    | .bool b => truthOfText? t == some b
    | _ => false
  | .null => value.isNull
  | .list _ => alike value operand
  | .record _ => alike value operand

/-! ### Text -/

/-- The text of a number in messages: a whole number below `2 ^ 53` is written as an integer, so
that both zeros are `0`; any other number stands in plain form. -/
def renderNumber (x : Number) : String :=
  match x with
  | .finite negative units _ =>
    if units % Number.one = 0 ∧ units < Number.one <<< 53 then
      let n : Int := units / Number.one
      toString (if negative then -n else n)
    else x.toPlainText
  | _ => x.toPlainText

mutual

/-- The text of a value in messages.  Texts stand between quotes as they are. -/
def render : Value → String
  | .null => "null"
  | .bool b => if b then "true" else "false"
  | .number x => renderNumber x
  | .text s => "\"" ++ s ++ "\""
  | .list items => "[" ++ ", ".intercalate (renderItems items) ++ "]"
  | .record entries => "\x7b" ++ ", ".intercalate (renderEntries entries) ++ "\x7d"

/-- The texts of items. -/
def renderItems : List Value → List String
  | [] => []
  | item :: items => render item :: renderItems items

/-- The texts of entries. -/
def renderEntries : List (String × Value) → List String
  | [] => []
  | (key, value) :: entries => (key ++ ": " ++ render value) :: renderEntries entries

end

/-! ### Laws -/

@[simp] theorem agrees_null (value : Value) : value.agrees .null = value.isNull := rfl

@[simp] theorem agrees_bool (value : Value) (b : Bool) :
    value.agrees (.bool b) = (value.truth? == some b) := rfl

@[simp] theorem agrees_number (value : Value) (x : Number) :
    value.agrees (.number x) = sameNumber value.numeric? (some x) := rfl

@[simp] theorem agrees_text_text (s t : String) :
    (Value.text s).agrees (.text t) = (s == t) := rfl

end Value

end Questionnaire
