/-
**Reading blocks.**

A block is read as far as possible: its problems are collected in the order id, kind, transition,
attributes of the kind.  Ids may be written as texts or as numbers.

Main definitions:

* `Questionnaire.Document.Checked` — what was read, and the problems met on the way;
* `Questionnaire.Document.readKind` — a kind with its attributes;
* `Questionnaire.Document.readBlock` — a block.
-/

import Questionnaire.Document.Transition
import Questionnaire.Document.Vocabulary

set_option autoImplicit false

namespace Questionnaire

namespace Document

/-- Something that was read, with the problems that were met on the way. -/
structure Checked (α : Type) where
  value : α
  problems : List Problem

namespace Checked

variable {α β γ : Type}

/-- Applies a function to what was read. -/
def map (f : α → β) (c : Checked α) : Checked β := ⟨f c.value, c.problems⟩

/-- Joins two readings; the problems of the first come first. -/
def and (f : α → β → γ) (a : Checked α) (b : Checked β) : Checked γ :=
  ⟨f a.value b.value, a.problems ++ b.problems⟩

/-- Keeps what could be read of a list. -/
def ofList (results : List (Except Problem α)) : Checked (List α) :=
  ⟨results.filterMap fun result => result.toOption,
    results.filterMap fun
      | .ok _ => none
      | .error problem => some problem⟩

end Checked

/-- The members of a block. -/
abbrev Members := List (String × Json)

/-- The text of a member that is a string. -/
def text? (members : Members) (key : String) : Option String :=
  (Keyed.get? members key).bind Json.string?

/-- The id that a document is: a text that is not blank, or a number as it is written. -/
def idOf? : Json → Option String
  | .string s => if isBlankText s then none else some s
  | .number n => some n.text
  | _ => none

/-- The id under the member `id`. -/
def id? (members : Members) : Option String := (Keyed.get? members "id").bind idOf?

/-! ### Attributes -/

/-- Reads a number that may be absent or null. -/
def readNumber (members : Members) (key : String) : Checked (Option Number) :=
  match Keyed.get? members key with
  | none => ⟨none, []⟩
  | some .null => ⟨none, []⟩
  | some (.number n) => ⟨some n.toNumber, []⟩
  | some other => ⟨none, [.notANumber key other.shape]⟩

/-- Reads a count that may be absent or null, under the first of two keys that is present. -/
def readCount (members : Members) (key otherKey : String) : Checked (Option Nat) :=
  let found (key : String) := (Keyed.get? members key).map fun raw => (key, raw)
  match (found key).or (found otherKey) with
  | none => ⟨none, []⟩
  | some (_, .null) => ⟨none, []⟩
  | some (key, raw) =>
    match raw.number?.bind JsonNumber.toNat? with
    | some n => ⟨some n, []⟩
    | none => ⟨none, [.notACount key raw]⟩

/-- Reads an option.  A bare text is its own id, label and value; an object may leave out the
label and the value, which then are the id. -/
def readChoice (position : Nat) (raw : Json) : Except Problem Choice :=
  match raw with
  | .string s => .ok ⟨s, s, .text s⟩
  | .object members =>
    match id? members with
    | none => .error (.partWithoutId .option position)
    | some id =>
      let label := (text? members "label").getD id
      let value := ((Keyed.get? members "value").map Value.ofJson).getD (.text id)
      .ok ⟨id, label, value⟩
  | other => .error (.partOfWrongShape .option position other.shape)

/-- Reads a field.  A bare text is its own id and label; a field is required unless it says that
it is not. -/
def readField (position : Nat) (raw : Json) : Except Problem FormField :=
  match raw with
  | .string s => .ok ⟨s, s, true⟩
  | .object members =>
    match id? members with
    | none => .error (.partWithoutId .field position)
    | some id =>
      let label := (text? members "label").getD id
      let required := ((Keyed.get? members "required").bind Json.bool?).getD true
      .ok ⟨id, label, required⟩
  | other => .error (.partOfWrongShape .field position other.shape)

/-- Reads the parts of a list, each with its position. -/
def readParts {α : Type} (read : Nat → Json → Except Problem α) (raws : List Json) :
    Checked (List α) :=
  .ofList (raws.zipIdx.map fun (raw, position) => read position raw)

/-- Reads the options, which may be absent or null. -/
def readChoices (members : Members) : Checked (List Choice) :=
  match Keyed.get? members "options" with
  | none => ⟨[], []⟩
  | some .null => ⟨[], []⟩
  | some (.array raws) => readParts readChoice raws
  | some other => ⟨[], [.partsNotAnArray .option other.shape]⟩

/-- Reads the fields, which may be absent. -/
def readFields (members : Members) : Checked (List FormField) :=
  match Keyed.get? members "fields" with
  | none => ⟨[], []⟩
  | some (.array raws) => readParts readField raws
  | some other => ⟨[], [.partsNotAnArray .field other.shape]⟩

/-- Reads the attributes of a kind. -/
def readKind (members : Members) : KindName → Checked Kind
  | .message => ⟨.message, []⟩
  | .textInput => (readCount members "maxLength" "max_length").map .textInput
  | .numberInput => (readNumber members "min").and .numberInput (readNumber members "max")
  | .singleChoice => (readChoices members).map .singleChoice
  | .multiChoice =>
    (readChoices members).and .multiChoice (readCount members "maxSelections" "max_selections")
  | .scale => (readChoices members).map .scale
  | .yesNo => ⟨.yesNo, []⟩
  | .video =>
    let url := ((Keyed.get? members "url").or (Keyed.get? members "videoUrl")).bind Json.string?
    ⟨.video url, []⟩
  | .contactForm => (readFields members).map .contactForm
  | .demographics => (readFields members).map .demographics
  | .final => ⟨.final, []⟩

/-! ### Blocks -/

/-- Reads the transition of a block, which may be absent or null. -/
def readNext (members : Members) (blockVariable : Option String) : Checked (Option Transition) :=
  match Keyed.get? members "next" with
  | none => ⟨none, []⟩
  | some .null => ⟨none, []⟩
  | some raw =>
    match readTransition blockVariable raw with
    | .ok transition => ⟨some transition, []⟩
    | .error problem => ⟨none, [.transition problem]⟩

/-- Reads the kind of a block by its name, if it has one. -/
def readNamedKind (vocabulary : Vocabulary) (members : Members) (name : Option String) :
    Checked (Option Kind) :=
  match name with
  | none => ⟨none, []⟩
  | some name =>
    match vocabulary.kind? name with
    | some kind => (readKind members kind).map some
    | none => ⟨some (.unrecognized name), []⟩

/-- The name of a block's kind, under `kind` or else under `type`. -/
def kindName? (members : Members) : Option String :=
  ((Keyed.get? members "kind").or (Keyed.get? members "type")).bind Json.string?

/-- The variable of a block, without the blanks around it. -/
def blockVariable? (members : Members) : Option String :=
  ((text? members "variable").map trim).filter fun name => name ≠ ""

/-- The text that a block shows, under the first of four members that is a string. -/
def prompt? (members : Members) : Option String :=
  ["prompt", "content", "text", "question"].findSome? (text? members)

/-- What became of a block: the id by which its problems are reported, and either the block or its
problems. -/
structure BlockReading where
  id : Option String
  outcome : Except (List Problem) Block

/-- Reads a block. -/
def readBlock (vocabulary : Vocabulary) (raw : Json) : BlockReading :=
  match raw with
  | .object members =>
    let id := id? members
    let name := kindName? members
    let variableName := blockVariable? members
    let next := readNext members variableName
    let kind := readNamedKind vocabulary members name
    let missing :=
      (if id.isNone then [.missingId] else []) ++ (if name.isNone then [.missingKind] else [])
    match missing ++ next.problems ++ kind.problems, id, kind.value with
    | [], some id, some kind =>
      ⟨some id, .ok ⟨id, kind, prompt? members, variableName, next.value⟩⟩
    | problems, _, _ => ⟨id, .error problems⟩
  | other => ⟨none, .error [.notAnObject other.shape]⟩

end Document

end Questionnaire
