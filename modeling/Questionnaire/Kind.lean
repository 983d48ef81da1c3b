/-
**Kinds of blocks.**

A block shows something, asks for an answer or ends the survey.  What it shows, accepts or ends
with depends on its kind, which carries the attributes that only this kind has.

Main definitions:

* `Questionnaire.KindName` — the eleven kinds by name;
* `Questionnaire.Choice`, `Questionnaire.FormField`, `Questionnaire.Part` — the options of choices
  and the fields of forms;
* `Questionnaire.Kind` — a kind with its attributes;
* `Questionnaire.Kind.isQuestion`, `Questionnaire.Kind.choices?` — what a kind asks for.

Main result:

* `Questionnaire.KindName.ofText?_text` — every name is read back from its text.
-/

import Questionnaire.Value.Json

set_option autoImplicit false

namespace Questionnaire

/-- The kinds of blocks by name. -/
inductive KindName where
  | message
  | textInput
  | numberInput
  | singleChoice
  | multiChoice
  | scale
  | yesNo
  | video
  | contactForm
  | demographics
  | final
  deriving DecidableEq

namespace KindName

/-- All kinds, in the order in which they are listed. -/
def all : List KindName :=
  [.message, .textInput, .numberInput, .singleChoice, .multiChoice, .scale, .yesNo, .video,
    .contactForm, .demographics, .final]

/-- The name of a kind as documents write it. -/
def text : KindName → String
  | .message => "message"
  | .textInput => "text-input"
  | .numberInput => "number-input"
  | .singleChoice => "single-choice"
  | .multiChoice => "multi-choice"
  | .scale => "scale"
  | .yesNo => "yes-no"
  | .video => "video"
  | .contactForm => "contact-form"
  | .demographics => "demographics"
  | .final => "final"

/-- The kind whose name is exactly the given text. -/
def ofText? (name : String) : Option KindName := all.find? fun kind => kind.text == name

/-- **Every name is read back from its text.** -/
theorem ofText?_text (kind : KindName) : ofText? kind.text = some kind := by
  cases kind <;> decide +kernel

end KindName

/-- An option of a choice or a scale.  The value is what choosing the option stores. -/
structure Choice where
  id : String
  label : String
  value : Value

/-- A field of a form. -/
structure FormField where
  id : String
  label : String
  required : Bool

/-- The parts that a block may list. -/
inductive Part where
  | option
  | field
  deriving DecidableEq

/-- The word for one of the parts. -/
def Part.noun : Part → String
  | .option => "option"
  | .field => "field"

/-- A kind of block with its attributes.  A kind that is not known is kept by the name it was
given, so that a review can report it. -/
inductive Kind where
  | message
  | textInput (maxLength : Option Nat)
  | numberInput (min max : Option Number)
  | singleChoice (choices : List Choice)
  | multiChoice (choices : List Choice) (maxSelections : Option Nat)
  | scale (choices : List Choice)
  | yesNo
  | video (url : Option String)
  | contactForm (fields : List FormField)
  | demographics (fields : List FormField)
  | final
  | unrecognized (name : String)

namespace Kind

/-- The name of a kind that is known. -/
def kindName? : Kind → Option KindName
  | .message => some .message
  | .textInput _ => some .textInput
  | .numberInput _ _ => some .numberInput
  | .singleChoice _ => some .singleChoice
  | .multiChoice _ _ => some .multiChoice
  | .scale _ => some .scale
  | .yesNo => some .yesNo
  | .video _ => some .video
  | .contactForm _ => some .contactForm
  | .demographics _ => some .demographics
  | .final => some .final
  | .unrecognized _ => none

/-- The name of a kind in messages. -/
def name (kind : Kind) : String :=
  match kind with
  | .unrecognized name => name
  | _ => (kind.kindName?.map KindName.text).getD ""

/-- Whether a kind collects an answer under a variable. -/
def isQuestion : Kind → Bool
  | .message => false
  | .final => false
  | .unrecognized _ => false
  | _ => true

/-- Whether a kind ends the survey. -/
def isFinal : Kind → Bool
  | .final => true
  | _ => false

/-- The options of the kinds that must have some. -/
def choices? : Kind → Option (List Choice)
  | .singleChoice choices => some choices
  | .multiChoice choices _ => some choices
  | .scale choices => some choices
  | _ => none

/-- The fields of the kinds that are forms. -/
def fields? : Kind → Option (List FormField)
  | .contactForm fields => some fields
  | .demographics fields => some fields
  | _ => none

end Kind

end Questionnaire
