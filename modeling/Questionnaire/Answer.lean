/-
**Accepting answers.**

What a block accepts depends on its kind, and an accepted answer is not always stored as it was
given: a choice stores the value of the chosen option, a number the number that a text spells.

Main definitions:

* `Questionnaire.Rejection` — why an answer is not accepted;
* `Questionnaire.chosen?` — the option that an answer means;
* `Questionnaire.Kind.accept` — what an accepted answer stores.

Main results:

* `Questionnaire.mem_of_chosen?` — a chosen option is one of the options;
* `Questionnaire.Kind.accept_message` — a message accepts everything and stores nothing.
-/

import Questionnaire.Kind

set_option autoImplicit false

namespace Questionnaire

/-- Why an answer is not accepted. -/
inductive Rejection where
  | blank
  | notText (answer : Value)
  | tooLong (limit : Nat)
  | notANumber (answer : Value)
  | outOfRange (x : Number) (min max : Option Number)
  | noSuchOption (answer : Value)
  | notAList (answer : Value)
  | nothingSelected
  | tooManySelected (limit : Nat)
  | selectedTwice (id : String)
  | notYesOrNo (answer : Value)
  | noRecording
  | notAForm (answer : Value)
  | missingFields (ids : List String)
  | notAnEmail (text : String)
  | atFinalBlock
  | unknownKind (name : String)

/-- A bound of a range in words. -/
def renderBound (bound : Option Number) : String := (bound.map Value.renderNumber).getD "-"

/-- Why an answer is not accepted, in words. -/
def Rejection.message : Rejection → String
  | .blank => "answer must not be empty"
  | .notText answer => "expected text, got " ++ answer.render
  | .tooLong limit => s!"answer is longer than {limit} characters"
  | .notANumber answer => "expected a finite number, got " ++ answer.render
  | .outOfRange x min max =>
    let number := Value.renderNumber x
    s!"{number} is outside the allowed range [{renderBound min}, {renderBound max}]"
  | .noSuchOption answer => answer.render ++ " is not one of the block's options"
  | .notAList answer => "expected a list of options, got " ++ answer.render
  | .nothingSelected => "select at least one option"
  | .tooManySelected limit => s!"select at most {limit} options"
  | .selectedTwice id => s!"option '{id}' was selected twice"
  | .notYesOrNo answer => "expected yes or no, got " ++ answer.render
  | .noRecording => "expected a reference to the recorded response"
  | .notAForm answer => "expected an object of form fields, got " ++ answer.render
  | .missingFields ids => "missing required field(s): " ++ ", ".intercalate ids
  | .notAnEmail text => s!"'{text}' is not an email address"
  | .atFinalBlock => "a final block accepts no answer"
  | .unknownKind name => s!"block kind '{name}' cannot take answers"

/-! ### Texts and numbers -/

/-- The text of an answer that is one and is not blank. -/
def acceptText (answer : Value) : Except Rejection String :=
  match answer with
  | .text s => if isBlankText s then .error .blank else .ok s
  | _ => .error (.notText answer)

/-- The number of an answer that counts as one within a range. -/
def acceptNumber (min max : Option Number) (answer : Value) : Except Rejection Number :=
  match answer.numeric? with
  | none => .error (.notANumber answer)
  | some x =>
    if min.any x.less || max.any (·.less x) then .error (.outOfRange x min max) else .ok x

/-! ### Choices -/

/-- The option that an answer means: the first with that id anywhere in the list, or else the
first whose value the answer agrees with. -/
def chosen? (choices : List Choice) (answer : Value) : Option Choice :=
  (choices.find? fun choice => answer.text? == some choice.id).or
    (choices.find? fun choice => answer.agrees choice.value)

/-- The option that an answer must mean. -/
def acceptChoice (choices : List Choice) (answer : Value) : Except Rejection Choice :=
  match chosen? choices answer with
  | some choice => .ok choice
  | none => .error (.noSuchOption answer)

/-- The options that items mean, none of which may have an id that was selected before. -/
def acceptItems (choices : List Choice) (selected : List String) :
    List Value → Except Rejection (List Choice)
  | [] => .ok []
  | item :: items =>
    match acceptChoice choices item with
    | .error reason => .error reason
    | .ok choice =>
      if choice.id ∈ selected then .error (.selectedTwice choice.id)
      else (acceptItems choices (choice.id :: selected) items).map (choice :: ·)

/-- The options that a list of at least one item and within a limit selects. -/
def acceptSelection (choices : List Choice) (maxSelections : Option Nat) (answer : Value) :
    Except Rejection (List Choice) :=
  match answer with
  | .list [] => .error .nothingSelected
  | .list items =>
    match maxSelections.filter (· < items.length) with
    | some limit => .error (.tooManySelected limit)
    | none => acceptItems choices [] items
  | _ => .error (.notAList answer)

/-! ### Forms -/

/-- Whether an entry of a form counts as left out. -/
def isLeftOut : Option Value → Bool
  | none => true
  | some .null => true
  | some (.text s) => isBlankText s
  | some _ => false

/-- The ids of the required fields that a form leaves out. -/
def leftOutFields (fields : List FormField) (entries : Keyed Value) : List String :=
  (fields.filter fun field => field.required && isLeftOut (entries.get? field.id)).map
    FormField.id

/-- The entries of a record that has every required field. -/
def acceptForm (fields : List FormField) (answer : Value) :
    Except Rejection (List (String × Value)) :=
  match answer with
  | .record entries =>
    match leftOutFields fields entries with
    | [] => .ok entries
    | missing => .error (.missingFields missing)
  | _ => .error (.notAForm answer)

/-- The entries of a form of contacts, whose email must look like one if it is a text that is not
blank. -/
def acceptContact (fields : List FormField) (answer : Value) :
    Except Rejection (List (String × Value)) :=
  match acceptForm fields answer with
  | .error reason => .error reason
  | .ok entries =>
    match Keyed.get? entries "email" with
    | some (.text email) =>
      if !isBlankText email && !email.toList.contains '@' then .error (.notAnEmail email)
      else .ok entries
    | _ => .ok entries

/-! ### Kinds -/

namespace Kind

/-- **What an accepted answer stores**, if it stores anything. -/
def accept (kind : Kind) (answer : Value) : Except Rejection (Option Value) :=
  match kind with
  | .message => .ok none
  | .textInput maxLength =>
    match acceptText answer with
    | .error reason => .error reason
    | .ok s =>
      match maxLength.filter (· < s.length) with
      | some limit => .error (.tooLong limit)
      | none => .ok (some (.text s))
  | .numberInput min max => (acceptNumber min max answer).map fun x => some (.number x)
  | .singleChoice choices => (acceptChoice choices answer).map fun choice => some choice.value
  | .multiChoice choices maxSelections =>
    (acceptSelection choices maxSelections answer).map fun selected =>
      some (.list (selected.map Choice.value))
  | .scale choices => (acceptChoice choices answer).map fun choice => some choice.value
  | .yesNo =>
    match answer.truth? with
    | some b => .ok (some (.bool b))
    | none => .error (.notYesOrNo answer)
  | .video _ =>
    match acceptText answer with
    | .ok s => .ok (some (.text s))
    | .error _ => .error .noRecording
  | .contactForm fields => (acceptContact fields answer).map fun entries => some (.record entries)
  | .demographics fields => (acceptForm fields answer).map fun entries => some (.record entries)
  | .final => .error .atFinalBlock
  | .unrecognized name => .error (.unknownKind name)

/-- A message accepts everything and stores nothing. -/
@[simp] theorem accept_message (answer : Value) : Kind.message.accept answer = .ok none := rfl

/-- A final block accepts nothing. -/
@[simp] theorem accept_final (answer : Value) :
    Kind.final.accept answer = .error .atFinalBlock := rfl

end Kind

/-- **A chosen option is one of the options.** -/
theorem mem_of_chosen? {choices : List Choice} {answer : Value} {choice : Choice}
    (h : chosen? choices answer = some choice) : choice ∈ choices := by
  rw [chosen?, Option.or_eq_some_iff] at h
  rcases h with h | ⟨_, h⟩
  · exact List.mem_of_find?_eq_some h
  · exact List.mem_of_find?_eq_some h

end Questionnaire
