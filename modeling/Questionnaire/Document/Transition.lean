/-
**Reading transitions.**

A transition is the id of a block, or an object with the last target under `else` and the rules
under `if`.  A rule has its target under `goto` and its condition under `when`; a condition that
names no variable is about the variable of its block.

Main definitions:

* `Questionnaire.Document.readCondition`, `Questionnaire.Document.readRule`,
  `Questionnaire.Document.readTransition` — the readers.
-/

import Questionnaire.Document.Problem
import Questionnaire.Text.Blank

set_option autoImplicit false

namespace Questionnaire

namespace Document

/-- The text of a member that is a string and not blank. -/
def visibleText? (members : List (String × Json)) (key : String) : Option String :=
  ((Keyed.get? members key).bind Json.string?).filter fun s => !isBlankText s

/-- The operators of conditions, in the order in which messages list them. -/
def operators : List String := ["equals", "in", "gt", "lt"]

/-- Reads the operand of an operator. -/
def readPredicate (operator : String) (operand : Json) : Except RuleProblem Predicate :=
  if operator = "equals" then .ok (.equals (.ofJson operand))
  else if operator = "in" then
    match operand with
    | .array items => .ok (.oneOf (Value.ofItems items))
    | _ => .error (.setNotAnArray operand.shape)
  else
    match operand.number?.map JsonNumber.toNumber with
    | some bound => .ok (if operator = "gt" then .above bound else .below bound)
    | none => .error (.boundNotANumber operator operand)

/-- Reads a condition of a block whose variable is given. -/
def readCondition (blockVariable : Option String) (raw : Json) :
    Except RuleProblem Condition :=
  match raw with
  | .object members =>
    match ((Keyed.get? members "variable").bind Json.string?).or blockVariable with
    | none => .error .noVariable
    | some variableName =>
      match operators.filterMap fun o => (Keyed.get? members o).map fun operand => (o, operand) with
      | [(operator, operand)] => (readPredicate operator operand).map (⟨variableName, ·⟩)
      | [] => .error .noOperator
      | several => .error (.severalOperators (several.map Prod.fst))
  | _ => .error .conditionNotAnObject

/-- Reads a rule of a block whose variable is given. -/
def readRule (blockVariable : Option String) (raw : Json) : Except RuleProblem Rule :=
  match raw with
  | .object members =>
    match Keyed.get? members "when" with
    | none => .error .missingCondition
    | some condition =>
      match visibleText? members "goto" with
      | none => .error .missingTarget
      | some target => (readCondition blockVariable condition).map (⟨·, target⟩)
  | _ => .error .notAnObject

/-- Reads the rules from a position on, up to the first that cannot be read. -/
def readRules (blockVariable : Option String) :
    Nat → List Json → Except TransitionProblem (List Rule)
  | _, [] => .ok []
  | position, raw :: raws =>
    match readRule blockVariable raw with
    | .error problem => .error (.rule position problem)
    | .ok rule => (readRules blockVariable (position + 1) raws).map (rule :: ·)

/-- Reads a transition of a block whose variable is given. -/
def readTransition (blockVariable : Option String) (raw : Json) :
    Except TransitionProblem Transition :=
  match raw with
  | .string target => if isBlankText target then .error .emptyTarget else .ok (.direct target)
  | .object members =>
    let readWith (raws : List Json) : Except TransitionProblem Transition :=
      match visibleText? members "else" with
      | none => .error .noOtherwise
      | some otherwise => (readRules blockVariable 0 raws).map (.conditional · otherwise)
    match Keyed.get? members "if" with
    | none => readWith []
    | some (.array raws) => readWith raws
    | some other => .error (.rulesNotAnArray other.shape)
  | _ => .error (.wrongShape raw.shape)

end Document

end Questionnaire
