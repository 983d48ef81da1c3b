/-
**Conditions.**

A condition asks one question of one variable.  Asking never fails: an unset variable, or a value
that the question does not fit, answers no.

Main definitions:

* `Questionnaire.Predicate` — what is asked of a value;
* `Questionnaire.Predicate.holdsOf` — the answer for a value;
* `Questionnaire.Condition` — a predicate and the variable it is asked of;
* `Questionnaire.Condition.holds` — the answer for the variables of a session.

Main results:

* `Questionnaire.Condition.holds_of_unset` — a condition on an unset variable does not hold;
* `Questionnaire.Predicate.holdsOf_oneOf_nil` — nothing is one of no values.
-/

import Questionnaire.Value.Json

set_option autoImplicit false

namespace Questionnaire

/-- A question about a value. -/
inductive Predicate where
  | equals (operand : Value)
  | oneOf (operands : List Value)
  | above (bound : Number)
  | below (bound : Number)

/-- A question about the value of a variable. -/
structure Condition where
  variableName : String
  predicate : Predicate

namespace Predicate

/-- Whether a value passes.  A list is asked item by item, one item that agrees being enough,
except that a list is compared as a whole with an operand that is a list.  A bound is compared
with the finite number that the value counts as. -/
def holdsOf (value : Value) : Predicate → Bool
  | .equals operand =>
    match value with
    | .list items => if operand.isList then value.agrees operand else items.any (·.agrees operand)
    | _ => value.agrees operand
  | .oneOf operands =>
    match value with
    | .list items => items.any fun item => operands.any item.agrees
    | _ => operands.any value.agrees
  | .above bound => value.numeric?.any bound.less
  | .below bound => value.numeric?.any (·.less bound)

/-- The sign of a predicate in messages. -/
def symbol : Predicate → String
  | .equals _ => "=="
  | .oneOf _ => "in"
  | .above _ => ">"
  | .below _ => "<"

/-- The text of a predicate in messages. -/
def render (predicate : Predicate) : String :=
  let operand : Value :=
    match predicate with
    | .equals operand => operand
    | .oneOf operands => .list operands
    | .above bound => .number bound
    | .below bound => .number bound
  predicate.symbol ++ " " ++ operand.render

/-- The member of a condition's document that holds its predicate: the operator and the operand
in plain form. -/
def toMember : Predicate → String × Json
  | .equals operand => ("equals", operand.toJson)
  | .oneOf operands => ("in", .array (Value.toItems operands))
  | .above bound => ("gt", .ofNumber bound)
  | .below bound => ("lt", .ofNumber bound)

/-- Nothing is one of no values. -/
@[simp] theorem holdsOf_oneOf_nil (value : Value) : (oneOf []).holdsOf value = false := by
  cases value <;> simp [holdsOf]

end Predicate

namespace Condition

/-- Whether a condition holds of the variables of a session. -/
def holds (condition : Condition) (bindings : Variables) : Bool :=
  (bindings.get? condition.variableName).any fun value => condition.predicate.holdsOf value

/-- The text of a condition in messages. -/
def render (condition : Condition) : String :=
  condition.variableName ++ " " ++ condition.predicate.render

/-- The document of a condition. -/
def toJson (condition : Condition) : Json :=
  .object [("variable", .string condition.variableName), condition.predicate.toMember]

/-- A condition on an unset variable does not hold. -/
theorem holds_of_unset {condition : Condition} {bindings : Variables}
    (h : bindings.get? condition.variableName = none) : condition.holds bindings = false := by
  simp [holds, h]

end Condition

end Questionnaire
