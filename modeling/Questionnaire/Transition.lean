/-
**Transitions and how they are decided.**

A block says where the respondent goes next: always to one block, or by a list of rules to the
target of the first rule whose condition holds, with a last target when none does.  A decision
records the target together with what led to it.

Main definitions:

* `Questionnaire.Rule`, `Questionnaire.Transition` — what a block says about the next one;
* `Questionnaire.Transition.targets` — the blocks that may come next;
* `Questionnaire.Decision` — what a transition came to, and why;
* `Questionnaire.Transition.decide` — the decision for the variables of a session.

Main result:

* `Questionnaire.Transition.decide_target_mem` — a decision leads to one of the targets.
-/

import Questionnaire.Condition

set_option autoImplicit false

namespace Questionnaire

/-- One arm of a conditional transition. -/
structure Rule where
  condition : Condition
  target : String

/-- Where a block leads. -/
inductive Transition where
  | direct (target : String)
  | conditional (rules : List Rule) (otherwise : String)

/-- What a transition came to.  A matched rule is given by its place among the rules, with its
variable, the value that was seen there and the predicate that held of it. -/
inductive Decision where
  | direct (target : String)
  | matched (place : Nat) (variableName : String) (observed : Option Value) (predicate : Predicate)
      (target : String)
  | fallback (checked : Nat) (target : String)

namespace Decision

/-- The block that a decision leads to. -/
def target : Decision → String
  | .direct target => target
  | .matched _ _ _ _ target => target
  | .fallback _ target => target

/-- The place of the rule that matched, if one did. -/
def place? : Decision → Option Nat
  | .matched place .. => some place
  | _ => none

/-- A decision in words. -/
def explain : Decision → String
  | .direct target => "-> " ++ target
  | .matched place variableName observed predicate target =>
    let seen := (observed.map Value.render).getD "unset"
    s!"rule #{place}: {variableName} (was {seen}) {predicate.render} -> {target}"
  | .fallback checked target => s!"no rule matched ({checked} checked) -> else {target}"

end Decision

namespace Transition

/-- The blocks that may come next, as they are declared: the targets of the rules, then the last
one. -/
def targets : Transition → List String
  | .direct target => [target]
  | .conditional rules otherwise => rules.map Rule.target ++ [otherwise]

/-- The conditions of the rules. -/
def conditions : Transition → List Condition
  | .direct _ => []
  | .conditional rules _ => rules.map Rule.condition

/-- The decision among rules of which `checked` were passed over already. -/
def decideFrom (bindings : Variables) (otherwise : String) : Nat → List Rule → Decision
  | checked, [] => .fallback checked otherwise
  | checked, rule :: rules =>
    if rule.condition.holds bindings then
      .matched checked rule.condition.variableName (bindings.get? rule.condition.variableName)
        rule.condition.predicate rule.target
    else decideFrom bindings otherwise (checked + 1) rules

/-- **The decision of a transition: the first rule whose condition holds wins.** -/
def decide (transition : Transition) (bindings : Variables) : Decision :=
  match transition with
  | .direct target => .direct target
  | .conditional rules otherwise => decideFrom bindings otherwise 0 rules

/-- The document of a rule. -/
def ruleToJson (rule : Rule) : Json :=
  .object [("when", rule.condition.toJson), ("goto", .string rule.target)]

/-- The document of a transition. -/
def toJson : Transition → Json
  | .direct target => .string target
  | .conditional rules otherwise =>
    .object [("if", .array (rules.map ruleToJson)), ("else", .string otherwise)]

theorem decideFrom_target_mem (bindings : Variables) (otherwise : String) (checked : Nat)
    (rules : List Rule) :
    (decideFrom bindings otherwise checked rules).target ∈
      rules.map Rule.target ++ [otherwise] := by
  induction rules generalizing checked with
  | nil => simp [decideFrom, Decision.target]
  | cons rule rules ih =>
      by_cases h : rule.condition.holds bindings = true
      · simp [decideFrom, h, Decision.target]
      · simp only [decideFrom, h, Bool.false_eq_true, if_false, List.map_cons, List.cons_append]
        exact List.mem_cons_of_mem _ (ih (checked + 1))

/-- **A decision leads to one of the targets.** -/
theorem decide_target_mem (transition : Transition) (bindings : Variables) :
    (transition.decide bindings).target ∈ transition.targets := by
  cases transition with
  | direct target => simp [decide, targets, Decision.target]
  | conditional rules otherwise => exact decideFrom_target_mem bindings otherwise 0 rules

end Transition

end Questionnaire
