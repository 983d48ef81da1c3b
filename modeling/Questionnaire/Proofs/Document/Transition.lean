/-
**Transitions are read back from their documents.**

A condition is written as its variable beside one operator, a rule as its condition and its target,
and a transition as a target or as an object of rules.  The readers accept more than what is written:
here is that they give back whatever was written, if the targets can be seen and the numbers are
finite.

Main definitions:

* `Questionnaire.Predicate.Writable`, `Questionnaire.Transition.Writable` — what keeps its meaning
  when it is written.

Main results:

* `Questionnaire.Document.readCondition_toJson`, `Questionnaire.Document.readRules_toJson` —
  conditions and rules are read back;
* `Questionnaire.Document.readTransition_toJson` — **transitions are read back**.
-/

import Questionnaire.Proofs.Document.Grammar
import Questionnaire.Proofs.Value.PlainForm

set_option autoImplicit false

namespace Questionnaire

/-- What a predicate compares with is finite, and its records are in order. -/
def Predicate.Writable : Predicate → Prop
  | .equals operand => operand.Finite ∧ operand.Ordered
  | .oneOf operands => Value.FiniteItems operands ∧ Value.OrderedItems operands
  | .above bound => bound.isFinite = true
  | .below bound => bound.isFinite = true

/-- Every target of a transition can be seen, and every condition keeps its meaning. -/
structure Transition.Writable (transition : Transition) : Prop where
  target : ∀ id ∈ transition.targets, isBlankText id = false
  condition : ∀ condition ∈ transition.conditions, condition.predicate.Writable

namespace Document

/-- A predicate is read back from its operator and its operand. -/
theorem readPredicate_toMember {predicate : Predicate} (h : predicate.Writable) :
    readPredicate predicate.toMember.1 predicate.toMember.2.arranged = .ok predicate := by
  cases predicate with
  | equals operand =>
      rw [Predicate.toMember, Value.arranged_toJson operand h.2]
      simp [readPredicate, Value.ofJson_toJson operand h.1]
  | oneOf operands =>
      rw [Predicate.toMember, Json.arranged, Value.arrangedItems_toItems operands h.2]
      simp [readPredicate, Value.ofItems_toItems operands h.1]
  | above bound =>
      rw [Predicate.toMember, Json.ofNumber_eq h]
      rfl
  | below bound =>
      rw [Predicate.toMember, Json.ofNumber_eq h]
      rfl

/-- Of all operators, a written condition has only its own. -/
theorem operators_found {members : List (String × Json)} {variableName : Json}
    {predicate : Predicate}
    (h : ∀ key, Keyed.get? members key =
      (Keyed.get? [("variable", variableName), predicate.toMember] key).map Json.arranged) :
    (operators.filterMap fun o => (Keyed.get? members o).map fun operand => (o, operand)) =
      [(predicate.toMember.1, predicate.toMember.2.arranged)] := by
  cases predicate <;> simp [operators, Predicate.toMember, Keyed.get?_cons, h]

/-- **A condition is read back**, whatever the variable of its block. -/
theorem readCondition_toJson (blockVariable : Option String) {condition : Condition}
    (h : condition.predicate.Writable) :
    readCondition blockVariable condition.toJson.arranged = .ok condition := by
  obtain ⟨variableName, predicate⟩ := condition
  have hkeys : ([("variable", .string variableName), predicate.toMember].map Prod.fst).Nodup := by
    cases predicate <;> simp [Predicate.toMember]
  have hget := Json.get?_arranged _ hkeys
  have hvariable := hget "variable"
  rw [Keyed.get?_cons, if_pos rfl, Option.map_some, Json.arranged_string] at hvariable
  simp only [Condition.toJson, Json.arranged_object, readCondition, hvariable,
    operators_found hget, Option.bind_some, Json.string?, Option.some_or]
  rw [readPredicate_toMember h]
  rfl

/-- **A rule is read back.** -/
theorem readRule_toJson (blockVariable : Option String) {rule : Rule}
    (htarget : isBlankText rule.target = false) (hcondition : rule.condition.predicate.Writable) :
    readRule blockVariable (Transition.ruleToJson rule).arranged = .ok rule := by
  have hget := Json.get?_arranged
    [("when", rule.condition.toJson), ("goto", .string rule.target)] (by simp)
  have hgoto := visibleText?_eq_some_iff.2 ⟨hget "goto", isBlankText_eq_false_iff.1 htarget⟩
  simp only [Transition.ruleToJson, Json.arranged_object, readRule, hget "when", hgoto,
    Keyed.get?_cons, if_true, Option.map_some]
  rw [readCondition_toJson blockVariable hcondition]
  rfl

/-- **Rules are read back**, from any position on. -/
theorem readRules_toJson (blockVariable : Option String) (position : Nat) {rules : List Rule}
    (h : ∀ rule ∈ rules, isBlankText rule.target = false ∧ rule.condition.predicate.Writable) :
    readRules blockVariable position ((rules.map Transition.ruleToJson).map Json.arranged) =
      .ok rules := by
  induction rules generalizing position with
  | nil => rfl
  | cons rule rules ih =>
      obtain ⟨⟨htarget, hcondition⟩, hrules⟩ := List.forall_mem_cons.1 h
      rw [List.map_cons, List.map_cons, readRules, readRule_toJson blockVariable htarget hcondition]
      simp only [ih (position + 1) hrules]
      rfl

/-- **A transition is read back**, whatever the variable of its block. -/
theorem readTransition_toJson (blockVariable : Option String) {transition : Transition}
    (h : transition.Writable) :
    readTransition blockVariable transition.toJson.arranged = .ok transition := by
  cases transition with
  | direct target =>
      have hvisible := h.target target (List.mem_singleton.2 rfl)
      simp [Transition.toJson, readTransition, hvisible]
  | conditional rules otherwise =>
      have hrules : ∀ rule ∈ rules,
          isBlankText rule.target = false ∧ rule.condition.predicate.Writable := by
        intro rule hmem
        exact ⟨h.target _ (List.mem_append_left _ (List.mem_map_of_mem hmem)),
          h.condition _ (List.mem_map_of_mem hmem)⟩
      have hget := Json.get?_arranged
        [("if", .array (rules.map Transition.ruleToJson)), ("else", .string otherwise)] (by simp)
      have hvisible := h.target otherwise (List.mem_append_right _ (List.mem_singleton.2 rfl))
      have helse := visibleText?_eq_some_iff.2
        ⟨hget "else", isBlankText_eq_false_iff.1 hvisible⟩
      simp only [Transition.toJson, Json.arranged_object, readTransition, hget "if", helse,
        Keyed.get?_cons, if_true, Option.map_some, Json.arranged_array,
        readRules_toJson blockVariable 0 hrules]
      rfl

end Document

end Questionnaire
