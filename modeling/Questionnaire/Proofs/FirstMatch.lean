/-
**The first match wins.**

A transition goes through its rules until one holds, and counts those that it passed over.  This
module says which rule that is without going through them: the one at the least place whose
condition holds.  What is told of a decision, its target, the place of the rule and the record of
what led to it, can be found each by itself from this rule, and the three agree.  Since only the
rules before the match decide that it is the first, and these only by not holding, the target stays
the same whatever becomes of the rules behind it and however many rules that do not hold are put
before it.

Main definitions:

* `Questionnaire.Transition.FirstMatch` — **the first rule that holds**, and its place;
* `Questionnaire.Resolution`, `Questionnaire.Transition.resolve` — a decision in its parts, each
  found by itself.

Main results:

* `Questionnaire.Condition.exists_observed` — a condition that holds reads a variable that is set;
* `Questionnaire.Transition.firstMatch_or_none` — some rule is the first that holds, or none holds;
* `Questionnaire.Transition.resolve_eq` — **the parts are those of the decision**;
* `Questionnaire.Transition.first_match_wins` — **what a transition comes to**, and what does not
  change it.
-/

import Questionnaire.Transition

set_option autoImplicit false

namespace Questionnaire

/-- **A decision in its parts**: the block it leads to, the place of the rule that matched, if one
did, and the record of what led to it. -/
structure Resolution where
  target : String
  place? : Option Nat
  record : Decision

/-- A condition that holds reads a variable that is set. -/
theorem Condition.exists_observed {condition : Condition} {bindings : Variables}
    (h : condition.holds bindings = true) :
    ∃ observed, bindings.get? condition.variableName = some observed := by
  cases hget : bindings.get? condition.variableName with
  | none =>
      rw [holds_of_unset hget] at h
      cases h
  | some observed => exact ⟨observed, rfl⟩

namespace Transition

/-- **The first rule that holds**: it stands at a place, it holds, and no rule at a lesser place
does. -/
structure FirstMatch (bindings : Variables) (rules : List Rule) (place : Nat) (rule : Rule) :
    Prop where
  at_place : rules[place]? = some rule
  holds : rule.condition.holds bindings = true
  least : ∀ i < place, ∀ earlier, rules[i]? = some earlier →
    earlier.condition.holds bindings = false

/-- The parts of the decision of a transition, each of them found from the first rule that holds
among the rules with their places. -/
def resolve (transition : Transition) (bindings : Variables) : Resolution :=
  match transition with
  | .direct target => ⟨target, none, .direct target⟩
  | .conditional rules otherwise =>
    match rules.zipIdx.find? fun entry => entry.1.condition.holds bindings with
    | some (rule, place) =>
      let variableName := rule.condition.variableName
      ⟨rule.target, some place, .matched place variableName (bindings.get? variableName)
        rule.condition.predicate rule.target⟩
    | none => ⟨otherwise, none, .fallback rules.length otherwise⟩

variable {bindings : Variables} {rules before after : List Rule} {rule : Rule} {place : Nat}
  {otherwise : String}

/-! ### The first match -/

/-- A rule that holds behind rules that do not is the first that holds. -/
theorem firstMatch_append (hbefore : ∀ earlier ∈ before, earlier.condition.holds bindings = false)
    (hholds : rule.condition.holds bindings = true) (after : List Rule) :
    FirstMatch bindings (before ++ rule :: after) before.length rule where
  at_place := by
    rw [List.getElem?_append_right (Nat.le_refl _), Nat.sub_self]
    rfl
  holds := hholds
  least := by
    intro i hi earlier hearlier
    rw [List.getElem?_append_left hi] at hearlier
    exact hbefore earlier (List.mem_of_getElem? hearlier)

/-- **The first match divides the rules** into some that do not hold, itself and the others. -/
theorem FirstMatch.exists_append (h : FirstMatch bindings rules place rule) :
    ∃ before after, rules = before ++ rule :: after ∧ before.length = place ∧
      ∀ earlier ∈ before, earlier.condition.holds bindings = false := by
  obtain ⟨hlt, hget⟩ := List.getElem?_eq_some_iff.1 h.at_place
  refine ⟨rules.take place, rules.drop (place + 1), ?_,
    List.length_take_of_le (Nat.le_of_lt hlt), ?_⟩
  · rw [← hget, ← List.drop_eq_getElem_cons hlt, List.take_append_drop]
  · intro earlier hmem
    obtain ⟨i, hi, hearlier⟩ := List.mem_take_iff_getElem.1 hmem
    have hplace : i < place := Nat.lt_of_lt_of_le hi (Nat.min_le_left _ _)
    exact h.least i hplace earlier (hearlier ▸ List.getElem?_eq_getElem _)

/-- **What stands behind the first match plays no part.** -/
theorem FirstMatch.take_append (h : FirstMatch bindings rules place rule) (after : List Rule) :
    FirstMatch bindings (rules.take (place + 1) ++ after) place rule := by
  obtain ⟨before, others, rfl, rfl, hbefore⟩ := h.exists_append
  rw [List.take_length_add_append, List.take_succ_cons, List.take_zero, List.append_assoc]
  exact firstMatch_append hbefore h.holds after

/-- **Some rule is the first that holds, or none holds.** -/
theorem firstMatch_or_none (bindings : Variables) (rules : List Rule) :
    (∃ place rule, FirstMatch bindings rules place rule) ∨
      ∀ rule ∈ rules, rule.condition.holds bindings = false := by
  cases hfind : rules.find? fun rule => rule.condition.holds bindings with
  | none =>
      refine .inr fun rule hmem => Bool.eq_false_iff.2 ?_
      exact List.find?_eq_none.1 hfind rule hmem
  | some rule =>
      obtain ⟨hholds, before, after, rfl, hbefore⟩ := List.find?_eq_some_iff_append.1 hfind
      refine .inl ⟨before.length, rule, firstMatch_append ?_ hholds after⟩
      intro earlier hmem
      simpa using hbefore earlier hmem

/-! ### What is decided -/

/-- **Behind rules that do not hold, the first that does is taken.** -/
theorem decideFrom_append (hbefore : ∀ earlier ∈ before, earlier.condition.holds bindings = false)
    (hholds : rule.condition.holds bindings = true) (after : List Rule) (otherwise : String)
    (checked : Nat) :
    decideFrom bindings otherwise checked (before ++ rule :: after) =
      .matched (checked + before.length) rule.condition.variableName
        (bindings.get? rule.condition.variableName) rule.condition.predicate rule.target := by
  induction before generalizing checked with
  | nil => rw [List.nil_append, decideFrom, if_pos hholds, List.length_nil, Nat.add_zero]
  | cons first before ih =>
      obtain ⟨hfirst, hbefore⟩ := List.forall_mem_cons.1 hbefore
      rw [List.cons_append, decideFrom, hfirst, if_neg Bool.false_ne_true, ih hbefore,
        List.length_cons, Nat.add_right_comm, Nat.add_assoc]

/-- **If no rule holds, the last target is taken.** -/
theorem decideFrom_of_none (h : ∀ rule ∈ rules, rule.condition.holds bindings = false)
    (otherwise : String) (checked : Nat) :
    decideFrom bindings otherwise checked rules = .fallback (checked + rules.length) otherwise := by
  induction rules generalizing checked with
  | nil => rfl
  | cons first rules ih =>
      obtain ⟨hfirst, hrest⟩ := List.forall_mem_cons.1 h
      rw [decideFrom, hfirst, if_neg Bool.false_ne_true, ih hrest, List.length_cons,
        Nat.add_right_comm, Nat.add_assoc]

/-- The search among the rules with their places finds none of those that do not hold. -/
theorem find?_zipIdx_of_none (h : ∀ rule ∈ rules, rule.condition.holds bindings = false) :
    (rules.zipIdx.find? fun entry => entry.1.condition.holds bindings) = none := by
  refine List.find?_eq_none.2 fun entry hmem => ?_
  rw [h entry.1 (List.fst_mem_of_mem_zipIdx hmem)]
  exact Bool.false_ne_true

/-- The search finds the first match at its place. -/
theorem find?_zipIdx_append
    (hbefore : ∀ earlier ∈ before, earlier.condition.holds bindings = false)
    (hholds : rule.condition.holds bindings = true) (after : List Rule) :
    ((before ++ rule :: after).zipIdx.find? fun entry => entry.1.condition.holds bindings) =
      some (rule, before.length) := by
  rw [List.zipIdx_append, List.find?_append, find?_zipIdx_of_none hbefore, Option.none_or,
    List.zipIdx_cons, Nat.zero_add]
  exact List.find?_cons_of_pos hholds

/-- **The parts of a resolution are those of the decision.** -/
theorem resolve_eq (transition : Transition) (bindings : Variables) :
    transition.resolve bindings =
      ⟨(transition.decide bindings).target, (transition.decide bindings).place?,
        transition.decide bindings⟩ := by
  cases transition with
  | direct target => rfl
  | conditional rules otherwise =>
      rw [resolve, decide]
      rcases firstMatch_or_none bindings rules with ⟨place, rule, hfirst⟩ | hnone
      · obtain ⟨before, after, rfl, rfl, hbefore⟩ := hfirst.exists_append
        rw [find?_zipIdx_append hbefore hfirst.holds,
          decideFrom_append hbefore hfirst.holds, Nat.zero_add]
        rfl
      · rw [find?_zipIdx_of_none hnone, decideFrom_of_none hnone, Nat.zero_add]
        rfl

/-- What a transition comes to if a rule is the first that holds. -/
theorem FirstMatch.resolve_eq (h : FirstMatch bindings rules place rule) {observed : Value}
    (hobserved : bindings.get? rule.condition.variableName = some observed) (otherwise : String) :
    (conditional rules otherwise).resolve bindings =
      ⟨rule.target, some place, .matched place rule.condition.variableName (some observed)
        rule.condition.predicate rule.target⟩ := by
  obtain ⟨before, after, rfl, rfl, hbefore⟩ := h.exists_append
  rw [resolve, find?_zipIdx_append hbefore h.holds, ← hobserved]

/-- **What a transition comes to.**  The target, the place and the record, each found by itself, are
those of the decision, so the record leads to the target; this is one of the targets that the
transition declares.  A direct transition leads to its only target.  A conditional one leads to the
target of the rule at the least place whose condition holds; the place is told, and the record names
it with the variable of the rule, the value that the variable has, the predicate and the target.  If
no rule holds, it leads to the last target, no place is told, and the record counts all rules.

Whatever becomes of the rules behind the one that matched, all of this stays as it is.  The target
stays even if the rules before it are replaced by any others that do not hold, as when such rules
are put among them. -/
theorem first_match_wins (transition : Transition) (bindings : Variables) :
    (transition.resolve bindings).record = transition.decide bindings ∧
    (transition.resolve bindings).target = (transition.decide bindings).target ∧
    (transition.resolve bindings).place? = (transition.decide bindings).place? ∧
    (transition.resolve bindings).record.target = (transition.resolve bindings).target ∧
    (transition.resolve bindings).target ∈ transition.targets ∧
    (∀ target, transition = .direct target →
      transition.resolve bindings = ⟨target, none, .direct target⟩) ∧
    ∀ rules otherwise, transition = .conditional rules otherwise →
      ((∃ place rule, FirstMatch bindings rules place rule) ∨
        ∀ rule ∈ rules, rule.condition.holds bindings = false) ∧
      (∀ place rule, FirstMatch bindings rules place rule →
        (∃ observed, bindings.get? rule.condition.variableName = some observed ∧
          transition.resolve bindings =
            ⟨rule.target, some place, .matched place rule.condition.variableName (some observed)
              rule.condition.predicate rule.target⟩) ∧
        (∀ after, (conditional (rules.take (place + 1) ++ after) otherwise).resolve bindings =
          transition.resolve bindings) ∧
        ∀ before after, (∀ earlier ∈ before, earlier.condition.holds bindings = false) →
          ((conditional (before ++ rule :: after) otherwise).resolve bindings).target =
            (transition.resolve bindings).target) ∧
      ((∀ rule ∈ rules, rule.condition.holds bindings = false) →
        transition.resolve bindings =
          ⟨otherwise, none, .fallback rules.length otherwise⟩) := by
  refine ⟨by rw [resolve_eq], by rw [resolve_eq], by rw [resolve_eq], by rw [resolve_eq], ?_, ?_,
    ?_⟩
  · rw [resolve_eq]
    exact decide_target_mem transition bindings
  · rintro target rfl
    rfl
  · rintro rules otherwise rfl
    refine ⟨firstMatch_or_none bindings rules, ?_, ?_⟩
    · intro place rule hfirst
      obtain ⟨observed, hobserved⟩ := Condition.exists_observed hfirst.holds
      have hresolve := hfirst.resolve_eq hobserved otherwise
      refine ⟨⟨observed, hobserved, hresolve⟩, fun after => ?_, fun before after hbefore => ?_⟩
      · rw [hresolve, (hfirst.take_append after).resolve_eq hobserved]
      · rw [hresolve, (firstMatch_append hbefore hfirst.holds after).resolve_eq hobserved]
    · intro hnone
      rw [resolve, find?_zipIdx_of_none hnone]

/-- A rule on the answer to a question. -/
def onReply (reply target : String) : Rule := ⟨⟨"reply", .equals (.text reply)⟩, target⟩

/-- A transition with a rule for one answer and two rules for another. -/
def fork : Transition :=
  .conditional [onReply "no" "left", onReply "yes" "right", onReply "yes" "on"] "end"

/-- The second rule of `fork` is the first that holds of the answer "yes"; it still is once another
rule is put before it and the last is left out.  Without an answer none holds. -/
theorem first_match_wins_fork :
    fork.resolve [("reply", .text "yes")] =
      ⟨"right", some 1, .matched 1 "reply" (some (.text "yes")) (.equals (.text "yes")) "right"⟩ ∧
    ((conditional [onReply "no" "left", onReply "maybe" "on", onReply "yes" "right"] "end").resolve
      [("reply", .text "yes")]).target = "right" ∧
    fork.resolve [] = ⟨"end", none, .fallback 3 "end"⟩ := by
  have hfirst : FirstMatch [("reply", .text "yes")]
      [onReply "no" "left", onReply "yes" "right", onReply "yes" "on"] 1 (onReply "yes" "right") :=
    @firstMatch_append _ [onReply "no" "left"] _ (by decide +kernel) (by decide +kernel) _
  obtain ⟨-, -, -, -, -, -, hconditional⟩ := first_match_wins fork [("reply", .text "yes")]
  obtain ⟨-, hmatched, -⟩ := hconditional _ _ rfl
  obtain ⟨⟨observed, hobserved, hresolve⟩, -, hedited⟩ := hmatched _ _ hfirst
  obtain ⟨-, -, -, -, -, -, hunset⟩ := first_match_wins fork []
  refine ⟨?_, ?_, (hunset _ _ rfl).2.2 (by decide +kernel)⟩
  · cases hobserved
    exact hresolve
  · have htarget := hedited [onReply "no" "left", onReply "maybe" "on"] [] (by decide +kernel)
    exact htarget.trans (congrArg Resolution.target hresolve)

end Transition

end Questionnaire
