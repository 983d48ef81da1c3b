/-
**Results and lists.**

A reader or a check comes to a result, which is a success or the reason of a failure, and most of
them pass on what a smaller one came to.  The lemmas of this module take such results apart, whatever
they are results of, and lists that are read item by item.

Main results:

* `Questionnaire.map_eq_ok_iff`, `Questionnaire.map_eq_error_iff` — what a mapped result comes from;
* `Questionnaire.exists_getElem?_of_forall₂` — what stands at a place of one of two related lists has
  a counterpart in the other.
-/

import Mathlib.Data.List.Forall2

set_option autoImplicit false

namespace Questionnaire

section Results

variable {ε α β : Type} {result : Except ε α}

/-- A result that is mapped succeeds exactly if it succeeds itself. -/
theorem map_eq_ok_iff {f : α → β} {b : β} :
    result.map f = .ok b ↔ ∃ a, result = .ok a ∧ f a = b := by
  cases result <;> simp [Except.map]

/-- A result that is mapped fails exactly if it fails itself, for the same reason. -/
theorem map_eq_error_iff {f : α → β} {e : ε} : result.map f = .error e ↔ result = .error e := by
  cases result <;> simp [Except.map]

theorem toOption_eq_some_iff {a : α} : result.toOption = some a ↔ result = .ok a := by
  cases result <;> simp [Except.toOption]

end Results

/-- What stands at a place of one list has a counterpart at this place of the other. -/
theorem exists_getElem?_of_forall₂ {α β : Type} {r : α → β → Prop} {as : List α} {bs : List β}
    (h : List.Forall₂ r as bs) {i : Nat} {a : α} (ha : as[i]? = some a) :
    ∃ b, bs[i]? = some b ∧ r a b := by
  induction h generalizing i with
  | nil => cases ha
  | cons hab _ ih =>
      cases i with
      | zero =>
          obtain rfl := Option.some.inj ha
          exact ⟨_, rfl, hab⟩
      | succ i => exact ih ha

end Questionnaire
