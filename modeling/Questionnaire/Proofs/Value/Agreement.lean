/-
**Agreement looks the same from both sides.**

When a value is compared with an operand, the value is read as what the operand is, so the two sides
go through different readers: beside a number a value must count as a finite number, while a text
beside a number may spell any number at all, and beside a text the value decides what the text is
read as.  The comparison is symmetric in spite of that, since a number that is not finite equals no
finite one, on whichever side it was let through.  On values whose numbers are finite it is
reflexive, at any depth.

Main results:

* `Questionnaire.Number.isFinite_eq_of_same` — what equals a finite number is finite;
* `Questionnaire.Value.sameNumber_filter_comm` — it does not matter on which side only finite
  numbers are let through;
* `Questionnaire.Value.alike_comm`, `Questionnaire.Value.alike_self` — equality is symmetric, and
  reflexive on values of finite numbers;
* `Questionnaire.Value.agrees_self` — a value of finite numbers agrees with itself;
* `Questionnaire.Value.agrees_comm` — **agreement is symmetric**.
-/

import Questionnaire.Proofs.Value.PlainForm

set_option autoImplicit false

namespace Questionnaire

namespace Number

/-- A number is finite when its place is nearer to zero than the places of the infinities. -/
theorem isFinite_eq_of_position? {x : Number} {place : Int} (h : x.position? = some place) :
    x.isFinite = decide (place.natAbs < beyond) := by
  cases x with
  | nan => cases h
  | infinite negative => cases negative <;> cases h <;> simp [isFinite]
  | finite negative units fits =>
      have hunits : units < beyond := fits.2
      cases negative <;> cases h <;> simp [isFinite, hunits]

/-- **What equals a finite number is finite.** -/
theorem isFinite_eq_of_same {x y : Number} (h : x.same y = true) : x.isFinite = y.isFinite := by
  obtain ⟨place, hx, hy⟩ := same_eq_true_iff.1 h
  rw [isFinite_eq_of_position? hx, isFinite_eq_of_position? hy]

end Number

namespace Value

/-! ### Numbers -/

/-- A number counts as itself if it is finite. -/
theorem numeric?_number (x : Number) :
    (Value.number x).numeric? = (some x).filter Number.isFinite := by
  rw [numeric?, Option.filter_some]

theorem sameNumber_comm (x y : Option Number) : sameNumber x y = sameNumber y x := by
  cases x with
  | none => cases y <;> rfl
  | some x =>
      cases y with
      | none => rfl
      | some y => exact Number.same_comm x y

/-- Two numbers of which the first is finite. -/
theorem sameNumber_filter_some (x : Number) (y : Option Number) :
    sameNumber ((some x).filter Number.isFinite) y = (x.isFinite && sameNumber (some x) y) := by
  cases hx : x.isFinite with
  | true => rw [Option.filter_some_pos hx, Bool.true_and]
  | false =>
      rw [Option.filter_some_neg hx, Bool.false_and]
      rfl

/-- **It does not matter on which side only finite numbers are let through.** -/
theorem sameNumber_filter_comm (x y : Option Number) :
    sameNumber (x.filter Number.isFinite) y = sameNumber (y.filter Number.isFinite) x := by
  cases x with
  | none => exact (sameNumber_comm (y.filter Number.isFinite) none).symm
  | some x =>
      cases y with
      | none => exact sameNumber_comm ((some x).filter Number.isFinite) none
      | some y =>
          rw [sameNumber_filter_some, sameNumber_filter_some, sameNumber_comm (some y)]
          cases hsame : sameNumber (some x) (some y) with
          | true => rw [Number.isFinite_eq_of_same hsame]
          | false => rw [Bool.and_false, Bool.and_false]

/-! ### Equality -/

mutual

/-- **Equality is symmetric.** -/
theorem alike_comm (a b : Value) : alike a b = alike b a := by
  cases a with
  | null => cases b <;> rfl
  | bool p =>
      cases b with
      | bool q => exact Bool.beq_comm
      | _ => rfl
  | number x =>
      cases b with
      | number y => exact Number.same_comm x y
      | _ => rfl
  | text s =>
      cases b with
      | text t => exact Bool.beq_comm
      | _ => rfl
  | list xs =>
      cases b with
      | list ys => exact alikeItems_comm xs ys
      | _ => rfl
  | record xs =>
      cases b with
      | record ys => exact alikeEntries_comm xs ys
      | _ => rfl

theorem alikeItems_comm (xs ys : List Value) : alikeItems xs ys = alikeItems ys xs := by
  cases xs with
  | nil => cases ys <;> rfl
  | cons x xs =>
      cases ys with
      | nil => rfl
      | cons y ys => rw [alikeItems, alikeItems, alike_comm x y, alikeItems_comm xs ys]

theorem alikeEntries_comm (xs ys : List (String × Value)) :
    alikeEntries xs ys = alikeEntries ys xs := by
  cases xs with
  | nil => cases ys <;> rfl
  | cons x xs =>
      cases ys with
      | nil => rfl
      | cons y ys =>
          obtain ⟨k, x⟩ := x
          obtain ⟨l, y⟩ := y
          rw [alikeEntries, alikeEntries, alike_comm x y, alikeEntries_comm xs ys,
            Bool.beq_comm (a := k)]

end

mutual

/-- **A value of finite numbers equals itself.** -/
theorem alike_self (value : Value) (h : value.Finite) : alike value value = true := by
  cases value with
  | null => rfl
  | bool b => exact beq_self_eq_true b
  | number x =>
      refine Number.same_self_iff.2 ?_
      rintro rfl
      cases h
  | text s => exact beq_self_eq_true s
  | list items => exact alikeItems_self items h
  | record entries => exact alikeEntries_self entries h

theorem alikeItems_self (items : List Value) (h : FiniteItems items) :
    alikeItems items items = true := by
  cases items with
  | nil => rfl
  | cons item items =>
      rw [alikeItems, alike_self item h.1, alikeItems_self items h.2, Bool.and_self]

theorem alikeEntries_self (entries : List (String × Value)) (h : FiniteEntries entries) :
    alikeEntries entries entries = true := by
  cases entries with
  | nil => rfl
  | cons entry entries =>
      obtain ⟨key, value⟩ := entry
      rw [alikeEntries, alike_self value h.1, alikeEntries_self entries h.2, beq_self_eq_true,
        Bool.and_self, Bool.and_self]

end

/-! ### Agreement -/

/-- **A value of finite numbers agrees with itself.** -/
theorem agrees_self {value : Value} (h : value.Finite) : value.agrees value = true := by
  cases value with
  | null => rfl
  | bool b => simp [truth?]
  | number x =>
      have hsame : x.same x = true := alike_self (.number x) h
      rw [agrees_number, numeric?, if_pos (show x.isFinite = true from h)]
      exact hsame
  | text s => exact beq_self_eq_true s
  | list items => exact alike_self (.list items) h
  | record entries => exact alike_self (.record entries) h

/-- **Agreement is symmetric**: for all values, whatever texts spell and numbers are, and at any
depth of lists and records. -/
theorem agrees_comm (a b : Value) : a.agrees b = b.agrees a := by
  cases a with
  | null => cases b <;> rfl
  | bool p =>
      cases b with
      | bool q =>
          rw [agrees_bool, agrees_bool]
          exact Bool.beq_comm
      | _ => rfl
  | number x =>
      cases b with
      | number y =>
          rw [agrees_number, agrees_number, numeric?_number, numeric?_number]
          exact sameNumber_filter_comm (some x) (some y)
      | text t =>
          -- one side reads any number of the text, the other only a finite one
          rw [agrees_number, agrees, numeric?_number]
          exact sameNumber_filter_comm (some x) (Number.ofText? (trim t))
      | _ => rfl
  | text s =>
      cases b with
      | number y =>
          rw [agrees_number, agrees, numeric?_number]
          exact sameNumber_filter_comm (Number.ofText? (trim s)) (some y)
      | text t => exact Bool.beq_comm
      | _ => rfl
  | list xs =>
      cases b with
      | list ys => exact alike_comm (.list xs) (.list ys)
      | _ => rfl
  | record xs =>
      cases b with
      | record ys => exact alike_comm (.record xs) (.record ys)
      | _ => rfl

/-- A text may spell an infinite number, which no number agrees with on either side. -/
example : (Value.number (.infinite false)).agrees (.text " inf ") = false ∧
    (Value.text " inf ").agrees (.number (.infinite false)) = false := by decide +kernel

/-- A text may pad a number and give it a sign. -/
example : (Value.number (.ofNat 4)).agrees (.text " +4.0 ") = true ∧
    (Value.text " +4.0 ").agrees (.number (.ofNat 4)) = true := by decide +kernel

end Value

end Questionnaire
