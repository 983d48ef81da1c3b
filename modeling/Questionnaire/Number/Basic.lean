/-
**Numbers of double precision, kept exactly.**

Every finite number of double precision is a whole multiple of `2 ^ (-1074)`, so a number is kept
as a sign and a count of such units: comparisons are comparisons of integers, and the only place
where anything is rounded is `Number/Rounding.lean`.

Main definitions:

* `Questionnaire.Number` — not-a-number, the two infinities, and the finite numbers with their sign;
* `Questionnaire.Number.Fits` — the counts of units that need no more than 53 binary digits;
* `Questionnaire.Number.position?` — where a number lies on the line of the integers;
* `Questionnaire.Number.same`, `Questionnaire.Number.less` — equality and order of numbers.

Main results:

* `Questionnaire.Number.same_comm`, `Questionnaire.Number.same_self_iff` — equality is symmetric,
  and reflexive except at not-a-number;
* `Questionnaire.Number.less_irrefl`, `Questionnaire.Number.less_trans` — the order is strict.
-/

set_option autoImplicit false

namespace Questionnaire

namespace Number

/-- The count of units in the number one: a unit is `2 ^ (-1074)`. -/
def one : Nat := 1 <<< 1074

/-- The first count of units that is too large for a finite number. -/
def beyond : Nat := 1 <<< 2098

/-- A count of units fits a finite number when its binary digits after the 53rd are zero and it
stays below the bound. -/
def Fits (units : Nat) : Prop := units % (1 <<< (units.log2 - 52)) = 0 ∧ units < beyond

instance (units : Nat) : Decidable (Fits units) := inferInstanceAs (Decidable (_ ∧ _))

end Number

/-- A number of double precision.  The sign of a finite number is kept apart from its size, so
that zero has two of them. -/
inductive Number where
  | nan
  | infinite (negative : Bool)
  | finite (negative : Bool) (units : Nat) (fits : Number.Fits units)
  deriving DecidableEq

namespace Number

theorem fits_zero : Fits 0 := by decide +kernel

/-- Zero, with its sign. -/
def zero (negative : Bool) : Number := .finite negative 0 fits_zero

instance : Inhabited Number := ⟨zero false⟩

/-- Whether a number is neither infinite nor not-a-number. -/
def isFinite : Number → Bool
  | .finite .. => true
  | _ => false

/-- The place of a number among the integers, counted in units.  The infinities lie just beyond
the finite numbers, and not-a-number has no place. -/
def position? : Number → Option Int
  | .nan => none
  | .infinite true => some (-(beyond : Int))
  | .infinite false => some (beyond : Int)
  | .finite true units _ => some (-(units : Int))
  | .finite false units _ => some (units : Int)

/-- Whether two numbers are equal as numbers: the two zeros are, and not-a-number equals
nothing. -/
def same (a b : Number) : Bool :=
  match a.position?, b.position? with
  | some i, some j => i == j
  | _, _ => false

/-- Whether the first number is the smaller one; not-a-number is in no order. -/
def less (a b : Number) : Bool :=
  match a.position?, b.position? with
  | some i, some j => decide (i < j)
  | _, _ => false

/-- Whether a finite number is whole. -/
def isWhole : Number → Bool
  | .finite _ units _ => units % one == 0
  | _ => false

theorem same_eq_true_iff {a b : Number} :
    a.same b = true ↔ ∃ i, a.position? = some i ∧ b.position? = some i := by
  unfold same
  cases a.position? <;> cases b.position? <;> simp
  exact eq_comm

theorem less_eq_true_iff {a b : Number} :
    a.less b = true ↔ ∃ i j, a.position? = some i ∧ b.position? = some j ∧ i < j := by
  unfold less
  cases a.position? <;> cases b.position? <;> simp

/-- Equality of numbers is symmetric. -/
theorem same_comm (a b : Number) : a.same b = b.same a := by
  rw [Bool.eq_iff_iff, same_eq_true_iff, same_eq_true_iff]
  exact exists_congr fun _ => and_comm

/-- A number equals itself unless it is not-a-number. -/
theorem same_self_iff {a : Number} : a.same a = true ↔ a ≠ .nan := by
  rw [same_eq_true_iff]
  constructor
  · rintro ⟨i, hi, _⟩ rfl
    cases hi
  · intro h
    rcases a with _ | negative | ⟨negative, units, fits⟩
    · exact absurd rfl h
    · cases negative <;> exact ⟨_, rfl, rfl⟩
    · cases negative <;> exact ⟨_, rfl, rfl⟩

/-- No number is below itself. -/
theorem less_irrefl (a : Number) : a.less a = false := by
  unfold less
  cases a.position? <;> simp

theorem less_trans {a b c : Number} (hab : a.less b = true) (hbc : b.less c = true) :
    a.less c = true := by
  obtain ⟨i, j, hi, hj, hij⟩ := less_eq_true_iff.1 hab
  obtain ⟨j', k, hj', hk, hjk⟩ := less_eq_true_iff.1 hbc
  rw [hj] at hj'
  cases hj'
  exact less_eq_true_iff.2 ⟨i, k, hi, hk, by omega⟩

end Number

end Questionnaire
