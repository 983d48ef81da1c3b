/-
**Rounding to double precision.**

An exact quotient of two naturals, counted in units of `2 ^ (-1074)`, is brought to the nearest
number of double precision; of two equally near ones to the one whose last binary digit is zero.
Every step of the library's arithmetic on numbers is an exact computation followed by this one.

Main definitions:

* `Questionnaire.Number.roundHalfEven` — the nearest whole quotient;
* `Questionnaire.Number.nearest` — the number nearest to an exact quotient;
* `Questionnaire.Number.ofNat`, `Questionnaire.Number.ofInt`, `Questionnaire.Number.ofDecimal`,
  `Questionnaire.Number.ratio`, `Questionnaire.Number.distance` — numbers computed through it.

Main results:

* `Questionnaire.Number.fits_roundUnits` — what rounding yields needs at most 53 binary digits;
* `Questionnaire.Number.isFinite_ofInt` — no integer of 64 bits is too large.
-/

import Questionnaire.Number.Basic

set_option autoImplicit false

namespace Questionnaire

namespace Number

/-- The quotient rounded to a whole number, a half going to the even neighbour. -/
def roundHalfEven (num den : Nat) : Nat :=
  let quotient := num / den
  let rest := num % den
  if 2 * rest < den then quotient
  else if den < 2 * rest then quotient + 1
  else quotient + quotient % 2

/-- The quotient rounded to a multiple of the power of two that leaves 53 binary digits. -/
def roundUnits (num den : Nat) : Nat :=
  let shift := (num / den).log2 - 52
  roundHalfEven num (den <<< shift) <<< shift

theorem roundHalfEven_le (num den : Nat) : roundHalfEven num den ≤ num / den + 1 := by
  unfold roundHalfEven
  simp only
  split
  · omega
  · split <;> omega

/-- Up to 53 binary digits and any number of zeros behind them need no more than 53 digits. -/
theorem mod_shiftLeft_eq_zero {m s : Nat} (hm : m ≤ 1 <<< 53) :
    (m <<< s) % (1 <<< ((m <<< s).log2 - 52)) = 0 := by
  rw [Nat.one_shiftLeft] at hm ⊢
  rw [Nat.shiftLeft_eq]
  apply Nat.mod_eq_zero_of_dvd
  by_cases hz : m = 0
  · subst hz; simp
  · have hne : m * 2 ^ s ≠ 0 := Nat.mul_ne_zero hz (by exact Nat.ne_of_gt (Nat.two_pow_pos s))
    by_cases hlt : m < 2 ^ 53
    · have hlog : (m * 2 ^ s).log2 < 53 + s := by
        rw [Nat.log2_lt hne, Nat.pow_add]
        exact Nat.mul_lt_mul_of_pos_right hlt (Nat.two_pow_pos s)
      exact Nat.dvd_mul_left_of_dvd (Nat.pow_dvd_pow 2 (by omega)) m
    · have he : m = 2 ^ 53 := by omega
      have hp : m * 2 ^ s = 2 ^ (53 + s) := by rw [he, Nat.pow_add]
      rw [hp, Nat.log2_two_pow]
      exact Nat.pow_dvd_pow 2 (by omega)

/-- **What rounding yields needs at most 53 binary digits**, so it fits unless it is too large. -/
theorem fits_roundUnits (num den : Nat) (h : roundUnits num den < beyond) :
    Fits (roundUnits num den) := by
  refine ⟨?_, h⟩
  unfold roundUnits
  simp only
  apply mod_shiftLeft_eq_zero
  rw [Nat.one_shiftLeft, Nat.shiftLeft_eq]
  refine Nat.le_trans (roundHalfEven_le _ _) ?_
  rw [← Nat.div_div_eq_div_mul]
  have hq : num / den < 2 ^ ((num / den).log2 + 1) := Nat.lt_log2_self
  have hs : (num / den) / 2 ^ ((num / den).log2 - 52) < 2 ^ 53 := by
    rw [Nat.div_lt_iff_lt_mul (Nat.two_pow_pos _), ← Nat.pow_add]
    exact Nat.lt_of_lt_of_le hq (Nat.pow_le_pow_right (by omega) (by omega))
  omega

/-- The number nearest to the quotient of two counts of units, infinite when it lies beyond the
largest finite number. -/
def nearest (negative : Bool) (num den : Nat) : Number :=
  if h : roundUnits num den < beyond then
    .finite negative (roundUnits num den) (fits_roundUnits num den h)
  else
    .infinite negative

/-- Rounding at most doubles a quotient, and adds one. -/
theorem roundUnits_le (num den : Nat) : roundUnits num den ≤ 2 * (num / den) + 1 := by
  have hpow : 2 ^ ((num / den).log2 - 52) ≤ num / den + 1 := by
    by_cases hzero : num / den = 0
    · simp [hzero]
    · have hlog : 2 ^ (num / den).log2 ≤ num / den := Nat.log2_self_le hzero
      have hle : 2 ^ ((num / den).log2 - 52) ≤ 2 ^ (num / den).log2 :=
        Nat.pow_le_pow_right (by omega) (Nat.sub_le _ _)
      omega
  have hround := roundHalfEven_le num (den <<< ((num / den).log2 - 52))
  rw [Nat.shiftLeft_eq, ← Nat.div_div_eq_div_mul] at hround
  have hmul := Nat.mul_le_mul_right (2 ^ ((num / den).log2 - 52)) hround
  rw [Nat.add_mul, Nat.one_mul] at hmul
  have hdiv := Nat.div_mul_le_self (num / den) (2 ^ ((num / den).log2 - 52))
  have hunits : roundUnits num den =
      roundHalfEven num (den * 2 ^ ((num / den).log2 - 52)) * 2 ^ ((num / den).log2 - 52) := by
    simp only [roundUnits, Nat.shiftLeft_eq]
  omega

/-- A quotient well below the bound is rounded to a finite number. -/
theorem isFinite_nearest {num den : Nat} (negative : Bool) (h : 2 * (num / den) + 1 < beyond) :
    (nearest negative num den).isFinite = true := by
  rw [nearest, dif_pos (Nat.lt_of_le_of_lt (roundUnits_le num den) h)]
  rfl

/-- The number nearest to a natural. -/
def ofNat (n : Nat) : Number := nearest false (n * one) 1

/-- The number nearest to an integer. -/
def ofInt (n : Int) : Number := nearest (decide (n < 0)) (n.natAbs * one) 1

/-- An integer of no more than 64 bits is brought to a finite number. -/
theorem isFinite_ofInt {n : Int} (h : n.natAbs ≤ 1 <<< 64) : (ofInt n).isFinite = true := by
  refine isFinite_nearest _ ?_
  rw [Nat.div_one]
  have hunits : n.natAbs * one ≤ (1 <<< 64) * one := Nat.mul_le_mul_right one h
  have hbeyond : 2 * ((1 <<< 64) * one) + 1 < beyond := by decide +kernel
  omega

/-- The number of decimal digits of a natural; zero has none. -/
def digitCount (n : Nat) : Nat := if n = 0 then 0 else (Nat.toDigits 10 n).length

/-- The number nearest to `digits * 10 ^ exponent`.  Beyond the four hundredth place on either
side there is nothing but infinity and zero, so no larger power is ever computed. -/
def ofDecimal (negative : Bool) (digits : Nat) (exponent : Int) : Number :=
  let place : Int := digitCount digits + exponent
  if digits = 0 ∨ place < -400 then zero negative
  else if 400 < place then .infinite negative
  else nearest negative (digits * one * Nat.pow 10 exponent.toNat) (Nat.pow 10 (-exponent).toNat)

/-- The quotient of two naturals as numbers: each is brought to a number first. -/
def ratio (a b : Nat) : Number :=
  match ofNat a, ofNat b with
  | .finite _ i _, .finite _ j _ => nearest false (i * one) j
  | _, _ => .nan

/-- The size of the difference of two numbers. -/
def distance (a b : Number) : Number :=
  match a, b with
  | .finite .., .finite .. =>
    match a.position?, b.position? with
    | some i, some j => nearest false (i - j).natAbs 1
    | _, _ => .nan
  | .nan, _ => .nan
  | _, .nan => .nan
  | .infinite s, .infinite t => if s = t then .nan else .infinite false
  | _, _ => .infinite false

/-- A number as a whole count of hundredths, a half going to the even neighbour: the number is
first multiplied by a hundred within double precision. -/
def percent : Number → Nat
  | .finite _ units _ =>
    match nearest false (units * 100) 1 with
    | .finite _ hundredfold _ => roundHalfEven hundredfold one
    | _ => 0
  | _ => 0

end Number

end Questionnaire
