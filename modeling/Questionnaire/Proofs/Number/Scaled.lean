/-
**When a scaled numeral is the nearest number.**

A numeral of a document is scaled step by step in double precision, and every step may round.  If
the digits make up no more than `2 ^ 53` and the power of ten is at most the twenty-second, then the
digits and the power are numbers of double precision, so that only the last step rounds, and what is
read is the number nearest to the numeral.  Without these bounds it may be a neighbour, but a power
that is not above zero never takes a numeral out of range.

Main results:

* `Questionnaire.Number.roundUnits_mul_right` — rounding depends on the quotient alone;
* `Questionnaire.Number.nearest_of_fits` — rounding leaves a number of double precision as it is;
* `Questionnaire.Number.tenPower_eq` — the powers of ten that are exact;
* `Questionnaire.Number.isFinite_scaledDown` — **dividing by a power of ten stays in range**, by
  induction on its steps;
* `Questionnaire.Number.scaled_eq_ofDecimal` — short digits and small powers are scaled to the
  nearest number;
* `Questionnaire.Json.Literal.toNumber_eq_value` — **a short numeral is read as the nearest
  number**;
* `Questionnaire.JsonNumber.isSome_ofLiteral?` — **which numerals are never out of range**.
-/

import Questionnaire.Json.Reader

set_option autoImplicit false

namespace Questionnaire

namespace Number

/-! ### Rounding -/

theorem one_shiftLeft_pos (shift : Nat) : 0 < 1 <<< shift := by
  rw [Nat.one_shiftLeft]
  exact Nat.two_pow_pos shift

theorem one_pos : 0 < one := one_shiftLeft_pos 1074

/-- **Rounding to a whole number depends on the quotient alone.** -/
theorem roundHalfEven_mul_right (num den : Nat) {k : Nat} (hk : 0 < k) :
    roundHalfEven (num * k) (den * k) = roundHalfEven num den := by
  have hbelow : 2 * (num % den * k) < den * k ↔ 2 * (num % den) < den := by
    rw [← Nat.mul_assoc, Nat.mul_lt_mul_right hk]
  have habove : den * k < 2 * (num % den * k) ↔ den < 2 * (num % den) := by
    rw [← Nat.mul_assoc, Nat.mul_lt_mul_right hk]
  simp only [roundHalfEven, Nat.mul_div_mul_right _ _ hk, Nat.mul_mod_mul_right, hbelow, habove]

/-- **Rounding depends on the quotient alone.** -/
theorem roundUnits_mul_right (num den : Nat) {k : Nat} (hk : 0 < k) :
    roundUnits (num * k) (den * k) = roundUnits num den := by
  have hshift : ∀ shift, (den * k) <<< shift = (den <<< shift) * k := by
    intro shift
    rw [Nat.shiftLeft_eq, Nat.shiftLeft_eq, Nat.mul_right_comm]
  simp only [roundUnits, Nat.mul_div_mul_right _ _ hk, hshift, roundHalfEven_mul_right _ _ hk]

theorem nearest_mul_right (negative : Bool) (num den : Nat) {k : Nat} (hk : 0 < k) :
    nearest negative (num * k) (den * k) = nearest negative num den := by
  simp only [nearest, roundUnits_mul_right num den hk]

/-- A product with one, counted in units twice and divided by the units of one. -/
theorem nearest_mul_one (negative : Bool) (units : Nat) :
    nearest negative (units * one) one = nearest negative units 1 := by
  have hnearest := nearest_mul_right negative units 1 one_pos
  rwa [Nat.one_mul] at hnearest

/-- **Rounding leaves a count of units that fits as it is.** -/
theorem roundUnits_of_fits {units : Nat} (h : Fits units) : roundUnits units 1 = units := by
  have hrest : units % (1 <<< (units.log2 - 52)) = 0 := h.1
  -- nothing is left of the quotient, so it is neither above nor at a half
  have hround : roundHalfEven units (1 <<< (units.log2 - 52)) =
      units / (1 <<< (units.log2 - 52)) := by
    rw [roundHalfEven, hrest, if_pos (one_shiftLeft_pos _)]
  rw [roundUnits, Nat.div_one, hround, Nat.shiftLeft_eq, ← Nat.one_shiftLeft]
  exact Nat.div_mul_cancel (Nat.dvd_of_mod_eq_zero hrest)

/-- A count of units that fits is the nearest number to itself. -/
theorem nearest_of_fits {units : Nat} (negative : Bool) (h : Fits units) :
    nearest negative units 1 = .finite negative units h := by
  have hunits : roundUnits units 1 = units := roundUnits_of_fits h
  rw [nearest, dif_pos (by rw [hunits]; exact h.2)]
  simp only [hunits]

theorem nearest_zero (negative : Bool) (den : Nat) : nearest negative 0 den = zero negative := by
  have hround : roundUnits 0 den = 0 := by
    have hzero : roundHalfEven 0 (den <<< 0) = 0 := by
      rw [roundHalfEven, Nat.zero_div, Nat.zero_mod]
      split
      · rfl
      · split <;> omega
    rw [roundUnits, Nat.zero_div]
    simpa using hzero
  have hbelow : 0 < beyond := by decide +kernel
  rw [nearest, dif_pos (by rw [hround]; exact hbelow)]
  simp only [hround, zero]

/-- Up to 53 binary digits with zeros behind them fit, unless the zeros are too many. -/
theorem fits_shiftLeft {m shift : Nat} (hm : m ≤ 1 <<< 53) (hshift : shift ≤ 2044) :
    Fits (m <<< shift) := by
  refine ⟨mod_shiftLeft_eq_zero hm, ?_⟩
  have hmono : ∀ greater, shift ≤ greater → 1 <<< shift ≤ 1 <<< greater := by
    intro greater hgreater
    rw [Nat.one_shiftLeft, Nat.one_shiftLeft]
    exact Nat.pow_le_pow_right (by omega) hgreater
  have hbound : (1 <<< 53) * (1 <<< 2044) < beyond := by decide +kernel
  calc m <<< shift = m * (1 <<< shift) := by rw [Nat.shiftLeft_eq, Nat.one_shiftLeft]
    _ ≤ (1 <<< 53) * (1 <<< 2044) := Nat.mul_le_mul hm (hmono 2044 hshift)
    _ < beyond := hbound

/-- A natural of no more than 53 binary digits is a number of double precision. -/
theorem fits_mul_one {n : Nat} (h : n ≤ 1 <<< 53) : Fits (n * one) := by
  have hunits : n * one = n <<< 1074 := by
    rw [Nat.shiftLeft_eq, one, Nat.one_shiftLeft]
  rw [hunits]
  exact fits_shiftLeft h (by omega)

/-! ### Powers of ten -/

/-- **The powers of ten up to the twenty-second are exact**: their fives need no more than 53 binary
digits. -/
theorem tenPower_eq {power : Nat} (h : power ≤ 22) : tenPower power = Nat.pow 10 power * one := by
  have hfives : Nat.pow 5 power ≤ 1 <<< 53 := by
    have hmax : Nat.pow 5 22 ≤ 1 <<< 53 := by decide
    exact Nat.le_trans (Nat.pow_le_pow_right (by omega) h) hmax
  have hunits : Nat.pow 10 power * one = Nat.pow 5 power <<< (power + 1074) := by
    have hten : Nat.pow 10 power = Nat.pow 5 power * Nat.pow 2 power := Nat.mul_pow 5 2 power
    rw [hten, one, Nat.one_shiftLeft, Nat.shiftLeft_eq, Nat.pow_add, Nat.mul_assoc]
    rfl
  rw [tenPower, hunits]
  exact roundUnits_of_fits (fits_shiftLeft hfives (by omega))

/-- Rounding takes away less than half of a natural. -/
theorem le_two_mul_roundUnits (n : Nat) : n ≤ 2 * roundUnits n 1 := by
  have hpos : 0 < 1 <<< (n.log2 - 52) := one_shiftLeft_pos _
  have hround : n / (1 <<< (n.log2 - 52)) ≤ roundHalfEven n (1 <<< (n.log2 - 52)) := by
    unfold roundHalfEven
    simp only
    split
    · exact Nat.le_refl _
    · split <;> omega
  have hunits : roundUnits n 1 =
      roundHalfEven n (1 <<< (n.log2 - 52)) * (1 <<< (n.log2 - 52)) := by
    rw [roundUnits, Nat.div_one, Nat.shiftLeft_eq, ← Nat.one_shiftLeft]
  have hwhole := Nat.mul_le_mul_right (1 <<< (n.log2 - 52)) hround
  have hsplit := Nat.div_add_mod' n (1 <<< (n.log2 - 52))
  have hrest := Nat.mod_lt n hpos
  rw [hunits]
  by_cases hzero : n = 0
  · omega
  · -- what is cut off is below the leading digit
    have hlead : 1 <<< (n.log2 - 52) ≤ n := by
      rw [Nat.one_shiftLeft]
      exact Nat.le_trans (Nat.pow_le_pow_right (by omega) (Nat.sub_le _ _))
        (Nat.log2_self_le hzero)
    have hquotient : 1 ≤ n / (1 <<< (n.log2 - 52)) := (Nat.one_le_div_iff hpos).2 hlead
    have hone := Nat.mul_le_mul_right (1 <<< (n.log2 - 52)) hquotient
    omega

/-- Every power of ten but the first is at least four, rounded as it is. -/
theorem four_mul_one_le_tenPower {power : Nat} (h : 0 < power) : 4 * one ≤ tenPower power := by
  have hten : 10 ≤ Nat.pow 10 power := Nat.le_self_pow (Nat.ne_of_gt h) 10
  have hmul := Nat.mul_le_mul_right one hten
  have hhalf := le_two_mul_roundUnits (Nat.pow 10 power * one)
  rw [tenPower]
  omega

/-! ### Scaling -/

/-- A division by a power of ten leaves less than there was. -/
theorem roundUnits_div_tenPower_lt {units power : Nat} (hunits : units < beyond)
    (hpower : 0 < power) : roundUnits (units * one) (tenPower power) < beyond := by
  have hquarter : units * one / tenPower power ≤ units / 4 := by
    calc units * one / tenPower power
        ≤ units * one / (4 * one) :=
          Nat.div_le_div_left (four_mul_one_le_tenPower hpower) (Nat.mul_pos (by omega) one_pos)
      _ = units / 4 := Nat.mul_div_mul_right units 4 one_pos
  have hround := roundUnits_le (units * one) (tenPower power)
  have hbeyond : 4 < beyond := by decide +kernel
  omega

/-- **Dividing by a power of ten stays in range**, in however many steps. -/
theorem isFinite_scaledDown (negative : Bool) {units power : Nat} (hunits : units < beyond)
    (hpower : 0 < power) : (scaledDown negative units power).isFinite = true := by
  induction units, power using scaledDown.induct with
  | case1 units power hsmall =>
      rw [scaledDown, if_pos hsmall, nearest,
        dif_pos (roundUnits_div_tenPower_lt hunits hpower)]
      rfl
  | case2 power hlarge =>
      rw [scaledDown, if_neg hlarge, if_pos rfl]
      rfl
  | case3 units power hlarge hzero ih =>
      rw [scaledDown, if_neg hlarge, if_neg hzero]
      have hmax : 0 < maxTenPower := by decide
      exact ih (roundUnits_div_tenPower_lt hunits hmax) (by omega)

/-- **A power of ten that is not above zero takes no word out of range.** -/
theorem isFinite_scaled (negative : Bool) {word : Nat} (hword : word ≤ maxWord) {exponent : Int}
    (hexponent : exponent ≤ 0) : (scaled negative word exponent).isFinite = true := by
  have hbound : 2 * (maxWord * one) + 1 < beyond := by decide +kernel
  have hunits : roundUnits (word * one) 1 < beyond := by
    have hround := roundUnits_le (word * one) 1
    have hmul := Nat.mul_le_mul_right one hword
    rw [Nat.div_one] at hround
    omega
  unfold scaled
  simp only
  by_cases hbelow : exponent < 0
  · rw [if_pos hbelow]
    exact isFinite_scaledDown negative hunits (by omega)
  · obtain rfl : exponent = 0 := by omega
    have htenPower : tenPower (0 : Int).natAbs = 1 * one := tenPower_eq (by omega)
    have hwhole : roundUnits (word * one) 1 * tenPower (0 : Int).natAbs =
        roundUnits (word * one) 1 * one := by rw [htenPower, Nat.one_mul]
    rw [if_neg hbelow, if_pos (by decide), hwhole, nearest_mul_one,
      nearest_of_fits negative (fits_roundUnits _ _ hunits)]
    rfl

/-- The digits that a double holds exactly are no more than sixteen. -/
theorem digitCount_le {n : Nat} (h : n ≤ 1 <<< 53) : digitCount n ≤ 16 := by
  have hmax : 1 <<< 53 < 10 ^ 16 := by decide
  rw [digitCount]
  split
  · omega
  · exact (Nat.length_toDigits_le_iff (by omega) (by omega)).2 (Nat.lt_of_le_of_lt h hmax)

/-- **Short digits and small powers are exact**, so that nothing is rounded before the last step. -/
theorem scaled_eq_nearest (negative : Bool) {digits : Nat} (hdigits : digits ≤ 1 <<< 53)
    {exponent : Int} (hexponent : exponent.natAbs ≤ 22) :
    scaled negative digits exponent =
      nearest negative (digits * one * Nat.pow 10 exponent.toNat)
        (Nat.pow 10 (-exponent).toNat) := by
  have hunits : roundUnits (digits * one) 1 = digits * one :=
    roundUnits_of_fits (fits_mul_one hdigits)
  have htenPower : tenPower exponent.natAbs = Nat.pow 10 exponent.natAbs * one :=
    tenPower_eq hexponent
  have hmax : 22 ≤ maxTenPower := by decide
  rw [scaled, hunits, htenPower]
  by_cases hbelow : exponent < 0
  · -- the digits are divided by the power, both counted in the same unit
    have hsize : (-exponent).toNat = exponent.natAbs := by omega
    have hnone : exponent.toNat = 0 := by omega
    have hsmall : exponent.natAbs ≤ maxTenPower := by omega
    have hunit : digits * one * Nat.pow 10 0 = digits * one := Nat.mul_one _
    rw [if_pos hbelow, scaledDown, if_pos hsmall, htenPower, nearest_mul_right negative _ _ one_pos,
      hsize, hnone, hunit]
  · have hsize : exponent.toNat = exponent.natAbs := by omega
    have hnone : (-exponent).toNat = 0 := by omega
    have hsmall : exponent ≤ maxTenPower := by omega
    have hproduct : digits * one * (Nat.pow 10 exponent.natAbs * one) =
        digits * one * Nat.pow 10 exponent.natAbs * one := (Nat.mul_assoc _ _ _).symm
    rw [if_neg hbelow, if_pos hsmall, hproduct, nearest_mul_one, hsize, hnone]

/-- **Short digits and small powers are scaled to the nearest number.** -/
theorem scaled_eq_ofDecimal (negative : Bool) {digits : Nat} (hdigits : digits ≤ 1 <<< 53)
    {exponent : Int} (hexponent : exponent.natAbs ≤ 22) :
    scaled negative digits exponent = ofDecimal negative digits exponent := by
  rw [scaled_eq_nearest negative hdigits hexponent, ofDecimal]
  by_cases hzero : digits = 0
  · rw [if_pos (Or.inl hzero), hzero, Nat.zero_mul, Nat.zero_mul]
    exact nearest_zero negative _
  · have hcount := digitCount_le hdigits
    rw [if_neg (by omega), if_neg (by omega)]

end Number

/-! ### Digits -/

/-- The natural that decimal digits behind another natural make up with it. -/
def Numeral.continued (n : Nat) (ds : List Char) : Nat :=
  ds.foldl (fun n d => 10 * n + (d.toNat - '0'.toNat)) n

theorem Numeral.natOfDigits_append (ds es : List Char) :
    natOfDigits (ds ++ es) = continued (natOfDigits ds) es :=
  List.foldl_append

theorem Numeral.le_continued (ds : List Char) (n : Nat) : n ≤ continued n ds := by
  induction ds generalizing n with
  | nil => exact Nat.le_refl n
  | cons d ds ih =>
      have hrest : 10 * n + (d.toNat - '0'.toNat) ≤ continued n (d :: ds) := ih _
      omega

namespace Number

/-- Digits that make up no more than a word are all taken. -/
theorem takeDigits_of_le (ds : List Char) {word : Nat} (h : Numeral.continued word ds ≤ maxWord) :
    takeDigits word ds = (Numeral.continued word ds, 0) := by
  induction ds generalizing word with
  | nil => rfl
  | cons d ds ih =>
      have hrest : Numeral.continued (10 * word + (d.toNat - '0'.toNat)) ds ≤ maxWord := h
      have hnext := Nat.le_trans (Numeral.le_continued ds _) hrest
      rw [takeDigits]
      rw [if_pos hnext, ih hrest]
      rfl

/-- What is taken is a word, and no more digits are left out than there are. -/
theorem takeDigits_bounds (ds : List Char) {word : Nat} (h : word ≤ maxWord) :
    (takeDigits word ds).1 ≤ maxWord ∧ (takeDigits word ds).2 ≤ ds.length := by
  induction ds generalizing word with
  | nil => exact ⟨h, Nat.le_refl 0⟩
  | cons d ds ih =>
      rw [takeDigits]
      by_cases hnext : 10 * word + (d.toNat - '0'.toNat) ≤ maxWord
      · rw [if_pos hnext]
        obtain ⟨hword, hleft⟩ := ih hnext
        exact ⟨hword, Nat.le_succ_of_le hleft⟩
      · rw [if_neg hnext]
        exact ⟨h, Nat.le_refl _⟩

end Number

/-! ### Numerals -/

/-- **A short numeral is read as the number nearest to it**: its digits make up no more than
`2 ^ 53`, and its power of ten is at most the twenty-second. -/
theorem Json.Literal.toNumber_eq_value (literal : Json.Literal)
    (hdigits : Numeral.natOfDigits (literal.before ++ literal.behind) ≤ 1 <<< 53)
    (hpower : (literal.power - literal.behind.length).natAbs ≤ 22) :
    literal.toNumber =
      (Numeral.ofParts literal.negative literal.before literal.behind literal.power).value := by
  have hmax : 1 <<< 53 ≤ Number.maxWord := by decide
  have hall := Nat.le_trans hdigits hmax
  rw [Numeral.natOfDigits_append] at hall
  have hbefore : Number.takeDigits 0 literal.before = (Numeral.natOfDigits literal.before, 0) :=
    Number.takeDigits_of_le _ (Nat.le_trans (Numeral.le_continued literal.behind _) hall)
  have hbehind := Number.takeDigits_of_le literal.behind hall
  rw [← Numeral.natOfDigits_append] at hbehind
  have hnumber : literal.toNumber = Number.scaled literal.negative
      (Numeral.natOfDigits (literal.before ++ literal.behind))
      (literal.power - literal.behind.length) := by
    rw [toNumber, hbefore]
    simp only [hbehind]
    congr 1
    omega
  rw [hnumber]
  exact Number.scaled_eq_ofDecimal literal.negative hdigits hpower

/-- Beyond these bounds a neighbour of the nearest number may be read, as for `1.1e-30`. -/
theorem Json.Literal.exists_toNumber_ne_value : ∃ literal : Json.Literal, literal.toNumber ≠
    (Numeral.ofParts literal.negative literal.before literal.behind literal.power).value := by
  refine ⟨⟨false, ['1'], ['1'], -30, false⟩, ?_⟩
  have hscaled : toNumber ⟨false, ['1'], ['1'], -30, false⟩ =
      Number.nearest false (11 * Number.one * Number.one) (Number.tenPower 31) := by
    have hunits : Number.roundUnits (11 * Number.one) 1 = 11 * Number.one :=
      Number.roundUnits_of_fits (Number.fits_mul_one (by decide))
    have hbelow : ((-31 : Int) < 0) := by decide
    have hsmall : (-31 : Int).natAbs ≤ Number.maxTenPower := by decide
    calc toNumber ⟨false, ['1'], ['1'], -30, false⟩
        = Number.scaled false 11 (-31) := rfl
      _ = Number.nearest false (11 * Number.one * Number.one) (Number.tenPower 31) := by
        rw [Number.scaled, hunits, if_pos hbelow, Number.scaledDown, if_pos hsmall]
        rfl
  rw [hscaled]
  decide +kernel

/-- **A numeral is out of range only for its exponent or for the digits before its point**: if the
former is not above zero and the latter make up a word, then the numeral has a value. -/
theorem JsonNumber.isSome_ofLiteral? (literal : Json.Literal)
    (hword : Numeral.natOfDigits literal.before ≤ Number.maxWord) (hpower : literal.power ≤ 0) :
    (JsonNumber.ofLiteral? literal).isSome = true := by
  have hbefore : Number.takeDigits 0 literal.before = (Numeral.natOfDigits literal.before, 0) :=
    Number.takeDigits_of_le literal.before hword
  obtain ⟨hbound, hleft⟩ := Number.takeDigits_bounds literal.behind hword
  have hfinite : literal.toNumber.isFinite = true := by
    rw [Json.Literal.toNumber, hbefore]
    exact Number.isFinite_scaled literal.negative hbound (by omega)
  have hnumber : JsonNumber.ofNumber? literal.toNumber = some (.real literal.toNumber hfinite) := by
    rw [JsonNumber.ofNumber?, dif_pos hfinite]
  simp only [JsonNumber.ofLiteral?, hnumber, Option.isSome_or, Option.isSome_some, Bool.or_true]

end Questionnaire
