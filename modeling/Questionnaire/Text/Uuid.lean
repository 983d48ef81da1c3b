/-
**Random identifiers.**

Main definition:

* `Questionnaire.uuidText` — the text of a random identifier (version 4) of 128 bits.
-/

set_option autoImplicit false

namespace Questionnaire

/-- The lowest `width` hexadecimal digits of a natural. -/
def lowHexDigits : Nat → Nat → List Char
  | 0, _ => []
  | width + 1, n => lowHexDigits width (n / 16) ++ [Nat.digitChar (n % 16)]

/-- The text of a random identifier.  The first digit of the third group says the version, and the
first of the fourth group has its two highest bits fixed. -/
def uuidText (n : Nat) : String :=
  let group (shift width : Nat) := String.ofList (lowHexDigits width (n >>> shift))
  let variant := Nat.digitChar (8 + (n >>> 62) % 4)
  "-".intercalate [group 96 8, group 80 4, "4" ++ group 64 3,
    String.ofList [variant] ++ group 48 3, group 0 12]

/-- There are as many digits as asked for. -/
theorem length_lowHexDigits (width n : Nat) : (lowHexDigits width n).length = width := by
  induction width generalizing n with
  | zero => rfl
  | succ width ih => simp [lowHexDigits, ih]

end Questionnaire
