/-
**Blank characters and trimming.**

A character is blank when it has the Unicode property `White_Space`.  Trimming, the test for a
blank text and every rule of the library that speaks of white space go through this one class.

Main definitions:

* `Questionnaire.isBlank` — the class of blank characters;
* `Questionnaire.trim` — a text without the blanks at its two ends;
* `Questionnaire.isBlankText` — a text of blanks only.

Main results:

* `Questionnaire.trimChars_eq_nil_iff` — trimming leaves nothing of the blank texts, and of no
  others;
* `Questionnaire.trimChars_trimChars`, `Questionnaire.trim_trim` — what was trimmed has no blanks
  left to trim.
-/

set_option autoImplicit false

namespace Questionnaire

/-- The characters with the Unicode property `White_Space`. -/
def isBlank (c : Char) : Bool :=
  let n := c.toNat
  (0x09 ≤ n && n ≤ 0x0D) || n == 0x20 || n == 0x85 || n == 0xA0 || n == 0x1680 ||
    (0x2000 ≤ n && n ≤ 0x200A) || n == 0x2028 || n == 0x2029 || n == 0x202F || n == 0x205F ||
    n == 0x3000

/-- The characters of a text without the blanks at its two ends. -/
def trimChars (cs : List Char) : List Char :=
  ((cs.dropWhile isBlank).reverse.dropWhile isBlank).reverse

/-- A text without the blanks at its two ends. -/
def trim (s : String) : String := String.ofList (trimChars s.toList)

/-- A text is blank when all its characters are: the empty text is. -/
def isBlankText (s : String) : Bool := s.toList.all isBlank

private theorem dropWhile_eq_nil_iff (p : Char → Bool) (cs : List Char) :
    cs.dropWhile p = [] ↔ cs.all p = true := by
  induction cs with
  | nil => simp
  | cons c cs ih => cases h : p c <;> simp [h, ih]

private theorem all_dropWhile (p : Char → Bool) (cs : List Char) :
    (cs.dropWhile p).all p = cs.all p := by
  induction cs with
  | nil => rfl
  | cons c cs ih => cases h : p c <;> simp [h, ih]

/-- A text is blank exactly when trimming leaves nothing of it. -/
theorem trimChars_eq_nil_iff (cs : List Char) : trimChars cs = [] ↔ cs.all isBlank = true := by
  rw [trimChars, List.reverse_eq_nil_iff, dropWhile_eq_nil_iff, List.all_reverse, all_dropWhile]

/-- What is left at the front of what `dropWhile` leaves begins with no such character either. -/
private theorem dropWhile_eq_self_of_prefix {p : Char → Bool} {front cs : List Char}
    (h : front <+: cs.dropWhile p) : front.dropWhile p = front := by
  cases front with
  | nil => rfl
  | cons c rest =>
      obtain ⟨behind, hcs⟩ := h
      have hhead := List.head?_dropWhile_not p cs
      rw [← hcs] at hhead
      exact List.dropWhile_cons_of_neg (by simpa using hhead)

/-- **Trimming leaves no blanks at the two ends.** -/
theorem trimChars_trimChars (cs : List Char) : trimChars (trimChars cs) = trimChars cs := by
  -- what is trimmed at its end still begins as it did before
  have hfront : trimChars cs <+: cs.dropWhile isBlank := by
    have hend := List.reverse_prefix.2 (List.dropWhile_suffix (l := (cs.dropWhile isBlank).reverse)
      isBlank)
    rwa [List.reverse_reverse] at hend
  have hback : (trimChars cs).reverse = (cs.dropWhile isBlank).reverse.dropWhile isBlank :=
    List.reverse_reverse _
  rw [trimChars, dropWhile_eq_self_of_prefix hfront, hback,
    dropWhile_eq_self_of_prefix (List.prefix_refl _), ← hback, List.reverse_reverse]

@[simp] theorem trim_trim (s : String) : trim (trim s) = trim s := by
  simp only [trim, String.toList_ofList, trimChars_trimChars]

end Questionnaire
