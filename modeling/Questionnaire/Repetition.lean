/-
**Texts that occur again.**

Main definition:

* `Questionnaire.repeated` — the texts that occur more than once, each once.

Main results:

* `Questionnaire.mem_repeated_iff` — a text is listed exactly when it occurs at least twice;
* `Questionnaire.repeated_eq_nil_iff` — nothing is listed exactly when the texts all differ;
* `Questionnaire.nodup_repeated` — no text is listed twice.
-/

set_option autoImplicit false

namespace Questionnaire

/-- The texts that occur again behind those that were seen and those that were listed already. -/
def repeatedAfter (seen listed : List String) : List String → List String
  | [] => []
  | s :: rest =>
    if s ∈ seen then
      if s ∈ listed then repeatedAfter seen listed rest
      else s :: repeatedAfter seen (s :: listed) rest
    else repeatedAfter (s :: seen) listed rest

/-- The texts that occur more than once, each once and in the order of their second
occurrences. -/
def repeated (texts : List String) : List String := repeatedAfter [] [] texts

theorem mem_repeatedAfter_iff {seen listed texts : List String} {s : String} :
    s ∈ repeatedAfter seen listed texts ↔
      s ∉ listed ∧ (s ∈ seen ∧ s ∈ texts ∨ 2 ≤ texts.count s) := by
  induction texts generalizing seen listed with
  | nil => simp [repeatedAfter]
  | cons t rest ih =>
      by_cases hseen : t ∈ seen
      · by_cases hlisted : t ∈ listed
        · simp only [repeatedAfter, hseen, hlisted, if_true, ih, List.mem_cons, List.count_cons]
          by_cases hst : s = t
          · subst hst
            simp [hlisted]
          · have hts : (t == s) = false := by simpa using Ne.symm hst
            simp [hst, hts]
        · simp only [repeatedAfter, hseen, hlisted, if_true, if_false, List.mem_cons, ih,
            List.count_cons]
          by_cases hst : s = t
          · subst hst
            simp [hlisted, hseen]
          · have hts : (t == s) = false := by simpa using Ne.symm hst
            simp [hst, hts]
      · simp only [repeatedAfter, hseen, if_false, ih, List.mem_cons, List.count_cons]
        by_cases hst : s = t
        · subst hst
          have hpos : 1 ≤ rest.count s ↔ s ∈ rest := List.one_le_count_iff
          simp only [true_or, true_and, hseen, false_and, false_or, beq_self_eq_true, if_true]
          refine and_congr_right fun _ => ?_
          rw [← hpos]
          omega
        · have hts : (t == s) = false := by simpa using Ne.symm hst
          simp [hst, hts]

/-- **A text is listed exactly when it occurs at least twice.** -/
theorem mem_repeated_iff {texts : List String} {s : String} :
    s ∈ repeated texts ↔ 2 ≤ texts.count s := by
  simp [repeated, mem_repeatedAfter_iff]

example : repeated ["a", "b", "b", "a", "b"] = ["b", "a"] := by decide +kernel

/-- Nothing is listed exactly when the texts all differ. -/
theorem repeated_eq_nil_iff {texts : List String} : repeated texts = [] ↔ texts.Nodup := by
  rw [List.eq_nil_iff_forall_not_mem, List.nodup_iff_count]
  refine forall_congr' fun s => ?_
  rw [mem_repeated_iff]
  omega

theorem nodup_repeatedAfter (seen listed texts : List String) :
    (repeatedAfter seen listed texts).Nodup := by
  induction texts generalizing seen listed with
  | nil => exact List.nodup_nil
  | cons s rest ih =>
      unfold repeatedAfter
      split
      · split
        · exact ih seen listed
        · -- what is listed behind `s` is not among the texts that were listed before
          refine List.nodup_cons.2 ⟨?_, ih seen (s :: listed)⟩
          simp [mem_repeatedAfter_iff]
      · exact ih (s :: seen) listed

/-- **No text is listed twice.** -/
theorem nodup_repeated (texts : List String) : (repeated texts).Nodup :=
  nodup_repeatedAfter [] [] texts

end Questionnaire
