/-
**The emails of contact forms.**

The email of a contact form has to have an at sign, unless it is left out.  What counts as left out
is decided by the form, for which nothing, null and a blank text are no answer to a required field;
what is looked at for an at sign is decided by the form of contacts, which looks at texts only.
The two do not cover all values between them: a number, a truth value, a list or a record is
neither left out nor looked at, so it passes for an email.

Main definition:

* `Questionnaire.EmailChecked` — the email of a record is left out, or a text with an at sign.

Main results:

* `Questionnaire.Kind.accept_contactForm_eq_ok_iff` — what a contact form accepts, and what it
  stores;
* `Questionnaire.emailChecked_iff` — what is accepted has a checked email if it has a text for one,
  or none;
* `Questionnaire.Kind.contactForm_checks_texts_only` — **the emails that are checked are the
  texts**, and every contact form accepts every other value as an email.
-/

import Questionnaire.Proofs.Session.Shape

set_option autoImplicit false

namespace Questionnaire

variable {fields : List FormField} {answer : Value} {stored : Option Value}
  {entries : List (String × Value)}

/-- **The email of a record is left out, or it is a text with an at sign.** -/
def EmailChecked (entries : Keyed Value) : Prop :=
  Filled entries "email" →
    ∃ email, entries.get? "email" = some (.text email) ∧ '@' ∈ email.toList

/-! ### What a contact form accepts -/

/-- **A form of contacts is accepted** exactly if it is a form whose email has an at sign if it is a
text that is not blank. -/
theorem acceptContact_eq_ok_iff :
    acceptContact fields answer = .ok entries ↔
      acceptForm fields answer = .ok entries ∧
        ∀ email, Keyed.get? entries "email" = some (.text email) →
          isBlankText email = true ∨ '@' ∈ email.toList := by
  refine ⟨acceptContact_spec, ?_⟩
  rintro ⟨hform, hemail⟩
  unfold acceptContact
  rw [hform]
  dsimp only
  split
  · rename_i email hget
    rcases hemail email hget with hblank | hat
    · simp [hblank]
    · simp [hat]
  · rfl

/-- **What a contact form accepts**: a record in which the required fields are filled, and the email
has an at sign if it is a text that is not blank.  The record is stored as it is. -/
theorem Kind.accept_contactForm_eq_ok_iff :
    (Kind.contactForm fields).accept answer = .ok stored ↔
      ∃ entries, answer = .record entries ∧ stored = some (.record entries) ∧
        (∀ field ∈ fields, field.required = true → Filled entries field.id) ∧
        ∀ email, Keyed.get? entries "email" = some (.text email) →
          isBlankText email = true ∨ '@' ∈ email.toList := by
  constructor
  · intro h
    obtain ⟨entries, hentries, rfl⟩ := map_eq_ok_iff.1 h
    obtain ⟨hform, hemail⟩ := acceptContact_eq_ok_iff.1 hentries
    obtain ⟨rfl, hfilled⟩ := acceptForm_eq_ok_iff.1 hform
    exact ⟨entries, rfl, rfl, hfilled, hemail⟩
  · rintro ⟨entries, rfl, rfl, hfilled, hemail⟩
    have hentries := acceptContact_eq_ok_iff.2 ⟨acceptForm_eq_ok_iff.2 ⟨rfl, hfilled⟩, hemail⟩
    rw [accept, hentries]
    rfl

/-! ### What is checked -/

/-- Among records whose email has an at sign if it is a visible text, those with a checked email are
those that have a text for it, null, or nothing. -/
theorem emailChecked_iff
    (hemail : ∀ email, Keyed.get? entries "email" = some (.text email) →
      isBlankText email = true ∨ '@' ∈ email.toList) :
    EmailChecked entries ↔ ∀ value, Keyed.get? entries "email" = some value →
      value = .null ∨ ∃ email, value = .text email := by
  constructor
  · intro hchecked value hget
    by_cases hnull : value = .null
    · exact .inl hnull
    · by_cases htext : ∃ email, value = .text email
      · exact .inr htext
      · -- such a value is not left out, so the check would have to find a text
        have hfilled : Filled entries "email" :=
          ⟨value, hget, hnull, fun s hs => absurd ⟨s, hs⟩ htext⟩
        obtain ⟨email, hget', -⟩ := hchecked hfilled
        exact .inr ⟨email, Option.some.inj (hget.symm.trans hget')⟩
  · rintro htexts ⟨value, hget, hnull, hvisible⟩
    rcases htexts value hget with rfl | ⟨email, rfl⟩
    · exact absurd rfl hnull
    · rcases hemail email hget with hblank | hat
      · rw [hvisible email rfl] at hblank
        cases hblank
      · exact ⟨email, hget, hat⟩

/-- A record that has a value for an email and a visible text under the id of every field. -/
def contactWith (fields : List FormField) (email : Value) : Keyed Value :=
  (Keyed.filled (fields.map FormField.id) (.text "@")).insert "email" email

theorem ordered_contactWith {email : Value} (h : email.Ordered) (fields : List FormField) :
    (Value.record (contactWith fields email)).Ordered := by
  obtain ⟨hincreasing, hentries⟩ := Kind.ordered_filled fields
  refine ⟨hincreasing.insert _ _, Value.orderedEntries_iff.2 fun entry hmem => ?_⟩
  rcases Keyed.eq_or_mem_of_mem_insert hmem with rfl | hmem
  · exact h
  · exact Value.orderedEntries_iff.1 hentries entry hmem

/-- Every field is filled, that for the email if its value is not left out. -/
theorem filled_contactWith {email : Value} (hnull : email ≠ .null)
    (hvisible : ∀ s, email = .text s → isBlankText s = false) {field : FormField}
    (hmem : field ∈ fields) : Filled (contactWith fields email) field.id := by
  unfold Filled contactWith
  rw [Keyed.get?_insert]
  split
  · exact ⟨email, rfl, hnull, hvisible⟩
  · rw [Keyed.get?_filled, if_pos (List.mem_map_of_mem hmem)]
    refine ⟨.text "@", rfl, nofun, ?_⟩
    rintro s ⟨⟩
    decide +kernel

/-- **The emails that are checked are the texts.**  What a contact form accepts is a record, which
is stored as it is; its email is checked exactly if the record has a text for it, null, or nothing.
And every contact form accepts every value that is neither null nor a text as an email. -/
theorem Kind.contactForm_checks_texts_only (fields : List FormField) :
    (∀ answer stored, (Kind.contactForm fields).accept answer = .ok stored →
      ∃ entries, answer = .record entries ∧ stored = some (.record entries) ∧
        (EmailChecked entries ↔ ∀ value, Keyed.get? entries "email" = some value →
          value = .null ∨ ∃ email, value = .text email)) ∧
    ∀ value : Value, value.Ordered → value ≠ .null → (∀ email, value ≠ .text email) →
      ∃ entries, (Value.record entries).Ordered ∧ Keyed.get? entries "email" = some value ∧
        (Kind.contactForm fields).accept (.record entries) = .ok (some (.record entries)) := by
  constructor
  · intro answer stored haccept
    obtain ⟨entries, rfl, rfl, -, hemail⟩ := accept_contactForm_eq_ok_iff.1 haccept
    exact ⟨entries, rfl, rfl, emailChecked_iff hemail⟩
  · intro value hordered hnull hother
    have hget : Keyed.get? (contactWith fields value) "email" = some value :=
      Keyed.get?_insert_self _ _ _
    refine ⟨contactWith fields value, ordered_contactWith hordered fields, hget, ?_⟩
    refine accept_contactForm_eq_ok_iff.2
      ⟨_, rfl, rfl, fun field hmem _ => ?_, fun email htext => ?_⟩
    · exact filled_contactWith hnull (fun s hs => absurd hs (hother s)) hmem
    · exact absurd (Option.some.inj (hget.symm.trans htext)) (hother email)

/-- A contact form that asks for an email takes a number for one. -/
theorem Kind.number_passes_for_email :
    let fields : List FormField := [⟨"email", "Email", true⟩]
    let entries : List (String × Value) := [("email", .number (.ofNat 5))]
    (∃ field ∈ fields, field.id = "email" ∧ field.required = true) ∧
      (Kind.contactForm fields).accept (.record entries) = .ok (some (.record entries)) ∧
      ¬ EmailChecked entries := by
  intro fields entries
  refine ⟨⟨_, List.mem_singleton_self _, rfl, rfl⟩, rfl, fun hchecked => ?_⟩
  obtain ⟨email, hget, -⟩ := hchecked ⟨.number (.ofNat 5), rfl, nofun, nofun⟩
  cases hget

end Questionnaire
