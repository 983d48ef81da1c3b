/-
**The shape of stored answers.**

What an answer may look like and what is stored of it are two matters: a text may answer a question
for a number, and the id of an option stands for the value of the option.  This module says of each
kind of question what it stores, apart from how answers are read, and shows that no other value is
ever stored.  Since a variable may be declared by several questions of different kinds, a stored
value has the shape of one of them.

Main definitions:

* `Questionnaire.Filled` — whether a record has an entry that is not left out;
* `Questionnaire.Kind.Admits` — **the values that a kind of question stores**.

Main results:

* `Questionnaire.acceptNumber_eq_ok_iff`, `Questionnaire.acceptForm_eq_ok_iff` — what is accepted as
  a number and as a form;
* `Questionnaire.acceptItems_spec` — selected options are options, and none is selected twice;
* `Questionnaire.Kind.admits_of_accept` — **what an accepted answer stores has the shape of its
  kind**;
* `Questionnaire.Session.stored_values_have_shape_along_runs` — **along every run, so has everything
  that is stored**.
-/

import Questionnaire.Proofs.Answerable
import Questionnaire.Proofs.Session.Bindings

set_option autoImplicit false

namespace Questionnaire

/-! ### Shapes -/

/-- Whether a record has a value under an id that is neither null nor a blank text. -/
def Filled (entries : Keyed Value) (id : String) : Prop :=
  ∃ value, entries.get? id = some value ∧ value ≠ .null ∧
    ∀ s, value = .text s → isBlankText s = false

namespace Kind

/-- **The values that a kind of question stores.** -/
inductive Admits : Kind → Value → Prop where
  | text {limit : Option Nat} {s : String} (hvisible : isBlankText s = false)
      (hlimit : ∀ n ∈ limit, s.length ≤ n) :
      Admits (.textInput limit) (.text s)
  | number {min max : Option Number} {x : Number} (hfinite : x.isFinite = true)
      (hmin : ∀ bound ∈ min, x.less bound = false) (hmax : ∀ bound ∈ max, bound.less x = false) :
      Admits (.numberInput min max) (.number x)
  | choice {choices : List Choice} {choice : Choice} (hmem : choice ∈ choices) :
      Admits (.singleChoice choices) choice.value
  | step {choices : List Choice} {choice : Choice} (hmem : choice ∈ choices) :
      Admits (.scale choices) choice.value
  | selection {choices selected : List Choice} {limit : Option Nat} (hne : selected ≠ [])
      (hmem : ∀ choice ∈ selected, choice ∈ choices) (hnodup : (selected.map Choice.id).Nodup)
      (hlimit : ∀ n ∈ limit, selected.length ≤ n) :
      Admits (.multiChoice choices limit) (.list (selected.map Choice.value))
  | truth {b : Bool} : Admits .yesNo (.bool b)
  | recording {url : Option String} {s : String} (hvisible : isBlankText s = false) :
      Admits (.video url) (.text s)
  | contact {fields : List FormField} {entries : List (String × Value)}
      (hfilled : ∀ field ∈ fields, field.required = true → Filled entries field.id)
      (hemail : ∀ email, Keyed.get? entries "email" = some (.text email) →
        isBlankText email = true ∨ '@' ∈ email.toList) :
      Admits (.contactForm fields) (.record entries)
  | person {fields : List FormField} {entries : List (String × Value)}
      (hfilled : ∀ field ∈ fields, field.required = true → Filled entries field.id) :
      Admits (.demographics fields) (.record entries)

end Kind

/-! ### Numbers -/

theorem Value.isFinite_of_numeric? {value : Value} {x : Number} (h : value.numeric? = some x) :
    x.isFinite = true := by
  cases value with
  | number y =>
      rw [numeric?] at h
      split at h
      · rename_i hfinite
        cases h
        exact hfinite
      · cases h
  | text s => exact (Option.filter_eq_some_iff.1 h).2
  | null | bool | list | record => cases h

/-- **A number is accepted** when the answer counts as one that is on neither wrong side. -/
theorem acceptNumber_eq_ok_iff {min max : Option Number} {answer : Value} {x : Number} :
    acceptNumber min max answer = .ok x ↔ answer.numeric? = some x ∧
      (∀ bound ∈ min, x.less bound = false) ∧ ∀ bound ∈ max, bound.less x = false := by
  have hrange : ∀ y : Number, (min.any y.less || max.any (·.less y)) = false ↔
      (∀ bound ∈ min, y.less bound = false) ∧ ∀ bound ∈ max, bound.less y = false := by
    intro y
    cases min <;> cases max <;> simp
  unfold acceptNumber
  cases hnumber : answer.numeric? with
  | none => simp
  | some y =>
      dsimp only
      split
      · rename_i hout
        constructor
        · intro h
          cases h
        · rintro ⟨heq, hinside⟩
          cases heq
          rw [(hrange x).2 hinside] at hout
          cases hout
      · rename_i hinside
        rw [Except.ok.injEq, Option.some.injEq, ← hrange]
        constructor
        · rintro rfl
          exact ⟨rfl, Bool.eq_false_iff.2 hinside⟩
        · exact And.left

/-! ### Options -/

/-- The option that is accepted is the one that the answer means. -/
theorem acceptChoice_eq_ok_iff {choices : List Choice} {answer : Value} {choice : Choice} :
    acceptChoice choices answer = .ok choice ↔ chosen? choices answer = some choice := by
  unfold acceptChoice
  cases chosen? choices answer <;> simp

theorem mem_of_acceptChoice {choices : List Choice} {answer : Value} {choice : Choice}
    (h : acceptChoice choices answer = .ok choice) : choice ∈ choices :=
  mem_of_chosen? (acceptChoice_eq_ok_iff.1 h)

/-- **Selected options are options, and none is selected twice**, neither among the items nor before
them. -/
theorem acceptItems_spec {choices : List Choice} {items : List Value} {earlier : List String}
    {selected : List Choice} (h : acceptItems choices earlier items = .ok selected) :
    selected.length = items.length ∧ (∀ choice ∈ selected, choice ∈ choices) ∧
      (selected.map Choice.id).Nodup ∧ ∀ choice ∈ selected, choice.id ∉ earlier := by
  induction items generalizing earlier selected with
  | nil =>
      cases h
      simp
  | cons item items ih =>
      rw [acceptItems] at h
      split at h
      · cases h
      · rename_i choice hchoice
        split at h
        · cases h
        · rename_i hnew
          obtain ⟨rest, hrest, rfl⟩ := map_eq_ok_iff.1 h
          obtain ⟨hlength, hmem, hnodup, hapart⟩ := ih hrest
          -- the new id counts as selected before the rest, so the rest does not have it
          refine ⟨by simp [hlength], ?_, ?_, ?_⟩
          · exact List.forall_mem_cons.2 ⟨mem_of_acceptChoice hchoice, hmem⟩
          · rw [List.map_cons, List.nodup_cons]
            refine ⟨?_, hnodup⟩
            intro hid
            obtain ⟨other, hother, heq⟩ := List.mem_map.1 hid
            exact hapart other hother (heq ▸ List.mem_cons_self)
          · refine List.forall_mem_cons.2 ⟨hnew, fun other hother hbefore => ?_⟩
            exact hapart other hother (List.mem_cons_of_mem _ hbefore)

/-- **A selection is accepted** only if it has the shape of one. -/
theorem admits_of_acceptSelection {choices selected : List Choice} {limit : Option Nat}
    {answer : Value} (h : acceptSelection choices limit answer = .ok selected) :
    (Kind.multiChoice choices limit).Admits (.list (selected.map Choice.value)) := by
  unfold acceptSelection at h
  split at h
  · cases h
  · rename_i items hitems
    split at h
    · cases h
    · rename_i hlimit
      obtain ⟨hlength, hmem, hnodup, -⟩ := acceptItems_spec h
      refine .selection ?_ hmem hnodup ?_
      · rintro rfl
        exact hitems (List.length_eq_zero_iff.1 hlength.symm)
      · intro n hn
        rw [hlength]
        simpa using Option.filter_eq_none_iff.1 hlimit n hn
  · cases h

/-! ### Forms -/

/-- An entry is not left out exactly when the record has it filled. -/
theorem isLeftOut_eq_false_iff {entries : Keyed Value} {id : String} :
    isLeftOut (entries.get? id) = false ↔ Filled entries id := by
  unfold Filled
  cases entries.get? id with
  | none => simp [isLeftOut]
  | some value => cases value <;> simp [isLeftOut]

/-- **A form is accepted** when it is a record in which every required field is filled. -/
theorem acceptForm_eq_ok_iff {fields : List FormField} {answer : Value}
    {entries : List (String × Value)} :
    acceptForm fields answer = .ok entries ↔ answer = .record entries ∧
      ∀ field ∈ fields, field.required = true → Filled entries field.id := by
  have hfilled : ∀ entries : List (String × Value), leftOutFields fields entries = [] ↔
      ∀ field ∈ fields, field.required = true → Filled entries field.id := by
    intro entries
    simp [leftOutFields, List.filter_eq_nil_iff, isLeftOut_eq_false_iff]
  cases answer with
  | record given =>
      rw [acceptForm]
      split
      · rename_i hnone
        rw [Except.ok.injEq, Value.record.injEq]
        constructor
        · rintro rfl
          exact ⟨rfl, (hfilled _).1 hnone⟩
        · exact And.left
      · rename_i hsome
        constructor
        · intro h
          cases h
        · rintro ⟨h, hall⟩
          cases h
          exact absurd ((hfilled _).2 hall) hsome
  | _ => simp [acceptForm]

/-- **A form of contacts is accepted** only if it is a form whose email, unless it is blank, has an
at sign. -/
theorem acceptContact_spec {fields : List FormField} {answer : Value}
    {entries : List (String × Value)} (h : acceptContact fields answer = .ok entries) :
    acceptForm fields answer = .ok entries ∧
      ∀ email, Keyed.get? entries "email" = some (.text email) →
        isBlankText email = true ∨ '@' ∈ email.toList := by
  unfold acceptContact at h
  split at h
  · cases h
  · rename_i given hform
    rw [hform]
    split at h
    · rename_i email hemail
      split at h
      · cases h
      · rename_i hlooks
        cases h
        refine ⟨rfl, fun other hother => ?_⟩
        rw [hemail] at hother
        cases hother
        simpa [Classical.or_iff_not_imp_left] using hlooks
    · rename_i hother
      cases h
      exact ⟨rfl, fun email hemail => absurd hemail (hother email)⟩

/-! ### Kinds -/

/-- **What an accepted answer stores has the shape of its kind.** -/
theorem Kind.admits_of_accept {kind : Kind} {answer value : Value}
    (h : kind.accept answer = .ok (some value)) : kind.Admits value := by
  cases kind with
  | message | final | unrecognized => cases h
  | textInput limit =>
      simp only [accept] at h
      split at h
      · cases h
      · rename_i s htext
        split at h
        · cases h
        · rename_i hlimit
          cases h
          refine .text (acceptText_eq_ok_iff.1 htext).2 fun n hn => ?_
          simpa using Option.filter_eq_none_iff.1 hlimit n hn
  | numberInput min max =>
      obtain ⟨x, hnumber, heq⟩ := map_eq_ok_iff.1 h
      cases heq
      obtain ⟨hnumeric, hmin, hmax⟩ := acceptNumber_eq_ok_iff.1 hnumber
      exact .number (Value.isFinite_of_numeric? hnumeric) hmin hmax
  | singleChoice choices =>
      obtain ⟨choice, hchoice, heq⟩ := map_eq_ok_iff.1 h
      cases heq
      exact .choice (mem_of_acceptChoice hchoice)
  | scale choices =>
      obtain ⟨choice, hchoice, heq⟩ := map_eq_ok_iff.1 h
      cases heq
      exact .step (mem_of_acceptChoice hchoice)
  | multiChoice choices limit =>
      obtain ⟨selected, hselected, heq⟩ := map_eq_ok_iff.1 h
      cases heq
      exact admits_of_acceptSelection hselected
  | yesNo =>
      simp only [accept] at h
      split at h <;> cases h
      exact .truth
  | video url =>
      simp only [accept] at h
      split at h
      · rename_i s htext
        cases h
        exact .recording (acceptText_eq_ok_iff.1 htext).2
      · cases h
  | contactForm fields =>
      obtain ⟨entries, hentries, heq⟩ := map_eq_ok_iff.1 h
      cases heq
      obtain ⟨hform, hemail⟩ := acceptContact_spec hentries
      exact .contact (acceptForm_eq_ok_iff.1 hform).2 hemail
  | demographics fields =>
      obtain ⟨entries, hentries, heq⟩ := map_eq_ok_iff.1 h
      cases heq
      exact .person (acceptForm_eq_ok_iff.1 hentries).2

/-! ### Sessions -/

namespace Session

variable {graph : Graph} {session : Session}

/-- **In every reached session, what is stored under a variable has the shape of a question that
declares it.** -/
theorem Reached.admits {conduct : Conduct} (h : Reached conduct graph session) {name : String}
    {value : Value} (hget : session.bindings.get? name = some value) :
    ∃ block ∈ graph.blocks, block.declares name = true ∧ block.kind.Admits value := by
  obtain ⟨block, hmem, hdeclares, answer, haccept⟩ := h.grounded name value hget
  exact ⟨block, hmem, hdeclares, Kind.admits_of_accept haccept⟩

/-- **Stored values have the shape of a question that stores them.**  Along every run on a survey
that passes its review, whatever is answered, each variable that holds a value is declared by a
question of the survey whose kind admits this value. -/
theorem stored_values_have_shape_along_runs {settings : ReviewSettings}
    (hvalid : (graph.review settings).isValid = true) (conduct : Conduct) (id : String) :
    ∃ first, Session.start conduct id graph = .ok first ∧
      ∀ moves name value,
        (first.run conduct.selfLoopLimit moves).bindings.get? name = some value →
        ∃ block ∈ graph.blocks, block.kind.isQuestion = true ∧ block.variableName = some name ∧
          block.kind.Admits value := by
  have hfaults := Graph.isValid_review_iff.1 hvalid
  refine ⟨opening id graph, start_of_faults_eq_nil hfaults conduct id, ?_⟩
  intro moves name value hget
  have hreached := Reached.of_run_opening hfaults conduct id moves
  obtain ⟨block, hmem, hdeclares, hadmits⟩ := hreached.admits hget
  obtain ⟨hquestion, hname⟩ := Block.declares_iff.1 hdeclares
  exact ⟨block, hmem, hquestion, hname, hadmits⟩

/-- After the run `Session.sharedMoves` something is stored, and a question of the survey
`Graph.shared` admits it. -/
theorem stored_values_have_shape_along_runs_shared :
    (Graph.shared.review .standard).isValid = true ∧
    ∃ first, Session.start .standard "s" Graph.shared = .ok first ∧
      ∃ value, (first.run Conduct.standard.selfLoopLimit sharedMoves).bindings.get? "reply" =
          some value ∧
        ∃ block ∈ Graph.shared.blocks, block.kind.isQuestion = true ∧
          block.variableName = some "reply" ∧ block.kind.Admits value := by
  have hvalid : (Graph.shared.review .standard).isValid = true := by decide +kernel
  refine ⟨hvalid, ?_⟩
  obtain ⟨first, hstart, hruns⟩ := stored_values_have_shape_along_runs hvalid .standard "s"
  refine ⟨first, hstart, ?_⟩
  obtain ⟨-, rfl⟩ := start_eq_ok_iff.1 hstart
  have hsome : (((opening "s" Graph.shared).run Conduct.standard.selfLoopLimit
      sharedMoves).bindings.get? "reply").isSome = true := by
    decide +kernel
  obtain ⟨value, hget⟩ := Option.isSome_iff_exists.1 hsome
  exact ⟨value, hget, hruns sharedMoves "reply" value hget⟩

end Session

end Questionnaire
