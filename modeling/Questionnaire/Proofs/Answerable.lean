/-
**Which questions have an answer.**

What a block accepts and what a review checks are written apart from each other.  An attribute that
leaves nothing to accept must be a fault, or a survey without faults can have a question that no
answer gets past: options must not be missing, a range must not be inverted, and a limit must leave
something to select.  The length of a text is the one attribute that no check looks at, and a text
of no characters is never accepted.

Main definitions:

* `Questionnaire.Kind.Answerable` — whether some answer to a kind of block is accepted;
* `Questionnaire.Kind.BoundsFinite` — whether a range is bounded by finite numbers only;
* `Questionnaire.Graph.mute` — a survey without faults whose question has no answer.

Main results:

* `Questionnaire.Kind.answerable_textInput_iff` — a text has an answer unless its limit is zero;
* `Questionnaire.Block.WellFormed.answerable_iff` — that is the only block of a well formed survey,
  the final ones apart, that has none;
* `Questionnaire.Session.question_answerable_iff` — **a respondent is stuck at such a block only**;
* `Questionnaire.Session.mute_has_no_answer` — and there a respondent is stuck.
-/

import Questionnaire.Proofs.Session.Standing
import Questionnaire.Proofs.Value.Ordered
import Questionnaire.Proofs.WellFormed

set_option autoImplicit false

namespace Questionnaire

namespace Kind

/-! ### Answers to each kind -/

/-- **Whether some answer to a block of a kind is accepted.** -/
def Answerable (kind : Kind) : Prop :=
  ∃ answer stored, answer.Ordered ∧ kind.accept answer = .ok stored

/-- Whether the bounds of a range are finite numbers. -/
def BoundsFinite : Kind → Prop
  | .numberInput min max => (∀ x ∈ min, x.isFinite = true) ∧ ∀ x ∈ max, x.isFinite = true
  | _ => True

/-- A text that is not blank is read as it is. -/
theorem acceptText_eq_ok_iff {answer : Value} {s : String} :
    acceptText answer = .ok s ↔ answer = .text s ∧ isBlankText s = false := by
  cases answer with
  | text t =>
      rw [show acceptText (.text t) = if isBlankText t then .error .blank else .ok t from rfl]
      split
      · rename_i hblank
        simp only [reduceCtorEq, Value.text.injEq, false_iff, not_and]
        rintro rfl
        simp [hblank]
      · rename_i hblank
        simp only [Except.ok.injEq, Value.text.injEq]
        exact ⟨fun h => ⟨h, h ▸ Bool.eq_false_iff.2 hblank⟩, And.left⟩
  | _ => simp [acceptText]

/-- A text that is not blank has a character. -/
theorem length_pos_of_visible {s : String} (h : isBlankText s = false) : 0 < s.length := by
  rw [← String.length_toList, List.length_pos_iff]
  intro hempty
  simp [isBlankText, hempty] at h

theorem acceptText_at : acceptText (.text "@") = .ok "@" :=
  acceptText_eq_ok_iff.2 ⟨rfl, by decide +kernel⟩

/-- **No answer is a text of at most no characters.** -/
theorem accept_textInput_zero (answer : Value) (stored : Option Value) :
    (textInput (some 0)).accept answer ≠ .ok stored := by
  intro haccept
  simp only [accept] at haccept
  split at haccept
  · cases haccept
  · rename_i s htext
    have hlength := length_pos_of_visible (acceptText_eq_ok_iff.1 htext).2
    have hexceeds : (some 0).filter (· < s.length) = some 0 :=
      Option.filter_some_pos (decide_eq_true hlength)
    rw [hexceeds] at haccept
    cases haccept

/-- **A text has an answer unless its limit is zero.** -/
theorem answerable_textInput_iff {limit : Option Nat} :
    (textInput limit).Answerable ↔ limit ≠ some 0 := by
  constructor
  · rintro ⟨answer, stored, -, haccept⟩ rfl
    exact accept_textInput_zero answer stored haccept
  · intro hlimit
    have hfits : limit.filter (· < "@".length) = none := by
      rw [Option.filter_eq_none_iff]
      rintro n rfl
      have hn : n ≠ 0 := fun h => hlimit (h ▸ rfl)
      have hlength : "@".length = 1 := by decide +kernel
      simp [hlength, hn]
    exact ⟨.text "@", some (.text "@"), trivial, by simp only [accept, acceptText_at, hfits]⟩

/-- A number within a range that is not inverted has an answer: one of the bounds, if it has any. -/
theorem answerable_numberInput {min max : Option Number} (hfinite : (numberInput min max).BoundsFinite)
    (hrange : ∀ a b, min = some a → max = some b → b.less a = false) :
    (numberInput min max).Answerable := by
  obtain ⟨hmin, hmax⟩ := hfinite
  have haccept : ∀ x : Number, x.isFinite = true → min.any x.less = false →
      max.any (·.less x) = false → (numberInput min max).Answerable := by
    intro x hx habove hbelow
    refine ⟨.number x, some (.number x), trivial, ?_⟩
    simp [accept, acceptNumber, Value.numeric?, hx, habove, hbelow, Except.map]
  cases min with
  | some a =>
      refine haccept a (hmin a rfl) (Number.less_irrefl a) ?_
      cases max with
      | none => rfl
      | some b => exact hrange a b rfl rfl
  | none =>
      cases max with
      | none => exact haccept (Number.zero false) rfl rfl rfl
      | some b => exact haccept b (hmax b rfl) rfl (Number.less_irrefl b)

/-- The id of the first option means that option. -/
theorem acceptChoice_id (choice : Choice) (choices : List Choice) :
    acceptChoice (choice :: choices) (.text choice.id) = .ok choice := by
  simp [acceptChoice, chosen?, Value.text?]

/-- The first option by itself may be selected, unless the limit is zero. -/
theorem acceptSelection_id (choice : Choice) (choices : List Choice) {limit : Option Nat}
    (hlimit : ∀ n ∈ limit, 1 ≤ n) :
    acceptSelection (choice :: choices) limit (.list [.text choice.id]) = .ok [choice] := by
  have hfits : limit.filter (· < [Value.text choice.id].length) = none := by
    rw [Option.filter_eq_none_iff]
    intro n hn
    simp [Nat.ne_of_gt (hlimit n hn)]
  simp only [acceptSelection, hfits, acceptItems, acceptChoice_id, List.not_mem_nil, if_false]
  rfl

/-- A form that has a visible text under the id of every field is accepted. -/
theorem acceptForm_filled (fields : List FormField) :
    acceptForm fields (.record (Keyed.filled (fields.map FormField.id) (.text "@"))) =
      .ok (Keyed.filled (fields.map FormField.id) (.text "@")) := by
  have hvisible : isBlankText "@" = false := by decide +kernel
  have hfilled : leftOutFields fields
      (Keyed.filled (fields.map FormField.id) (.text "@")) = [] := by
    rw [leftOutFields, List.map_eq_nil_iff, List.filter_eq_nil_iff]
    intro field hmem
    rw [Keyed.get?_filled, if_pos (List.mem_map_of_mem hmem)]
    simp [isLeftOut, hvisible]
  simp only [acceptForm, hfilled]

/-- The same form passes for one of contacts, since the text looks like an email. -/
theorem acceptContact_filled (fields : List FormField) :
    acceptContact fields (.record (Keyed.filled (fields.map FormField.id) (.text "@"))) =
      .ok (Keyed.filled (fields.map FormField.id) (.text "@")) := by
  simp only [acceptContact, acceptForm_filled, Keyed.get?_filled]
  split
  · rename_i email hemail
    split at hemail
    · cases hemail
      simp
    · cases hemail
  · rfl

/-- A filled record is in order. -/
theorem ordered_filled (fields : List FormField) :
    (Value.record (Keyed.filled (fields.map FormField.id) (.text "@"))).Ordered := by
  refine ⟨Keyed.increasing_filled _ _, Value.orderedEntries_iff.2 fun entry hmem => ?_⟩
  rw [Keyed.eq_of_mem_filled hmem]
  trivial

end Kind

/-! ### Answers to the blocks of a survey -/

/-- **A well formed block that is not final has an answer**, unless it asks for a text of at most no
characters. -/
theorem Block.WellFormed.answerable_iff {graph : Graph} {block : Block}
    (h : block.WellFormed graph) (hopen : block.isFinal = false)
    (hfinite : block.kind.BoundsFinite) :
    block.kind.Answerable ↔ block.kind ≠ .textInput (some 0) := by
  -- an option of a choice or scale is the first of its options, of which there is one
  have hfirst : ∀ choices, block.kind.choices? = some choices →
      ∃ choice rest, choices = choice :: rest := fun choices hchoices =>
    List.exists_cons_of_ne_nil (h.options choices hchoices).1
  cases hkind : block.kind with
  | message => exact iff_of_true ⟨.null, none, trivial, rfl⟩ (by simp)
  | textInput limit =>
      rw [Kind.answerable_textInput_iff]
      simp
  | numberInput min max =>
      refine iff_of_true (Kind.answerable_numberInput (hkind ▸ hfinite) ?_) (by simp)
      rintro a b rfl rfl
      exact h.range a b hkind
  | singleChoice choices =>
      obtain ⟨choice, rest, rfl⟩ := hfirst choices (by rw [hkind]; rfl)
      refine iff_of_true ⟨.text choice.id, some choice.value, trivial, ?_⟩ (by simp)
      simp only [Kind.accept, Kind.acceptChoice_id]
      rfl
  | multiChoice choices limit =>
      obtain ⟨choice, rest, rfl⟩ := hfirst choices (by rw [hkind]; rfl)
      refine iff_of_true
        ⟨.list [.text choice.id], some (.list [choice.value]), ⟨trivial, trivial⟩, ?_⟩ (by simp)
      have hlimit : ∀ n ∈ limit, 1 ≤ n := by
        rintro n rfl
        exact (h.limit _ n hkind).1
      simp only [Kind.accept, Kind.acceptSelection_id choice rest hlimit]
      rfl
  | scale choices =>
      obtain ⟨choice, rest, rfl⟩ := hfirst choices (by rw [hkind]; rfl)
      refine iff_of_true ⟨.text choice.id, some choice.value, trivial, ?_⟩ (by simp)
      simp only [Kind.accept, Kind.acceptChoice_id]
      rfl
  | yesNo => exact iff_of_true ⟨.bool true, some (.bool true), trivial, rfl⟩ (by simp)
  | video url =>
      refine iff_of_true ⟨.text "@", some (.text "@"), trivial, ?_⟩ (by simp)
      simp only [Kind.accept, Kind.acceptText_at]
  | contactForm fields =>
      refine iff_of_true
        ⟨_, some (.record (Keyed.filled (fields.map FormField.id) (.text "@"))),
          Kind.ordered_filled fields, ?_⟩ (by simp)
      simp only [Kind.accept, Kind.acceptContact_filled]
      rfl
  | demographics fields =>
      refine iff_of_true
        ⟨_, some (.record (Keyed.filled (fields.map FormField.id) (.text "@"))),
          Kind.ordered_filled fields, ?_⟩ (by simp)
      simp only [Kind.accept, Kind.acceptForm_filled]
      rfl
  | final => simp [Block.isFinal, hkind, Kind.isFinal] at hopen
  | unrecognized name => exact absurd (by rw [hkind]; rfl) h.known

namespace Session

variable {graph : Graph} {session : Session} {block : Block}

/-- The block at which a reached session stands is well formed. -/
theorem Reached.wellFormed_of_currentBlock {conduct : Conduct}
    (h : Reached conduct graph session) (hblock : session.currentBlock = .ok block) :
    block ∈ graph.blocks ∧ block.WellFormed graph := by
  obtain ⟨hfaults, hgraph, -⟩ := h.keeps
  obtain ⟨found, hfound, hmem⟩ := h.standing.exists_block
  rw [currentBlock, hfound] at hblock
  obtain rfl : found = block := Except.ok.inj hblock
  exact ⟨hmem, (Graph.wellFormed_iff.2 hfaults).wellFormed found hmem⟩

/-- A session begins at the block with the id of the start. -/
theorem currentBlock_opening (id : String) (h : graph.block? graph.start = some block) :
    (opening id graph).currentBlock = .ok block := by
  rw [currentBlock, show (opening id graph).graph.block? (opening id graph).current = some block
    from h]

/-- **A respondent is stuck only at a block that asks for a text of at most no characters.**  On a
survey without faults, with finite bounds, every other block that is not final has an answer. -/
theorem question_answerable_iff {conduct : Conduct} (hreached : Reached conduct graph session)
    (hfinite : ∀ block ∈ graph.blocks, block.kind.BoundsFinite)
    (hblock : session.currentBlock = .ok block) (hopen : block.isFinal = false) :
    block.kind.Answerable ↔ block.kind ≠ .textInput (some 0) := by
  obtain ⟨hmem, hwellFormed⟩ := hreached.wellFormed_of_currentBlock hblock
  exact hwellFormed.answerable_iff hopen (hfinite block hmem)

end Session

namespace Graph

/-- A question for a number between two bounds. -/
def age : Block where
  id := "age"
  kind := .numberInput (some (.ofNat 18)) (some (.ofNat 18))
  prompt := none
  variableName := some "age"
  next := some (.direct "end")

/-- A survey whose question has a single answer. -/
def adults : Graph where
  start := "age"
  title := none
  expectedMinutes := none
  blocks := [age, { id := "end", kind := .final, prompt := none, variableName := none, next := none }]
  blocks_ne_nil := List.cons_ne_nil _ _
  nodup_ids := by decide +kernel

theorem faults_adults : adults.faults = [] := by
  rw [← List.isEmpty_iff]
  decide +kernel

/-- A question for a text of at most no characters. -/
def silence : Block where
  id := "ask"
  kind := .textInput (some 0)
  prompt := none
  variableName := some "reply"
  next := some (.direct "end")

/-- A survey without faults whose question has no answer. -/
def mute : Graph where
  start := "ask"
  title := none
  expectedMinutes := none
  blocks := [silence,
    { id := "end", kind := .final, prompt := none, variableName := none, next := none }]
  blocks_ne_nil := List.cons_ne_nil _ _
  nodup_ids := by decide +kernel

theorem faults_mute : mute.faults = [] := by
  rw [← List.isEmpty_iff]
  decide +kernel

end Graph

namespace Session

/-- In the survey `Graph.adults` the question at the start has an answer. -/
theorem question_answerable_iff_adults :
    Reached .standard Graph.adults (opening "s" Graph.adults) ∧
    (∀ block ∈ Graph.adults.blocks, block.kind.BoundsFinite) ∧
    (opening "s" Graph.adults).currentBlock = .ok Graph.age ∧ Graph.age.isFinal = false ∧
    Graph.age.kind.Answerable := by
  have hreached : Reached .standard Graph.adults (opening "s" Graph.adults) :=
    .of_start (start_eq_ok_iff.2 ⟨Graph.faults_adults, rfl⟩)
  have hfinite : ∀ block ∈ Graph.adults.blocks, block.kind.BoundsFinite := by
    have hbound : ∀ x ∈ some (Number.ofNat 18), x.isFinite = true := by
      intro x hx
      rw [← Option.mem_some_iff.1 hx]
      decide +kernel
    exact List.forall_mem_cons.2 ⟨⟨hbound, hbound⟩, List.forall_mem_singleton.2 trivial⟩
  have hblock : (opening "s" Graph.adults).currentBlock = .ok Graph.age :=
    currentBlock_opening "s" (Graph.block?_eq_some_iff.2 ⟨List.mem_cons_self, rfl⟩)
  exact ⟨hreached, hfinite, hblock, rfl,
    (question_answerable_iff hreached hfinite hblock rfl).2 fun h => by cases h⟩

/-- **A respondent can be stuck**: the survey `Graph.mute` has no fault and a session on it starts at
a question that accepts no answer. -/
theorem mute_has_no_answer :
    (Graph.mute.review .standard).isValid = true ∧
    (∀ block ∈ Graph.mute.blocks, block.kind.BoundsFinite) ∧
    ∃ session block, Session.start .standard "s" Graph.mute = .ok session ∧
      session.currentBlock = .ok block ∧ block.isFinal = false ∧
      ∀ answer stored, block.kind.accept answer ≠ .ok stored := by
  refine ⟨Graph.isValid_review_iff.2 Graph.faults_mute,
    List.forall_mem_cons.2 ⟨trivial, List.forall_mem_singleton.2 trivial⟩,
    opening "s" Graph.mute, Graph.silence, start_eq_ok_iff.2 ⟨Graph.faults_mute, rfl⟩, ?_, rfl,
    Kind.accept_textInput_zero⟩
  exact currentBlock_opening "s" (Graph.block?_eq_some_iff.2 ⟨List.mem_cons_self, rfl⟩)

end Session

end Questionnaire
