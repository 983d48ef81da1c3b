/-
**Where the blocks of a survey come from.**

A survey that was read has no block of its own making: each block was read, without a problem, from
one of the documents of the draft, and each part of it from the members of that document.  What a
document can hold therefore limits what a survey can hold.  In particular no document has a number
that is not finite, so the options of a survey stand for values of finite numbers.

Main definition:

* `Questionnaire.Document.ReadFrom` — what a block owes to the members of its document.

Main results:

* `Questionnaire.Document.readFrom_of_outcome` — a block that could be read was read part by part;
* `Questionnaire.Document.Draft.forall₂_outcome_of_toGraph`,
  `Questionnaire.Document.Draft.exists_readFrom` — **every block of a survey was read from one of
  the documents of its draft**, and the blocks stand in the order of the documents;
* `Questionnaire.Document.Draft.finite_of_mem_choices` — **the options of a survey that was read
  stand for values of finite numbers**.
-/

import Questionnaire.Proofs.Basic
import Questionnaire.Proofs.Document.WellFormed
import Questionnaire.Proofs.Value.PlainForm

set_option autoImplicit false

namespace Questionnaire

namespace Document

/-! ### Blocks -/

section Blocks

variable {vocabulary : Vocabulary} {members : Members} {block : Block}

/-- **What a block owes to the members of its document**: its id, its kind with the attributes, what
it shows, its variable and its transition. -/
structure ReadFrom (vocabulary : Vocabulary) (members : Members) (block : Block) : Prop where
  id : id? members = some block.id
  kind : (readNamedKind vocabulary members (kindName? members)).value = some block.kind
  prompt : block.prompt = prompt? members
  variableName : block.variableName = blockVariable? members
  next : block.next = (readNext members (blockVariable? members)).value

/-- **A block that could be read was read part by part.** -/
theorem readFrom_of_outcome (h : (readBlock vocabulary (.object members)).outcome = .ok block) :
    ReadFrom vocabulary members block := by
  simp only [readBlock] at h
  split at h
  · rename_i hid hkind
    cases h
    exact ⟨hid, hkind, rfl, rfl, rfl⟩
  · cases h

/-- Only objects are read as blocks. -/
theorem exists_members_of_outcome {raw : Json}
    (h : (readBlock vocabulary raw).outcome = .ok block) : ∃ members, raw = .object members := by
  cases raw with
  | object members => exact ⟨members, rfl⟩
  | _ => cases h

end Blocks

/-! ### Options -/

section Choices

variable {members : Members} {choice : Choice} {choices : List Choice}

/-- What is read of the parts of a list is what is read of each. -/
theorem mem_readParts_iff {α : Type} {read : Nat → Json → Except Problem α} {raws : List Json}
    {a : α} : a ∈ (readParts read raws).value ↔
      ∃ (position : Nat) (raw : Json), raws[position]? = some raw ∧ read position raw = .ok a := by
  simp only [readParts, Checked.ofList, List.mem_filterMap, List.mem_map, Prod.exists,
    List.mem_zipIdx_iff_getElem?, toOption_eq_some_iff]
  constructor
  · rintro ⟨_, ⟨raw, position, hraw, rfl⟩, hread⟩
    exact ⟨position, raw, hraw, hread⟩
  · rintro ⟨position, raw, hraw, hread⟩
    exact ⟨_, ⟨raw, position, hraw, rfl⟩, hread⟩

/-- An option stands for a value of finite numbers: a text, or the value of a document. -/
theorem finite_of_readChoice {position : Nat} {raw : Json}
    (h : readChoice position raw = .ok choice) : choice.value.Finite := by
  unfold readChoice at h
  split at h
  · cases h
    trivial
  · rename_i given
    split at h
    · cases h
    · cases h
      dsimp only
      cases Keyed.get? given "value" with
      | none => trivial
      | some content => exact Value.finite_ofJson content
  · cases h

theorem finite_of_mem_readChoices (h : choice ∈ (readChoices members).value) :
    choice.value.Finite := by
  unfold readChoices at h
  split at h
  · cases h
  · cases h
  · obtain ⟨position, raw, -, hread⟩ := mem_readParts_iff.1 h
    exact finite_of_readChoice hread
  · cases h

/-- The options of a kind are those that the members list. -/
theorem choices_eq_of_readKind {name : KindName}
    (h : (readKind members name).value.choices? = some choices) :
    choices = (readChoices members).value := by
  cases name with
  | singleChoice | multiChoice | scale =>
      cases h
      rfl
  | _ => cases h

/-- **The kind of a block** is read of its members if the vocabulary knows its name, and else it is
kept by this name. -/
theorem readNamedKind_cases {vocabulary : Vocabulary} {name : Option String} {kind : Kind}
    (h : (readNamedKind vocabulary members name).value = some kind) :
    (∃ known, name.bind vocabulary.kind? = some known ∧ kind = (readKind members known).value) ∨
      name.bind vocabulary.kind? = none ∧ ∃ text, kind = .unrecognized text := by
  unfold readNamedKind at h
  split at h
  · cases h
  · split at h
    · rename_i known hknown
      exact .inl ⟨known, hknown, (Option.some.inj h).symm⟩
    · rename_i hunknown
      exact .inr ⟨hunknown, _, (Option.some.inj h).symm⟩

theorem choices_eq_of_readNamedKind {vocabulary : Vocabulary} {name : Option String} {kind : Kind}
    (h : (readNamedKind vocabulary members name).value = some kind)
    (hchoices : kind.choices? = some choices) : choices = (readChoices members).value := by
  rcases readNamedKind_cases h with ⟨known, -, rfl⟩ | ⟨-, text, rfl⟩
  · exact choices_eq_of_readKind hchoices
  · cases hchoices

end Choices

/-! ### Drafts -/

namespace Draft

variable {vocabulary : Vocabulary} {draft : Draft} {graph : Graph} {block : Block}

/-- Only well formed drafts make a survey. -/
theorem wellFormed_of_toGraph (h : draft.toGraph vocabulary = .ok graph) :
    draft.WellFormed vocabulary := by
  by_contra hnot
  rw [toGraph_of_not_wellFormed hnot] at h
  cases h

/-- A survey has the blocks of its draft that could be read. -/
theorem blocks_of_toGraph (h : draft.toGraph vocabulary = .ok graph) :
    graph.blocks = draft.goodBlocks vocabulary := by
  obtain ⟨made, _, hmade, hblocks, -⟩ := (wellFormed_of_toGraph h).toGraph_eq
  obtain rfl : graph = made := Except.ok.inj (h.symm.trans hmade)
  exact hblocks

/-- **The blocks of a survey were read from the documents of its draft**, one by one. -/
theorem forall₂_outcome_of_toGraph (h : draft.toGraph vocabulary = .ok graph) :
    List.Forall₂ (fun raw block => (readBlock vocabulary raw).outcome = .ok block)
      draft.blocks graph.blocks := by
  rw [blocks_of_toGraph h]
  exact (wellFormed_of_toGraph h).forall₂_goodBlocks.imp fun _ _ hread => hread.1

/-- **Every block of a survey was read from one of the documents of its draft.** -/
theorem exists_readFrom (h : draft.toGraph vocabulary = .ok graph) (hmem : block ∈ graph.blocks) :
    ∃ members, Json.object members ∈ draft.blocks ∧ ReadFrom vocabulary members block := by
  rw [blocks_of_toGraph h, goodBlocks_eq, List.mem_filterMap] at hmem
  obtain ⟨raw, hraw, hread⟩ := hmem
  have houtcome : (readBlock vocabulary raw).outcome = .ok block := toOption_eq_some_iff.1 hread
  obtain ⟨members, rfl⟩ := exists_members_of_outcome houtcome
  exact ⟨members, hraw, readFrom_of_outcome houtcome⟩

/-- **The options of a survey that was read stand for values of finite numbers.** -/
theorem finite_of_mem_choices (h : draft.toGraph vocabulary = .ok graph)
    (hmem : block ∈ graph.blocks) {choices : List Choice}
    (hchoices : block.kind.choices? = some choices) : ∀ choice ∈ choices, choice.value.Finite := by
  obtain ⟨members, -, hread⟩ := exists_readFrom h hmem
  intro choice hchoice
  rw [choices_eq_of_readNamedKind hread.kind hchoices] at hchoice
  exact finite_of_mem_readChoices hchoice

end Draft

end Document

end Questionnaire
