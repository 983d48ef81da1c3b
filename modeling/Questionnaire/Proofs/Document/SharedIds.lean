/-
**Ids that several blocks share.**

Two blocks of a document may have the same id, and then the document is rejected in any case.  That
the id is shared is found out among the blocks that could be read: a block with a problem is left
out before the ids are compared.  So the id is reported as shared exactly if two of its blocks have
no problem by themselves.  If there are fewer, each of the others is reported with its own problems
only, and that they share their id comes to light once these are mended.

Main definitions:

* `Questionnaire.Document.HasId` — the document of a block has an id, whatever else is wrong with
  it;
* `Questionnaire.Document.Draft.uses`, `Questionnaire.Document.Draft.readableUses` — how many blocks
  of a draft have an id, and how many of these have no problem.

Main results:

* `Questionnaire.Document.usableId?_eq_some_iff` — the id by which a block is told is the one that
  it has;
* `Questionnaire.Document.Draft.repeatedId_mem_issues_iff` — **an id is reported as shared exactly
  if two of its blocks have no problem**;
* `Questionnaire.Document.Draft.shared_id_is_reported_iff` — what is reported of an id that blocks
  share.
-/

import Questionnaire.Proofs.Document.Grammar
import Questionnaire.Proofs.Document.WellFormed

set_option autoImplicit false

namespace Questionnaire

namespace Document

/-! ### Ids and problems of a block -/

/-- **The document of a block has an id**, whatever else is wrong with it: its member `id` is a text
that can be seen, or a number, which stands for the text that is written for it. -/
inductive HasId : Json → String → Prop where
  | text {members : Members} {id : String} (hget : Keyed.get? members "id" = some (.string id))
      (hvisible : Visible id) : HasId (.object members) id
  | number {members : Members} {n : JsonNumber}
      (hget : Keyed.get? members "id" = some (.number n)) : HasId (.object members) n.text

section Blocks

variable {vocabulary : Vocabulary} {raw : Json} {id : String} {problem : Problem}

/-- The id by which a block's document is told is the one that it has. -/
theorem usableId?_eq_some_iff : usableId? raw = some id ↔ HasId raw id := by
  constructor
  · intro h
    cases raw with
    | object members =>
        obtain ⟨given, hget, hid⟩ := Option.bind_eq_some_iff.1 h
        cases given with
        | string s =>
            simp only [idOf?] at hid
            split at hid
            · cases hid
            · rename_i hblank
              cases hid
              exact .text hget (isBlankText_eq_false_iff.1 (Bool.eq_false_iff.2 hblank))
        | number n =>
            cases hid
            exact .number hget
        | _ => cases hid
    | _ => cases h
  · intro h
    cases h with
    | text hget hvisible =>
        simp [usableId?, id?, idOf?, hget, isBlankText_eq_false_iff.2 hvisible]
    | number hget => simp [usableId?, id?, idOf?, hget]

/-- No block has the problem, by itself, that its id is shared. -/
theorem ne_repeatedId_of_hasProblem (h : HasProblem vocabulary raw problem) :
    problem ≠ .repeatedId := by
  rintro rfl
  cases h with
  | attributes _ _ hattribute =>
      cases hattribute with
      | min hbound => cases hbound
      | max hbound => cases hbound
      | count _ hcount => cases hcount
      | parts _ hparts =>
          cases hparts with
          | ofPart _ _ hpart => cases hpart

end Blocks

/-! ### Ids of a draft -/

namespace Draft

variable {vocabulary : Vocabulary} {draft : Draft} {id : String}

/-- How many blocks of a draft have an id, whatever else is wrong with them. -/
def uses (draft : Draft) (id : String) : Nat :=
  draft.blocks.countP fun raw => usableId? raw == some id

/-- How many of the blocks of a draft that have an id have no problem. -/
def readableUses (vocabulary : Vocabulary) (draft : Draft) (id : String) : Nat :=
  draft.blocks.countP fun raw => usableId? raw == some id && (problems vocabulary raw).isEmpty

theorem count_usableIds (draft : Draft) (id : String) :
    (draft.blocks.filterMap usableId?).count id = draft.uses id := by
  rw [List.count_filterMap, uses]

/-- The blocks without problems have an id as often as it is counted among theirs. -/
theorem count_readableIds (vocabulary : Vocabulary) (draft : Draft) (id : String) :
    (draft.readableIds vocabulary).count id = draft.readableUses vocabulary id := by
  rw [readableIds, List.count_filterMap, List.countP_filter, readableUses]

/-- **A draft in which blocks share an id is not well formed.** -/
theorem not_wellFormed_of_uses (h : 2 ≤ draft.uses id) : ¬ draft.WellFormed vocabulary := by
  intro hwell
  have honce := List.nodup_iff_count.1 hwell.nodup_ids id
  rw [count_usableIds] at honce
  omega

/-- **Every problem of a block is reported**, with the id of the block and its position. -/
theorem mem_issues_of_hasProblem {position : Nat} {raw : Json} {problem : Problem}
    (hraw : draft.blocks[position]? = some raw) (hproblem : HasProblem vocabulary raw problem) :
    ⟨usableId? raw, some position, problem⟩ ∈ draft.issues vocabulary := by
  rw [issues_eq]
  refine List.mem_append_left _ (List.mem_append_right _ (List.mem_flatMap.2 ?_))
  exact ⟨(raw, position), List.mem_zipIdx_iff_getElem?.2 hraw,
    List.mem_map_of_mem (mem_problems_iff.2 hproblem)⟩

/-- **An id is reported as shared exactly if two of its blocks have no problem.** -/
theorem repeatedId_mem_issues_iff : (∃ position, ⟨some id, position, .repeatedId⟩ ∈
    draft.issues vocabulary) ↔ 2 ≤ draft.readableUses vocabulary id := by
  rw [← count_readableIds, ← mem_repeated_iff, issues_eq]
  constructor
  · rintro ⟨position, hmem⟩
    rcases List.mem_append.1 hmem with hmem | hmem
    · -- neither an empty draft nor a block by itself is reported so
      rcases List.mem_append.1 hmem with hmem | hmem
      · split at hmem
        · cases List.mem_singleton.1 hmem
        · cases hmem
      · obtain ⟨⟨raw, place⟩, -, hmem⟩ := List.mem_flatMap.1 hmem
        obtain ⟨problem, hproblem, hissue⟩ := List.mem_map.1 hmem
        refine absurd ?_ (ne_repeatedId_of_hasProblem (mem_problems_iff.1 hproblem))
        exact congrArg Issue.problem hissue
    · obtain ⟨shared, hshared, hissue⟩ := List.mem_map.1 hmem
      cases hissue
      exact hshared
  · intro hshared
    exact ⟨none, List.mem_append_right _ (List.mem_map_of_mem hshared)⟩

/-- **What is reported of an id that blocks share.**  If at least two blocks of a draft have an id,
whatever else is wrong with them or with other blocks, then the draft is rejected.  Among its issues
it is said that the id is shared exactly if at least two blocks with the id have no problem by
themselves.  In any case the problems of each block with the id are reported, with its position. -/
theorem shared_id_is_reported_iff (vocabulary : Vocabulary) (h : 2 ≤ draft.uses id) :
    ∃ issues, draft.toGraph vocabulary = .error (.malformed issues) ∧
      ((∃ position, ⟨some id, position, .repeatedId⟩ ∈ issues) ↔
        2 ≤ draft.readableUses vocabulary id) ∧
      ∀ (position : Nat) (raw : Json), draft.blocks[position]? = some raw → HasId raw id →
        ∀ problem, HasProblem vocabulary raw problem →
          ⟨some id, some position, problem⟩ ∈ issues := by
  refine ⟨draft.issues vocabulary, toGraph_of_not_wellFormed (not_wellFormed_of_uses h),
    repeatedId_mem_issues_iff, ?_⟩
  intro position raw hraw hid problem hproblem
  rw [← usableId?_eq_some_iff.2 hid]
  exact mem_issues_of_hasProblem hraw hproblem

/-- In the draft `mixed`, whose blocks with the id "7" have no problem, the id is reported although
other blocks have problems. -/
theorem shared_id_is_reported_iff_mixed :
    2 ≤ mixed.uses "7" ∧ ∃ issues, mixed.toGraph .standard = .error (.malformed issues) ∧
      ∃ position, ⟨some "7", position, .repeatedId⟩ ∈ issues := by
  have huses : 2 ≤ mixed.uses "7" := by decide +kernel
  obtain ⟨issues, hrejected, hreported, -⟩ := shared_id_is_reported_iff .standard huses
  exact ⟨huses, issues, hrejected, hreported.2 (by decide +kernel)⟩

/-- A draft of two messages with one id, the first of which has a transition without a last
target. -/
def twins : Draft := .ofBlocks [
  .object [("id", .string "ask"), ("kind", .string "message"),
    ("next", .object [("if", .array [])])],
  .object [("id", .string "ask"), ("kind", .string "message"), ("next", .string "end")],
  .object [("id", .string "end"), ("kind", .string "final")]]

/-- **A broken block hides that its id is shared.**  Two blocks of the draft `twins` have the same
id, but the only issue that is reported is the transition of the first. -/
theorem broken_twin_hides_shared_id :
    HasId (.object [("id", .string "ask"), ("kind", .string "message"),
      ("next", .object [("if", .array [])])]) "ask" ∧
    HasId (.object [("id", .string "ask"), ("kind", .string "message"),
      ("next", .string "end")]) "ask" ∧
    twins.uses "ask" = 2 ∧
    twins.toGraph .standard =
      .error (.malformed [⟨some "ask", some 0, .transition .noOtherwise⟩]) ∧
    ∀ position, ⟨some "ask", position, .repeatedId⟩ ∉ twins.issues .standard := by
  refine ⟨.text rfl (by decide), .text rfl (by decide), by decide +kernel, rfl, ?_⟩
  intro position hmem
  exact absurd (repeatedId_mem_issues_iff.1 ⟨position, hmem⟩) (by decide +kernel)

end Draft

end Document

end Questionnaire
