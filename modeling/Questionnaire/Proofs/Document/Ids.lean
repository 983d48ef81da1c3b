/-
**Which ids of a survey can be seen.**

Ids come into a survey in several spellings.  The id of a block, of an option or of a field may be
written as a number, which always has a digit, or as a text under the member `id`, which counts as
missing when it is blank.  Targets are held to the same.  Only the bare text that stands for a whole
option or field becomes its id as it is: so a block has an id that cannot be seen exactly if one of
these texts is blank.

Main definitions:

* `Questionnaire.Document.partId?` — the id that the document of an option or a field gives it;
* `Questionnaire.Document.listedParts` — the documents of the options or fields of a block.

Main results:

* `Questionnaire.Number.visible_text` — a number can be seen, however it is laid out;
* `Questionnaire.Document.visible_of_idOf?` — so can the ids that are read of texts and numbers;
* `Questionnaire.Document.WritesTransition.visible_of_mem_targets` — and all targets;
* `Questionnaire.Document.ReadFrom.partIds_eq` — the ids of the options or fields of a block are
  those that its document lists, in their order;
* `Questionnaire.Document.Draft.ids_are_visible_iff` — **the ids of a survey can be seen**, those of
  options and fields exactly if no bare text among them is blank.
-/

import Questionnaire.Proofs.Document.Grammar
import Questionnaire.Proofs.Document.Origin
import Questionnaire.Proofs.WellFormed

set_option autoImplicit false

namespace Questionnaire

/-! ### Texts that can be seen -/

theorem Visible.append_left {s : String} (t : String) (h : Visible s) : Visible (t ++ s) := by
  obtain ⟨c, hmem, hc⟩ := h
  exact ⟨c, by simp [hmem], hc⟩

theorem Visible.append_right {s : String} (t : String) (h : Visible s) : Visible (s ++ t) := by
  obtain ⟨c, hmem, hc⟩ := h
  exact ⟨c, by simp [hmem], hc⟩

theorem isBlank_eq_false_of_isDigit {c : Char} (h : c.isDigit = true) : isBlank c = false := by
  have hrange : 48 ≤ c.toNat ∧ c.toNat ≤ 57 := Char.isDigit_iff_toNat.1 h
  simp only [isBlank, Bool.or_eq_false_iff, Bool.and_eq_false_iff, decide_eq_false_iff_not,
    beq_eq_false_iff_ne]
  omega

/-- The digits of a number can be seen. -/
theorem visible_digits (n : Nat) : Visible (String.ofList (Nat.toDigits 10 n)) := by
  obtain ⟨c, hmem⟩ := List.exists_mem_of_ne_nil _ (Nat.toDigits_ne_nil (n := n) (b := 10))
  refine ⟨c, by rwa [String.toList_ofList], isBlank_eq_false_of_isDigit ?_⟩
  exact Nat.isDigit_of_mem_toDigits (by decide) (by decide) hmem

theorem visible_repr (n : Nat) : Visible n.repr := by
  have h := visible_digits n
  rwa [← Nat.toList_repr, String.ofList_toList] at h

namespace Number

/-- Digits can be seen wherever the point stands. -/
theorem visible_positionalText (layout : Layout) {digits : List Char}
    (h : Visible (String.ofList digits)) (place : Int) :
    Visible (layout.positionalText digits place) := by
  unfold Layout.positionalText
  split
  · exact h.append_left _
  · split
    · exact (h.append_right _).append_right _
    · -- the digits stand on both sides of the point, which can be seen itself
      have hpoint : Visible "." := by decide
      exact (hpoint.append_left _).append_right _

theorem visible_exponentText (digits : List Char) (power : Int) :
    Visible (exponentText digits power) := by
  have hmark : Visible "e" := by decide
  exact ((hmark.append_left _).append_right _).append_right _

/-- **A number can be seen**, however it is laid out. -/
theorem visible_text (layout : Layout) (x : Number) : Visible (layout.text x) := by
  cases x with
  | nan =>
      have hword : Visible "NaN" := by decide
      exact hword
  | infinite negative =>
      have hwords : Visible "-inf" ∧ Visible "inf" := by decide
      cases negative with
      | true => exact hwords.1
      | false => exact hwords.2
  | finite negative units _ =>
      refine Visible.append_left _ ?_
      split
      · have hzero : Visible "0" := by decide
        exact hzero.append_right _
      · unfold Layout.unitsText
        dsimp only
        split
        · exact visible_positionalText layout (visible_digits _) _
        · exact visible_exponentText _ _

end Number

theorem JsonNumber.visible_text (n : JsonNumber) : Visible n.text := by
  cases n with
  | integer n _ =>
      cases n with
      | ofNat n => exact visible_repr n
      | negSucc n => exact (visible_repr (n + 1)).append_left "-"
  | real x _ => exact Number.visible_text _ x

namespace Document

/-! ### Ids and targets -/

/-- **An id that was read can be seen**, whether it is written as a text or as a number. -/
theorem visible_of_idOf? {raw : Json} {id : String} (h : idOf? raw = some id) : Visible id := by
  cases raw with
  | string s =>
      simp only [idOf?] at h
      split at h
      · cases h
      · rename_i hblank
        cases h
        exact isBlankText_eq_false_iff.1 (Bool.eq_false_iff.2 hblank)
  | number n =>
      cases h
      exact n.visible_text
  | _ => cases h

theorem visible_of_id? {members : Members} {id : String} (h : id? members = some id) :
    Visible id := by
  obtain ⟨raw, -, hid⟩ := Option.bind_eq_some_iff.1 h
  exact visible_of_idOf? hid

theorem visible_of_mem_rules {blockVariable : Option String} {raws : List Json} {rules : List Rule}
    (h : List.Forall₂ (WritesRule blockVariable) raws rules) {rule : Rule} (hmem : rule ∈ rules) :
    Visible rule.target := by
  induction h with
  | nil => cases hmem
  | cons hwrites _ ih =>
      rcases List.mem_cons.1 hmem with rfl | hmem
      · cases hwrites with
        | intro _ _ _ hvisible => exact hvisible
      · exact ih hmem

/-- **All targets can be seen.** -/
theorem WritesTransition.visible_of_mem_targets {blockVariable : Option String} {raw : Json}
    {transition : Transition} (h : WritesTransition blockVariable raw transition) {target : String}
    (hmem : target ∈ transition.targets) : Visible target := by
  cases h with
  | direct hvisible =>
      rw [List.mem_singleton.1 hmem]
      exact hvisible
  | conditional _ hrules _ hvisible =>
      rw [Transition.targets, List.mem_append, List.mem_singleton, List.mem_map] at hmem
      rcases hmem with ⟨rule, hrule, rfl⟩ | rfl
      · exact visible_of_mem_rules hrules hrule
      · exact hvisible

/-! ### Options and fields -/

/-- **The id of an option or a field**: a bare text is its own id, and an object has it under the
member `id`. -/
def partId? : Json → Option String
  | .string s => some s
  | .object members => id? members
  | _ => none

/-- The documents of the options or fields among the members of a block. -/
def partDocuments (members : Members) (part : Part) : List Json :=
  match Keyed.get? members (memberOf part) with
  | some (.array raws) => raws
  | _ => []

/-- **The documents of the options or fields of a block**: those among its members, if the kind that
the vocabulary knows by its name has such parts. -/
def listedParts (vocabulary : Vocabulary) (part : Part) : Json → List Json
  | .object members =>
    if ((kindName? members).bind vocabulary.kind?).bind KindName.part? = some part then
      partDocuments members part
    else []
  | _ => []

/-- **The ids of some parts can all be seen** exactly if no bare text among them is blank. -/
theorem visible_partIds_iff {raws : List Json} : (∀ id ∈ raws.filterMap partId?, Visible id) ↔
    ∀ s, Json.string s ∈ raws → Visible s := by
  constructor
  · intro h s hmem
    exact h s (List.mem_filterMap.2 ⟨_, hmem, rfl⟩)
  · intro h id hmem
    obtain ⟨raw, hraw, hid⟩ := List.mem_filterMap.1 hmem
    cases raw with
    | string s =>
        cases hid
        exact h _ hraw
    | object members => exact visible_of_id? hid
    | _ => cases hid

section Parts

variable {members : Members}

theorem id_readChoice (position : Nat) (raw : Json) :
    (readChoice position raw).toOption.map Choice.id = partId? raw := by
  cases raw with
  | object members => cases hid : id? members <;> simp [readChoice, partId?, hid, Except.toOption]
  | _ => rfl

theorem id_readField (position : Nat) (raw : Json) :
    (readField position raw).toOption.map FormField.id = partId? raw := by
  cases raw with
  | object members => cases hid : id? members <;> simp [readField, partId?, hid, Except.toOption]
  | _ => rfl

/-- The ids that are read of some parts are those that their documents give, in their order. -/
theorem map_readParts {α : Type} {read : Nat → Json → Except Problem α} {idOf : α → String}
    (h : ∀ position raw, (read position raw).toOption.map idOf = partId? raw) (raws : List Json) :
    (readParts read raws).value.map idOf = raws.filterMap partId? := by
  have hid : (fun entry : Json × Nat => (read entry.2 entry.1).toOption.map idOf) =
      partId? ∘ Prod.fst := funext fun entry => h entry.2 entry.1
  calc (readParts read raws).value.map idOf
      = raws.zipIdx.filterMap fun entry => (read entry.2 entry.1).toOption.map idOf := by
        simp only [readParts, Checked.ofList, List.map_filterMap, List.filterMap_map]
        rfl
    _ = (raws.zipIdx.map Prod.fst).filterMap partId? := by rw [hid, List.filterMap_map]
    _ = raws.filterMap partId? := by rw [List.zipIdx_map_fst]

theorem map_id_readChoices (members : Members) : (readChoices members).value.map Choice.id =
    (partDocuments members .option).filterMap partId? := by
  unfold readChoices partDocuments memberOf
  rcases Keyed.get? members "options" with _ | (_ | _ | _ | _ | raws | _)
  case some.array => exact map_readParts id_readChoice raws
  all_goals rfl

theorem map_id_readFields (members : Members) : (readFields members).value.map FormField.id =
    (partDocuments members .field).filterMap partId? := by
  unfold readFields partDocuments memberOf
  rcases Keyed.get? members "fields" with _ | (_ | _ | _ | _ | raws | _)
  case some.array => exact map_readParts id_readField raws
  all_goals rfl

/-- The ids of the parts of a kind are those that the members list, if it has such parts. -/
theorem partIds_readKind (members : Members) (kind : KindName) (part : Part) :
    (readKind members kind).value.partIds part =
      if kind.part? = some part then (partDocuments members part).filterMap partId? else [] := by
  cases part with
  | option =>
      rw [← map_id_readChoices]
      cases kind <;> rfl
  | field =>
      rw [← map_id_readFields]
      cases kind <;> rfl

/-- **The ids of the parts of a block** are those that its document lists, in their order. -/
theorem ReadFrom.partIds_eq {vocabulary : Vocabulary} {block : Block}
    (h : ReadFrom vocabulary members block) (part : Part) : block.kind.partIds part =
      (listedParts vocabulary part (.object members)).filterMap partId? := by
  rcases readNamedKind_cases h.kind with ⟨known, hknown, hkind⟩ | ⟨hunknown, text, hkind⟩
  · simp only [listedParts, hknown, Option.bind_some, hkind, partIds_readKind]
    split <;> rfl
  · -- a kind that is not known has no parts, whatever the members list
    simp only [listedParts, hunknown, Option.bind_none, hkind, reduceCtorEq, if_false]
    cases part <;> rfl

end Parts

/-! ### Surveys -/

namespace Draft

variable {vocabulary : Vocabulary} {draft : Draft} {graph : Graph}

/-- **The ids of a survey can be seen, but for blank texts that stand for options or fields.**  Each
block of a survey has an id that can be seen, and so have all its targets.  The ids of its options,
or of its fields, can all be seen exactly if no bare text among them in the document of the block is
blank; those that are written in objects can always be seen. -/
theorem ids_are_visible_iff (h : draft.toGraph vocabulary = .ok graph) :
    List.Forall₂ (fun raw block =>
      Visible block.id ∧ (∀ target ∈ block.targets, Visible target) ∧
      ∀ part, (∀ id ∈ block.kind.partIds part, Visible id) ↔
        ∀ s, Json.string s ∈ listedParts vocabulary part raw → Visible s)
      draft.blocks graph.blocks := by
  refine (forall₂_outcome_of_toGraph h).imp fun raw block houtcome => ?_
  obtain ⟨members, rfl⟩ := exists_members_of_outcome houtcome
  have hread := readFrom_of_outcome houtcome
  refine ⟨visible_of_id? hread.id, ?_, ?_⟩
  · intro target hmem
    cases hnext : block.next with
    | none =>
        rw [Block.targets, hnext] at hmem
        cases hmem
    | some transition =>
        rw [Block.targets, hnext] at hmem
        rw [hread.next, readNext_value_eq_some_iff] at hnext
        obtain ⟨raw, -, hwrites⟩ := hnext
        exact hwrites.visible_of_mem_targets hmem
  · intro part
    rw [hread.partIds_eq]
    exact visible_partIds_iff

/-- A choice with one option. -/
def pickingQuestion (option : Json) : Members := [
  ("id", .string "pick"),
  ("kind", .string "single-choice"),
  ("variable", .string "picked"),
  ("options", .array [option]),
  ("next", .string "end")]

/-- A draft with a choice that has one option. -/
def picking (option : Json) : Draft := .ofBlocks [
  .object (pickingQuestion option),
  .object [("id", .string "end"), ("kind", .string "final")]]

/-- A bare text is accepted as an option, whatever it is. -/
theorem wellFormed_picking (s : String) : (picking (.string s)).WellFormed .standard :=
  issues_eq_nil_iff.1 rfl

/-- In the draft `picking`, with a bare text that can be seen, so can the ids of the choice. -/
theorem ids_are_visible_iff_picking :
    ∃ graph block rest, (picking (.string "tea")).toGraph .standard = .ok graph ∧
      graph.blocks = block :: rest ∧ Visible block.id ∧
      ∀ id ∈ block.kind.partIds .option, Visible id := by
  obtain ⟨graph, _, hgraph, -⟩ := (wellFormed_picking "tea").toGraph_eq
  have hlisted : listedParts .standard .option (.object (pickingQuestion (.string "tea"))) =
      [.string "tea"] := rfl
  obtain ⟨block, rest, ⟨hid, -, hparts⟩, -, hblocks⟩ :=
    List.forall₂_cons_left_iff.1 (ids_are_visible_iff hgraph)
  refine ⟨graph, block, rest, hgraph, hblocks, hid, (hparts .option).2 ?_⟩
  intro s hmem
  rw [hlisted, List.mem_singleton] at hmem
  cases hmem
  decide

/-- **A blank text becomes the id of an option**, while an object with a blank id has none. -/
theorem blank_text_is_an_id :
    ¬ Visible " " ∧
    (∃ graph, (picking (.string " ")).toGraph .standard = .ok graph ∧
      graph.blocks.map (fun block => block.kind.partIds .option) = [[" "], []]) ∧
    (picking (.object [("id", .string " ")])).toGraph .standard =
      .error (.malformed [⟨some "pick", some 0, .partWithoutId .option 0⟩]) := by
  obtain ⟨graph, _, hgraph, hblocks, -⟩ := (wellFormed_picking " ").toGraph_eq
  refine ⟨by decide, ⟨graph, hgraph, ?_⟩, rfl⟩
  rw [hblocks]
  decide +kernel

end Draft

end Document

end Questionnaire
