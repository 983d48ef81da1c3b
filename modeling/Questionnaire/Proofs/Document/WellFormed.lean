/-
**Which documents describe a survey.**

Reading a survey does not stop at a broken block: every block is read, and what is wrong with it is
reported with its position and its id.  This module says, apart from the readers, what can be wrong
with the document of a block, and shows that reading meets these problems and no others.  In
particular a block is never dropped in silence: if it cannot be read, then there is a problem to
report.  A draft is then accepted exactly when it is well formed.

Main definitions:

* `Questionnaire.Document.AttributeProblem`, `Questionnaire.Document.HasProblem` — **what can be
  wrong with the document of a block**, said without the readers;
* `Questionnaire.Document.problems` — the problems of a block's document, in the order in which they
  are met;
* `Questionnaire.Document.Draft.WellFormed` — drafts without problems.

Main results:

* `Questionnaire.Document.mem_readKind_problems_iff`, `Questionnaire.Document.mem_problems_iff` —
  reading meets the problems that there are;
* `Questionnaire.Document.exists_outcome_eq_ok_iff` — **a block without problems is read**;
* `Questionnaire.Document.Draft.issues_eq` — the issues of a draft, in their order;
* `Questionnaire.Document.Draft.toGraph_accepts_exactly_wellFormed` — **a draft is accepted exactly
  when it is well formed**, without losing a block, and otherwise all that is wrong is reported.
-/

import Mathlib.Data.List.Forall2
import Questionnaire.Document.Draft

set_option autoImplicit false

namespace Questionnaire

namespace KindName

/-- The two keys under which a kind may have a count. -/
def countKeys? : KindName → Option (String × String)
  | .textInput => some ("maxLength", "max_length")
  | .multiChoice => some ("maxSelections", "max_selections")
  | _ => none

/-- The parts that a kind lists. -/
def part? : KindName → Option Part
  | .singleChoice => some .option
  | .multiChoice => some .option
  | .scale => some .option
  | .contactForm => some .field
  | .demographics => some .field
  | _ => none

end KindName

namespace Document

/-! ### What can be wrong with a block -/

/-- **What can be wrong with a part of a list**: it is an object without an id, or it is neither an
object nor a text. -/
inductive PartProblem (part : Part) (position : Nat) : Json → Problem → Prop where
  | withoutId {members : Members} (hid : id? members = none) :
      PartProblem part position (.object members) (.partWithoutId part position)
  | ofWrongShape {raw : Json} (hstring : raw.shape ≠ .string) (hobject : raw.shape ≠ .object) :
      PartProblem part position raw (.partOfWrongShape part position raw.shape)

/-- **What can be wrong with a bound**: it is neither a number nor null. -/
inductive BoundProblem (members : Members) (key : String) : Problem → Prop where
  | notANumber {raw : Json} (hget : Keyed.get? members key = some raw) (hnull : raw.shape ≠ .null)
      (hnumber : raw.shape ≠ .number) : BoundProblem members key (.notANumber key raw.shape)

/-- **What can be wrong with a count**: it is neither a natural number nor null.  It is looked for
under its second key only when there is nothing under the first. -/
inductive CountProblem (members : Members) (first second : String) : Problem → Prop where
  | notACount {key : String} {raw : Json}
      (hkey : key = first ∨ key = second ∧ Keyed.get? members first = none)
      (hget : Keyed.get? members key = some raw) (hnull : raw.shape ≠ .null)
      (hcount : raw.number?.bind JsonNumber.toNat? = none) :
      CountProblem members first second (.notACount key raw)

/-- **What can be wrong with the parts of a block**: they are no array, though options may be null,
or something is wrong with one of them. -/
inductive PartsProblem (members : Members) (part : Part) : Problem → Prop where
  | notAnArray {raw : Json} (hget : Keyed.get? members (memberOf part) = some raw)
      (harray : raw.shape ≠ .array) (hnull : part = .option → raw.shape ≠ .null) :
      PartsProblem members part (.partsNotAnArray part raw.shape)
  | ofPart {raws : List Json} {position : Nat} {raw : Json} {problem : Problem}
      (hget : Keyed.get? members (memberOf part) = some (.array raws))
      (hraw : raws[position]? = some raw) (hproblem : PartProblem part position raw problem) :
      PartsProblem members part problem

/-- **What can be wrong with the attributes of a kind**: with the bounds of a range, with its count
and with its parts. -/
inductive AttributeProblem (members : Members) : KindName → Problem → Prop where
  | min {problem : Problem} (hproblem : BoundProblem members "min" problem) :
      AttributeProblem members .numberInput problem
  | max {problem : Problem} (hproblem : BoundProblem members "max" problem) :
      AttributeProblem members .numberInput problem
  | count {kind : KindName} {first second : String} {problem : Problem}
      (hkeys : kind.countKeys? = some (first, second))
      (hproblem : CountProblem members first second problem) : AttributeProblem members kind problem
  | parts {kind : KindName} {part : Part} {problem : Problem} (hpart : kind.part? = some part)
      (hproblem : PartsProblem members part problem) : AttributeProblem members kind problem

/-- **What can be wrong with the document of a block**: it is no object, its id or the name of its
kind is missing, its transition cannot be read, or something is wrong with the attributes of its
kind.  A kind that the vocabulary does not know has no attributes. -/
inductive HasProblem (vocabulary : Vocabulary) : Json → Problem → Prop where
  | notAnObject {raw : Json} (hobject : raw.shape ≠ .object) :
      HasProblem vocabulary raw (.notAnObject raw.shape)
  | missingId {members : Members} (hid : id? members = none) :
      HasProblem vocabulary (.object members) .missingId
  | missingKind {members : Members} (hname : kindName? members = none) :
      HasProblem vocabulary (.object members) .missingKind
  | transition {members : Members} {raw : Json} {problem : TransitionProblem}
      (hget : Keyed.get? members "next" = some raw) (hnull : raw.shape ≠ .null)
      (hread : readTransition (blockVariable? members) raw = .error problem) :
      HasProblem vocabulary (.object members) (.transition problem)
  | attributes {members : Members} {name : String} {kind : KindName} {problem : Problem}
      (hname : kindName? members = some name) (hkind : vocabulary.kind? name = some kind)
      (hproblem : AttributeProblem members kind problem) :
      HasProblem vocabulary (.object members) problem

/-- The id by which a block's document can be told, whatever else is wrong with it. -/
def usableId? : Json → Option String
  | .object members => id? members
  | _ => none

/-- The problems of a block's document, in the order in which they are met: its id, its kind, its
transition, and the attributes of its kind. -/
def problems (vocabulary : Vocabulary) : Json → List Problem
  | .object members =>
    (if (id? members).isNone then [.missingId] else []) ++
      (if (kindName? members).isNone then [.missingKind] else []) ++
      (readNext members (blockVariable? members)).problems ++
      (readNamedKind vocabulary members (kindName? members)).problems
  | other => [.notAnObject other.shape]

/-! ### What reading meets -/

/-- How the parts of a list are read: a text always, an object if it has an id, nothing else. -/
structure ReadsPart {α : Type} (part : Part) (read : Nat → Json → Except Problem α) : Prop where
  text : ∀ position s, ∃ a, read position (.string s) = .ok a
  withId : ∀ position members, id? members ≠ none → ∃ a, read position (.object members) = .ok a
  withoutId : ∀ position members, id? members = none →
    read position (.object members) = .error (.partWithoutId part position)
  other : ∀ position raw, raw.shape ≠ .string → raw.shape ≠ .object →
    read position raw = .error (.partOfWrongShape part position raw.shape)

theorem readsPart_readChoice : ReadsPart .option readChoice where
  text := fun _ _ => ⟨_, rfl⟩
  withId := by
    intro position members hid
    obtain ⟨id, hid⟩ := Option.ne_none_iff_exists'.1 hid
    simp only [readChoice, hid]
    exact ⟨_, rfl⟩
  withoutId := by
    intro position members hid
    simp only [readChoice, hid]
  other := by
    intro position raw hstring hobject
    cases raw with
    | string s => exact absurd rfl hstring
    | object members => exact absurd rfl hobject
    | _ => rfl

theorem readsPart_readField : ReadsPart .field readField where
  text := fun _ _ => ⟨_, rfl⟩
  withId := by
    intro position members hid
    obtain ⟨id, hid⟩ := Option.ne_none_iff_exists'.1 hid
    simp only [readField, hid]
    exact ⟨_, rfl⟩
  withoutId := by
    intro position members hid
    simp only [readField, hid]
  other := by
    intro position raw hstring hobject
    cases raw with
    | string s => exact absurd rfl hstring
    | object members => exact absurd rfl hobject
    | _ => rfl

section Attributes

variable {members : Members} {problem : Problem}

/-- Reading a part meets what is wrong with it. -/
theorem ReadsPart.eq_error_iff {α : Type} {part : Part} {read : Nat → Json → Except Problem α}
    (h : ReadsPart part read) {position : Nat} {raw : Json} :
    read position raw = .error problem ↔ PartProblem part position raw problem := by
  constructor
  · intro herror
    by_cases hstring : raw.shape = .string
    · cases raw <;> cases hstring
      obtain ⟨a, hok⟩ := h.text position _
      rw [hok] at herror
      cases herror
    · by_cases hobject : raw.shape = .object
      · cases raw <;> cases hobject
        rename_i members
        by_cases hid : id? members = none
        · rw [h.withoutId position members hid] at herror
          cases herror
          exact .withoutId hid
        · obtain ⟨a, hok⟩ := h.withId position members hid
          rw [hok] at herror
          cases herror
      · rw [h.other position raw hstring hobject] at herror
        cases herror
        exact .ofWrongShape hstring hobject
  · intro hproblem
    cases hproblem with
    | withoutId hid => exact h.withoutId position _ hid
    | ofWrongShape hstring hobject => exact h.other position raw hstring hobject

/-- Reading a list meets what is wrong with its parts, each with its position. -/
theorem ReadsPart.mem_problems_iff {α : Type} {part : Part} {read : Nat → Json → Except Problem α}
    (h : ReadsPart part read) {raws : List Json} : problem ∈ (readParts read raws).problems ↔
      ∃ (position : Nat) (raw : Json), raws[position]? = some raw ∧
        PartProblem part position raw problem := by
  simp only [readParts, Checked.ofList, List.mem_filterMap, List.mem_map, Prod.exists,
    List.mem_zipIdx_iff_getElem?, ← h.eq_error_iff]
  constructor
  · rintro ⟨_, ⟨raw, position, hraw, rfl⟩, hproblem⟩
    refine ⟨position, raw, hraw, ?_⟩
    split at hproblem
    · cases hproblem
    · rename_i hread
      rw [hread, Option.some.inj hproblem]
  · rintro ⟨position, raw, hraw, hread⟩
    exact ⟨_, ⟨raw, position, hraw, rfl⟩, by rw [hread]⟩

theorem mem_readNumber_problems_iff {key : String} :
    problem ∈ (readNumber members key).problems ↔ BoundProblem members key problem := by
  unfold readNumber
  constructor
  · intro h
    cases hget : Keyed.get? members key with
    | none => simp [hget] at h
    | some raw =>
        rw [hget] at h
        cases raw with
        | null => cases h
        | number n => cases h
        | _ =>
            rw [List.mem_singleton.1 h]
            exact .notANumber hget nofun nofun
  · intro h
    cases h with
    | @notANumber raw hget hnull hnumber =>
        rw [hget]
        cases raw with
        | null => exact absurd rfl hnull
        | number n => exact absurd rfl hnumber
        | _ => exact List.mem_singleton.2 rfl

/-- A count is read under the first of its keys that is there. -/
theorem readCount_problems_of_get? {first second key : String} {raw : Json}
    (hkey : key = first ∨ key = second ∧ Keyed.get? members first = none)
    (hget : Keyed.get? members key = some raw) :
    (readCount members first second).problems =
      if raw.shape ≠ .null ∧ raw.number?.bind JsonNumber.toNat? = none then [.notACount key raw]
      else [] := by
  have hfound : ((Keyed.get? members first).map fun raw => (first, raw)).or
      ((Keyed.get? members second).map fun raw => (second, raw)) = some (key, raw) := by
    rcases hkey with rfl | ⟨rfl, hfirst⟩
    · rw [hget, Option.map_some, Option.some_or]
    · rw [hfirst, hget, Option.map_none, Option.none_or, Option.map_some]
  simp only [readCount, hfound]
  cases raw with
  | number n => cases hcount : n.toNat? <;> simp [Json.shape, Json.number?, hcount]
  | _ => simp [Json.shape, Json.number?]

theorem mem_readCount_problems_iff {first second : String} :
    problem ∈ (readCount members first second).problems ↔
      CountProblem members first second problem := by
  constructor
  · intro h
    have hfound : ∃ key raw, (key = first ∨ key = second ∧ Keyed.get? members first = none) ∧
        Keyed.get? members key = some raw := by
      cases hfirst : Keyed.get? members first with
      | some raw => exact ⟨first, raw, .inl rfl, hfirst⟩
      | none =>
          cases hsecond : Keyed.get? members second with
          | some raw => exact ⟨second, raw, .inr ⟨rfl, rfl⟩, hsecond⟩
          | none => simp [readCount, hfirst, hsecond] at h
    obtain ⟨key, raw, hkey, hget⟩ := hfound
    rw [readCount_problems_of_get? hkey hget] at h
    split at h
    · rename_i hcount
      rw [List.mem_singleton.1 h]
      exact .notACount hkey hget hcount.1 hcount.2
    · cases h
  · intro h
    cases h with
    | notACount hkey hget hnull hcount =>
        rw [readCount_problems_of_get? hkey hget, if_pos ⟨hnull, hcount⟩]
        exact List.mem_singleton.2 rfl

/-- Parts under a key are read by a reader of parts if they are an array. -/
theorem partsProblem_iff {part : Part} {raw : Json}
    (hget : Keyed.get? members (memberOf part) = some raw) :
    PartsProblem members part problem ↔
      (raw.shape ≠ .array ∧ (part = .option → raw.shape ≠ .null) ∧
        problem = .partsNotAnArray part raw.shape) ∨
      ∃ raws, raw = .array raws ∧ ∃ (position : Nat) (raw : Json), raws[position]? = some raw ∧
        PartProblem part position raw problem := by
  constructor
  · intro h
    cases h with
    | notAnArray hget' harray hnull =>
        cases hget.symm.trans hget'
        exact .inl ⟨harray, hnull, rfl⟩
    | ofPart hget' hraw hproblem =>
        cases hget.symm.trans hget'
        exact .inr ⟨_, rfl, _, _, hraw, hproblem⟩
  · rintro (⟨harray, hnull, rfl⟩ | ⟨raws, rfl, position, raw, hraw, hproblem⟩)
    · exact .notAnArray hget harray hnull
    · exact .ofPart hget hraw hproblem

theorem not_partsProblem {part : Part} (hget : Keyed.get? members (memberOf part) = none) :
    ¬ PartsProblem members part problem := by
  intro h
  cases h with
  | notAnArray hget' =>
      rw [hget] at hget'
      cases hget'
  | ofPart hget' =>
      rw [hget] at hget'
      cases hget'

theorem mem_readChoices_problems_iff :
    problem ∈ (readChoices members).problems ↔ PartsProblem members .option problem := by
  unfold readChoices
  cases hget : Keyed.get? members "options" with
  | none => exact iff_of_false List.not_mem_nil (not_partsProblem hget)
  | some raw =>
      rw [partsProblem_iff hget]
      cases raw <;> simp [Json.shape, readsPart_readChoice.mem_problems_iff]

theorem mem_readFields_problems_iff :
    problem ∈ (readFields members).problems ↔ PartsProblem members .field problem := by
  unfold readFields
  cases hget : Keyed.get? members "fields" with
  | none => exact iff_of_false List.not_mem_nil (not_partsProblem hget)
  | some raw =>
      rw [partsProblem_iff hget]
      cases raw <;> simp [Json.shape, readsPart_readField.mem_problems_iff]

/-- **Reading the attributes of a kind meets what is wrong with them.** -/
theorem mem_readKind_problems_iff {kind : KindName} :
    problem ∈ (readKind members kind).problems ↔ AttributeProblem members kind problem := by
  constructor
  · intro h
    cases kind with
    | textInput => exact .count rfl (mem_readCount_problems_iff.1 h)
    | numberInput =>
        rcases List.mem_append.1 h with h | h
        · exact .min (mem_readNumber_problems_iff.1 h)
        · exact .max (mem_readNumber_problems_iff.1 h)
    | singleChoice => exact .parts rfl (mem_readChoices_problems_iff.1 h)
    | multiChoice =>
        rcases List.mem_append.1 h with h | h
        · exact .parts rfl (mem_readChoices_problems_iff.1 h)
        · exact .count rfl (mem_readCount_problems_iff.1 h)
    | scale => exact .parts rfl (mem_readChoices_problems_iff.1 h)
    | contactForm => exact .parts rfl (mem_readFields_problems_iff.1 h)
    | demographics => exact .parts rfl (mem_readFields_problems_iff.1 h)
    | message => cases h
    | yesNo => cases h
    | video => cases h
    | final => cases h
  · intro h
    cases h with
    | min hproblem => exact List.mem_append_left _ (mem_readNumber_problems_iff.2 hproblem)
    | max hproblem => exact List.mem_append_right _ (mem_readNumber_problems_iff.2 hproblem)
    | count hkeys hproblem =>
        have hmem := mem_readCount_problems_iff.2 hproblem
        cases kind with
        | textInput =>
            cases hkeys
            exact hmem
        | multiChoice =>
            cases hkeys
            exact List.mem_append_right _ hmem
        | _ => cases hkeys
    | parts hpart hproblem =>
        cases kind with
        | singleChoice =>
            cases hpart
            exact mem_readChoices_problems_iff.2 hproblem
        | multiChoice =>
            cases hpart
            exact List.mem_append_left _ (mem_readChoices_problems_iff.2 hproblem)
        | scale =>
            cases hpart
            exact mem_readChoices_problems_iff.2 hproblem
        | contactForm =>
            cases hpart
            exact mem_readFields_problems_iff.2 hproblem
        | demographics =>
            cases hpart
            exact mem_readFields_problems_iff.2 hproblem
        | _ => cases hpart

end Attributes

/-! ### Blocks -/

section Blocks

variable {vocabulary : Vocabulary} {members : Members} {raw : Json} {problem : Problem}

theorem mem_readNext_problems_iff {blockVariable : Option String} :
    problem ∈ (readNext members blockVariable).problems ↔
      ∃ raw cause, Keyed.get? members "next" = some raw ∧ raw.shape ≠ .null ∧
        readTransition blockVariable raw = .error cause ∧ problem = .transition cause := by
  unfold readNext
  split
  · rename_i hget
    simp [hget]
  · rename_i hget
    simp [hget, Json.shape]
  · rename_i raw hnull hget
    have hshape : raw.shape ≠ .null := by
      intro h
      cases raw <;> cases h
      exact hnull rfl
    split <;> rename_i hread <;> simp [hget, hshape, hread]

theorem mem_readNamedKind_problems_iff {name : Option String} :
    problem ∈ (readNamedKind vocabulary members name).problems ↔
      ∃ text kind, name = some text ∧ vocabulary.kind? text = some kind ∧
        AttributeProblem members kind problem := by
  unfold readNamedKind
  cases name with
  | none => simp
  | some text =>
      cases hkind : vocabulary.kind? text with
      | none => simp [hkind]
      | some kind => simp [hkind, Checked.map, mem_readKind_problems_iff]

/-- A kind is read exactly if it has a name. -/
theorem readNamedKind_value_eq_none_iff {name : Option String} :
    (readNamedKind vocabulary members name).value = none ↔ name = none := by
  unfold readNamedKind
  cases name with
  | none => simp
  | some text => cases hkind : vocabulary.kind? text <;> simp [hkind, Checked.map]

/-- **The problems of a block's document are what is wrong with it.** -/
theorem mem_problems_iff :
    problem ∈ problems vocabulary raw ↔ HasProblem vocabulary raw problem := by
  constructor
  · intro h
    cases raw with
    | object members =>
        simp only [problems, List.mem_append, mem_readNext_problems_iff,
          mem_readNamedKind_problems_iff] at h
        rcases h with ((hid | hname) | ⟨raw, cause, hget, hnull, hread, rfl⟩) |
          ⟨name, kind, hname, hkind, hproblem⟩
        · split at hid
          · rename_i hnone
            rw [List.mem_singleton.1 hid]
            exact .missingId (Option.isNone_iff_eq_none.1 hnone)
          · cases hid
        · split at hname
          · rename_i hnone
            rw [List.mem_singleton.1 hname]
            exact .missingKind (Option.isNone_iff_eq_none.1 hnone)
          · cases hname
        · exact .transition hget hnull hread
        · exact .attributes hname hkind hproblem
    | _ =>
        rw [List.mem_singleton.1 h]
        exact .notAnObject nofun
  · intro h
    cases h with
    | notAnObject hobject =>
        cases raw with
        | object members => exact absurd rfl hobject
        | _ => exact List.mem_singleton.2 rfl
    | missingId hid => simp [problems, hid]
    | missingKind hname => simp [problems, hname]
    | transition hget hnull hread =>
        simp only [problems, List.mem_append, mem_readNext_problems_iff]
        exact .inl (.inr ⟨_, _, hget, hnull, hread, rfl⟩)
    | attributes hname hkind hproblem =>
        simp only [problems, List.mem_append, mem_readNamedKind_problems_iff]
        exact .inr ⟨_, _, hname, hkind, hproblem⟩

/-- A block's problems are reported under the id that can be used. -/
theorem readBlock_id (vocabulary : Vocabulary) (raw : Json) :
    (readBlock vocabulary raw).id = usableId? raw := by
  cases raw with
  | object members =>
      simp only [readBlock, usableId?]
      split
      · rename_i hid _
        exact hid.symm
      · rfl
  | _ => rfl

/-- **A block with problems is not dropped in silence**: all of them are reported. -/
theorem readBlock_outcome_of_problems_ne_nil (h : problems vocabulary raw ≠ []) :
    (readBlock vocabulary raw).outcome = .error (problems vocabulary raw) := by
  cases raw with
  | object members =>
      simp only [readBlock]
      split
      · rename_i hnil _ _
        exact absurd hnil h
      · rfl
  | _ => rfl

/-- **A block without problems is read**, under its id. -/
theorem readBlock_outcome_of_problems_eq_nil (h : problems vocabulary raw = []) :
    ∃ block, (readBlock vocabulary raw).outcome = .ok block ∧ usableId? raw = some block.id := by
  cases raw with
  | object members =>
      have hnone := fun problem => (mem_problems_iff.not.1 (h ▸ List.not_mem_nil (a := problem)))
      obtain ⟨id, hid⟩ : ∃ id, id? members = some id := by
        refine Option.ne_none_iff_exists'.1 fun hid => hnone _ (.missingId hid)
      obtain ⟨kind, hkind⟩ : ∃ kind,
          (readNamedKind vocabulary members (kindName? members)).value = some kind := by
        refine Option.ne_none_iff_exists'.1 fun hkind => ?_
        exact hnone _ (.missingKind (readNamedKind_value_eq_none_iff.1 hkind))
      simp only [readBlock]
      split
      · rename_i _ hid' _
        exact ⟨_, rfl, hid'⟩
      · rename_i hother
        exact absurd hkind (hother id kind h hid)
  | _ => cases h

/-- What a block's document is read as, if it can be read. -/
def block? (vocabulary : Vocabulary) (raw : Json) : Option Block :=
  (readBlock vocabulary raw).outcome.toOption

theorem block?_of_outcome {block : Block} (h : (readBlock vocabulary raw).outcome = .ok block) :
    block? vocabulary raw = some block := by
  rw [block?, h]
  rfl

theorem block?_of_problems_ne_nil (h : problems vocabulary raw ≠ []) :
    block? vocabulary raw = none := by
  rw [block?, readBlock_outcome_of_problems_ne_nil h]
  rfl

/-- A block is read exactly if it has no problem. -/
theorem exists_outcome_eq_ok_iff : (∃ block, (readBlock vocabulary raw).outcome = .ok block) ↔
    problems vocabulary raw = [] := by
  constructor
  · rintro ⟨block, hblock⟩
    by_contra hne
    rw [readBlock_outcome_of_problems_ne_nil hne] at hblock
    cases hblock
  · intro h
    obtain ⟨block, hblock, -⟩ := readBlock_outcome_of_problems_eq_nil h
    exact ⟨block, hblock⟩

end Blocks

/-! ### Drafts -/

namespace Draft

variable {vocabulary : Vocabulary} {draft : Draft}

/-- The ids of the blocks without problems, in order. -/
def readableIds (vocabulary : Vocabulary) (draft : Draft) : List String :=
  (draft.blocks.filter fun raw => (problems vocabulary raw).isEmpty).filterMap usableId?

/-- **A well formed draft**: it has blocks, none of them has a problem, and their ids differ. -/
structure WellFormed (vocabulary : Vocabulary) (draft : Draft) : Prop where
  blocks_ne_nil : draft.blocks ≠ []
  readable : ∀ raw ∈ draft.blocks, ∀ problem, ¬ HasProblem vocabulary raw problem
  nodup_ids : (draft.blocks.filterMap usableId?).Nodup

/-- The good blocks of a draft are what its blocks are read as, where they can be. -/
theorem goodBlocks_eq (vocabulary : Vocabulary) (draft : Draft) :
    draft.goodBlocks vocabulary =
      draft.blocks.filterMap (block? vocabulary) := by
  have hgood : draft.goodBlocks vocabulary = (draft.readings vocabulary).filterMap
      ((fun reading => reading.outcome.toOption) ∘ Prod.fst) := rfl
  rw [hgood, readings, ← List.filterMap_map, List.zipIdx_map_fst, List.filterMap_map]
  rfl

/-- Only blocks without problems are good, and they go by their own ids. -/
theorem map_id_goodBlocks (vocabulary : Vocabulary) (draft : Draft) :
    (draft.goodBlocks vocabulary).map Block.id = draft.readableIds vocabulary := by
  rw [goodBlocks_eq, readableIds]
  induction draft.blocks with
  | nil => rfl
  | cons raw raws ih =>
      by_cases hraw : problems vocabulary raw = []
      · obtain ⟨block, hblock, hid⟩ := readBlock_outcome_of_problems_eq_nil hraw
        rw [List.filterMap_cons_some (block?_of_outcome hblock),
          List.filter_cons_of_pos (by simp [hraw]), List.filterMap_cons_some hid, List.map_cons, ih]
      · rw [List.filterMap_cons_none (block?_of_problems_ne_nil hraw),
          List.filter_cons_of_neg (by simp [hraw]), ih]

theorem blockIssues_readBlock (vocabulary : Vocabulary) (raw : Json) (position : Nat) :
    blockIssues (readBlock vocabulary raw) position =
      (problems vocabulary raw).map fun problem => ⟨usableId? raw, some position, problem⟩ := by
  by_cases hraw : problems vocabulary raw = []
  · obtain ⟨block, hblock, -⟩ := readBlock_outcome_of_problems_eq_nil hraw
    simp [blockIssues, hblock, hraw]
  · simp [blockIssues, readBlock_outcome_of_problems_ne_nil hraw, readBlock_id]

/-- **The issues of a draft, in their order**: that it has no block, the problems of its blocks in
the order of the blocks, and the ids that several blocks without problems share. -/
theorem issues_eq (vocabulary : Vocabulary) (draft : Draft) :
    draft.issues vocabulary =
      (if draft.blocks = [] then [⟨none, none, .noBlocks⟩] else []) ++
      (draft.blocks.zipIdx.flatMap fun entry =>
        (problems vocabulary entry.1).map fun problem =>
          ⟨usableId? entry.1, some entry.2, problem⟩) ++
      (repeated (draft.readableIds vocabulary)).map fun id => ⟨some id, none, .repeatedId⟩ := by
  have hblocks : ((draft.readings vocabulary).flatMap fun entry =>
      blockIssues entry.1 entry.2) = draft.blocks.zipIdx.flatMap fun entry =>
        (problems vocabulary entry.1).map fun problem =>
          ⟨usableId? entry.1, some entry.2, problem⟩ := by
    rw [readings, List.zipIdx_map, List.flatMap_map]
    refine List.flatMap_congr fun entry _ => ?_
    exact blockIssues_readBlock vocabulary entry.1 entry.2
  simp only [issues, map_id_goodBlocks, hblocks, List.isEmpty_iff]
  rfl

/-- No block has a problem exactly when reading meets none. -/
theorem readable_iff : (∀ raw ∈ draft.blocks, ∀ problem, ¬ HasProblem vocabulary raw problem) ↔
    ∀ raw ∈ draft.blocks, problems vocabulary raw = [] := by
  simp only [List.eq_nil_iff_forall_not_mem, mem_problems_iff]

/-- Without problems, the ids of all blocks are those of the blocks without problems. -/
theorem readableIds_eq (h : ∀ raw ∈ draft.blocks, problems vocabulary raw = []) :
    draft.readableIds vocabulary = draft.blocks.filterMap usableId? := by
  rw [readableIds, List.filter_eq_self.2 fun raw hmem => by rw [h raw hmem]; rfl]

/-- **A draft has no issue exactly when it is well formed.** -/
theorem issues_eq_nil_iff : draft.issues vocabulary = [] ↔ draft.WellFormed vocabulary := by
  have hproblems : (draft.blocks.zipIdx.flatMap fun entry =>
      (problems vocabulary entry.1).map fun problem =>
        (⟨usableId? entry.1, some entry.2, problem⟩ : Issue)) = [] ↔
      ∀ raw ∈ draft.blocks, problems vocabulary raw = [] := by
    simp only [List.flatMap_eq_nil_iff, List.map_eq_nil_iff, Prod.forall]
    constructor
    · intro h raw hmem
      obtain ⟨position, hposition⟩ := List.mem_iff_getElem?.1 hmem
      exact h raw position (List.mem_zipIdx_iff_getElem?.2 hposition)
    · intro h raw position hmem
      exact h raw (List.fst_mem_of_mem_zipIdx hmem)
  rw [issues_eq, List.append_eq_nil_iff, List.append_eq_nil_iff, List.map_eq_nil_iff,
    repeated_eq_nil_iff, hproblems]
  constructor
  · rintro ⟨⟨hblocks, hread⟩, hnodup⟩
    refine ⟨?_, readable_iff.2 hread, readableIds_eq hread ▸ hnodup⟩
    rintro hempty
    rw [if_pos hempty] at hblocks
    cases hblocks
  · rintro ⟨hblocks, hreadable, hnodup⟩
    have hread := readable_iff.1 hreadable
    exact ⟨⟨if_neg hblocks, hread⟩, readableIds_eq hread ▸ hnodup⟩

/-- **The blocks of a well formed draft are all read**, one by one. -/
theorem WellFormed.forall₂_goodBlocks (h : draft.WellFormed vocabulary) :
    List.Forall₂ (fun raw block =>
      (readBlock vocabulary raw).outcome = .ok block ∧ usableId? raw = some block.id)
      draft.blocks (draft.goodBlocks vocabulary) := by
  rw [goodBlocks_eq]
  have hread := readable_iff.1 h.readable
  generalize draft.blocks = raws at hread
  induction raws with
  | nil => exact .nil
  | cons raw raws ih =>
      obtain ⟨hraw, hraws⟩ := List.forall_mem_cons.1 hread
      obtain ⟨block, hblock, hid⟩ := readBlock_outcome_of_problems_eq_nil hraw
      rw [List.filterMap_cons_some (block?_of_outcome hblock)]
      exact .cons ⟨hblock, hid⟩ (ih hraws)

/-- **A well formed draft makes a survey** of all its blocks, in their order. -/
theorem WellFormed.toGraph_eq (h : draft.WellFormed vocabulary) :
    ∃ graph first, draft.toGraph vocabulary = .ok graph ∧
      graph.blocks = draft.goodBlocks vocabulary ∧ graph.blocks.head? = some first ∧
      graph.start = draft.start.getD first.id ∧ graph.title = draft.title ∧
      graph.expectedMinutes = draft.expectedMinutes := by
  have hlength := h.forall₂_goodBlocks.length_eq
  obtain ⟨first, rest, hgood⟩ : ∃ first rest, draft.goodBlocks vocabulary = first :: rest := by
    refine List.exists_cons_of_ne_nil fun hnil => h.blocks_ne_nil ?_
    rw [hnil] at hlength
    exact List.length_eq_zero_iff.1 hlength
  have hnodup : ((draft.goodBlocks vocabulary).map Block.id).Nodup := by
    rw [map_id_goodBlocks, readableIds_eq (readable_iff.1 h.readable)]
    exact h.nodup_ids
  have hblocks : draft.goodBlocks vocabulary ≠ [] := hgood ▸ List.cons_ne_nil first rest
  let graph : Graph :=
    ⟨draft.start.getD first.id, draft.title, draft.expectedMinutes, draft.goodBlocks vocabulary,
      hblocks, hnodup⟩
  have hfirst : ((draft.goodBlocks vocabulary).head?.map Block.id).getD "" = first.id := by
    rw [hgood]
    rfl
  have hread : draft.toGraph vocabulary = .ok graph := by
    simp only [toGraph, issues_eq_nil_iff.2 h, Graph.ofBlocks, dif_pos (And.intro hblocks hnodup),
      hfirst, graph]
  exact ⟨graph, first, hread, rfl, by rw [← List.head?_cons (l := rest), ← hgood], rfl, rfl, rfl⟩

/-- A draft that is not well formed is rejected with all its issues. -/
theorem toGraph_of_not_wellFormed (h : ¬ draft.WellFormed vocabulary) :
    draft.toGraph vocabulary = .error (.malformed (draft.issues vocabulary)) := by
  rw [← issues_eq_nil_iff] at h
  unfold toGraph
  split
  · rename_i hnil
    exact absurd hnil h
  · rfl

/-- **A draft is accepted exactly when it is well formed, and nothing is lost.**  The survey of an
accepted draft has one block for each block of the draft, in their order and under their ids, and it
starts where the draft says or else at its first block.  A draft that is rejected is rejected with
everything that is wrong: that it has no block, every problem of every block in their order, with
the position of the block and its id if it has a usable one, and each id that several blocks without
problems share.  A block that cannot be read has a problem. -/
theorem toGraph_accepts_exactly_wellFormed (vocabulary : Vocabulary) (draft : Draft) :
    ((∃ graph, draft.toGraph vocabulary = .ok graph) ↔ draft.WellFormed vocabulary) ∧
    (∀ graph, draft.toGraph vocabulary = .ok graph →
      List.Forall₂ (fun raw block =>
        (readBlock vocabulary raw).outcome = .ok block ∧ usableId? raw = some block.id)
        draft.blocks graph.blocks ∧
      (∃ first, graph.blocks.head? = some first ∧ graph.start = draft.start.getD first.id) ∧
      graph.title = draft.title ∧ graph.expectedMinutes = draft.expectedMinutes) ∧
    (∀ error, draft.toGraph vocabulary = .error error →
      ∃ shared : List String, shared.Nodup ∧
        (∀ id, id ∈ shared ↔ 2 ≤ (draft.readableIds vocabulary).count id) ∧
        error = .malformed (
          (if draft.blocks = [] then [⟨none, none, .noBlocks⟩] else []) ++
          (draft.blocks.zipIdx.flatMap fun entry =>
            (problems vocabulary entry.1).map fun problem =>
              ⟨usableId? entry.1, some entry.2, problem⟩) ++
          shared.map fun id => ⟨some id, none, .repeatedId⟩)) ∧
    (∀ raw problem, problem ∈ problems vocabulary raw ↔ HasProblem vocabulary raw problem) ∧
    ∀ raw, (∀ block, (readBlock vocabulary raw).outcome ≠ .ok block) →
      ∃ problem, problem ∈ problems vocabulary raw := by
  have hwellFormed : ∀ graph, draft.toGraph vocabulary = .ok graph →
      draft.WellFormed vocabulary := by
    intro graph hgraph
    by_contra hnot
    rw [toGraph_of_not_wellFormed hnot] at hgraph
    cases hgraph
  refine ⟨⟨fun ⟨graph, hgraph⟩ => hwellFormed graph hgraph, ?_⟩, ?_, ?_,
    fun _ _ => mem_problems_iff, ?_⟩
  · intro h
    obtain ⟨graph, -, hgraph, -⟩ := h.toGraph_eq
    exact ⟨graph, hgraph⟩
  · intro graph hgraph
    have h := hwellFormed graph hgraph
    obtain ⟨made, first, hmade, hblocks, hfirst, hstart, htitle, hminutes⟩ := h.toGraph_eq
    obtain rfl : graph = made := Except.ok.inj (hgraph.symm.trans hmade)
    exact ⟨hblocks ▸ h.forall₂_goodBlocks, ⟨first, hfirst, hstart⟩, htitle, hminutes⟩
  · intro error herror
    have hnot : ¬ draft.WellFormed vocabulary := by
      intro h
      obtain ⟨graph, -, hgraph, -⟩ := h.toGraph_eq
      rw [hgraph] at herror
      cases herror
    rw [toGraph_of_not_wellFormed hnot, issues_eq] at herror
    cases herror
    exact ⟨_, nodup_repeated _, fun _ => mem_repeated_iff, rfl⟩
  · intro raw hdropped
    refine List.exists_mem_of_ne_nil _ fun hnil => ?_
    obtain ⟨block, hblock⟩ := exists_outcome_eq_ok_iff.2 hnil
    exact hdropped block hblock

/-- A draft with a block that is no object, a block with two problems, and two blocks that share an
id, once as a number and once as a text. -/
def mixed : Draft := .ofBlocks [
  .bool true,
  .object [("id", .string "a"), ("kind", .string "scale"), ("next", .string ""),
    ("options", .array [.null])],
  .object [("id", .number (.integer 7 (by decide))), ("kind", .string "message")],
  .object [("id", .string "7"), ("type", .string "Thank You")]]

/-- A draft of two blocks without a header. -/
def pair : Draft := .ofBlocks [
  .object [("id", .number (.integer 7 (by decide))), ("kind", .string "Welcome"),
    ("next", .string "end")],
  .object [("id", .string "end"), ("type", .string "Thank You")]]

/-- The draft `Draft.pair` is accepted and starts at its first block, whose id is a number; the
draft `Draft.mixed` is not. -/
theorem toGraph_accepts_exactly_wellFormed_pair :
    (∃ graph, pair.toGraph .standard = .ok graph ∧ graph.start = "7") ∧
    ∀ graph, mixed.toGraph .standard ≠ .ok graph := by
  constructor
  · obtain ⟨haccepted, hread, -⟩ := toGraph_accepts_exactly_wellFormed .standard pair
    have hpair : pair.WellFormed .standard :=
      issues_eq_nil_iff.1 (List.isEmpty_iff.1 (by decide +kernel))
    obtain ⟨graph, hgraph⟩ := haccepted.2 hpair
    obtain ⟨hblocks, ⟨first, hfirst, hstart⟩, -⟩ := hread graph hgraph
    obtain ⟨block, rest, ⟨-, hid⟩, -, hcons⟩ := List.forall₂_cons_left_iff.1 hblocks
    obtain rfl : block = first := by
      rw [hcons, List.head?_cons] at hfirst
      exact Option.some.inj hfirst
    have hseven : "7" = block.id := Option.some.inj hid
    exact ⟨graph, hgraph, hstart.trans hseven.symm⟩
  · intro graph hgraph
    obtain ⟨haccepted, -⟩ := toGraph_accepts_exactly_wellFormed .standard mixed
    exact (haccepted.1 ⟨graph, hgraph⟩).readable _ List.mem_cons_self _ (.notAnObject nofun)

end Draft

end Document

end Questionnaire
