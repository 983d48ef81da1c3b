/-
**Surveys that a walk cannot leave.**

A review that finds no fault says, among other things, that the start of the survey exists, that
every block but a final one leads on, and that it leads to existing blocks only.  These three facts
come from different checks of the review, and together they keep a walk inside the survey.

Main definitions:

* `Questionnaire.Graph.Closed` — a survey that a walk cannot leave;
* `Questionnaire.Graph.retry` — a small survey without faults, in which a question can recur.

Main results:

* `Questionnaire.Graph.faults_eq_nil_iff` — a survey has no fault when its start exists and none of
  its blocks has one;
* `Questionnaire.Graph.closed_of_faults_eq_nil` — **a survey without faults is closed**.
-/

import Questionnaire.Review

set_option autoImplicit false

namespace Questionnaire

namespace Block

variable {graph : Graph} {block : Block}

theorem faults_eq_nil_iff : block.faults graph = [] ↔
    block.kindFaults = [] ∧ block.variableFaults = [] ∧ block.optionFaults = [] ∧
      block.attributeFaults = [] ∧ block.nextFaults = [] ∧ block.targetFaults graph = [] := by
  simp only [faults, List.append_eq_nil_iff, and_assoc]

/-- A kind is at fault exactly when it is not known. -/
theorem kindFaults_eq_nil_iff : block.kindFaults = [] ↔ block.kind.kindName? ≠ none := by
  unfold kindFaults
  cases block.kind <;> simp [Kind.kindName?]

/-- A missing transition is a fault of every known kind but the final one. -/
theorem nextFaults_eq_nil_iff : block.nextFaults = [] ↔
    (block.kind.kindName? ≠ none → block.isFinal = false → block.next ≠ none) := by
  unfold nextFaults isFinal
  cases block.kind <;> simp [Kind.kindName?, Kind.isFinal]

/-- The targets are without fault exactly when all of them exist. -/
theorem targetFaults_eq_nil_iff :
    block.targetFaults graph = [] ↔ ∀ id ∈ block.targets, graph.has id = true := by
  simp [targetFaults, List.filter_eq_nil_iff, List.mem_eraseDups]

/-- A block without faults leads on unless it is final. -/
theorem next_ne_none_of_faults_eq_nil (h : block.faults graph = []) (hopen : block.isFinal = false) :
    block.next ≠ none := by
  obtain ⟨hkind, -, -, -, hnext, -⟩ := faults_eq_nil_iff.1 h
  exact nextFaults_eq_nil_iff.1 hnext (kindFaults_eq_nil_iff.1 hkind) hopen

end Block

namespace Graph

variable {graph : Graph}

/-- **A survey that a walk cannot leave**: its start exists, every block but a final one leads on,
and it leads to existing blocks only. -/
structure Closed (graph : Graph) : Prop where
  has_start : graph.has graph.start = true
  next_ne_none : ∀ block ∈ graph.blocks, block.isFinal = false → block.next ≠ none
  has_target : ∀ block ∈ graph.blocks, ∀ id ∈ block.targets, graph.has id = true

theorem faults_eq_nil_iff : graph.faults = [] ↔
    graph.has graph.start = true ∧ ∀ block ∈ graph.blocks, block.faults graph = [] := by
  unfold faults
  cases hstart : graph.has graph.start <;>
    simp [about, List.flatMap_eq_nil_iff]

/-- **A survey without faults is closed.** -/
theorem closed_of_faults_eq_nil (h : graph.faults = []) : graph.Closed := by
  obtain ⟨hstart, hblocks⟩ := faults_eq_nil_iff.1 h
  refine ⟨hstart, ?_, ?_⟩
  · intro block hmem hopen
    exact Block.next_ne_none_of_faults_eq_nil (hblocks block hmem) hopen
  · intro block hmem
    obtain ⟨-, -, -, -, -, htargets⟩ := Block.faults_eq_nil_iff.1 (hblocks block hmem)
    exact Block.targetFaults_eq_nil_iff.1 htargets

/-- A review is passed exactly when there is no fault, whatever its settings. -/
theorem isValid_review_iff {settings : ReviewSettings} :
    (graph.review settings).isValid = true ↔ graph.faults = [] := by
  rw [Report.isValid, review_faults, List.isEmpty_iff]

/-- A survey of one question, which is asked once more when the answer is "again", and an end. -/
def retry : Graph where
  start := "ask"
  title := none
  expectedMinutes := none
  blocks := [
    { id := "ask"
      kind := .textInput none
      prompt := none
      variableName := some "reply"
      next := some (.conditional [⟨⟨"reply", .equals (.text "again")⟩, "ask"⟩] "end") },
    { id := "end", kind := .final, prompt := none, variableName := none, next := none }]
  blocks_ne_nil := List.cons_ne_nil _ _
  nodup_ids := by decide +kernel

theorem faults_retry : retry.faults = [] := by
  rw [← List.isEmpty_iff]
  decide +kernel

end Graph

end Questionnaire
