/-
**Which variable a condition reads.**

Two readers name variables.  A block takes the text of its member `variable` without the blanks
around it.  A condition takes the text of its own member as it stands, and only if it has none, the
variable of its block.  So one spelling in a document may come to two variables: it comes to one
exactly if there are no blanks around it.  Since no variable of a survey has blanks around it, a
condition that is spelled with them reads a variable that nothing writes, and its rule is dead.

Main definition:

* `Questionnaire.Document.HasCondition` — the document of a condition and its place in the document
  of a block.

Main results:

* `Questionnaire.Document.exists_writesTransition_of_outcome`,
  `Questionnaire.Document.HasCondition.exists_condition` — **no condition is dropped**: each that a
  document has is found in the block, at its place;
* `Questionnaire.Document.Draft.trim_variableName` — no variable of a survey has blanks around it;
* `Questionnaire.Document.Draft.isDead_of_trim_ne` — a condition on a variable with blanks around it
  is dead;
* `Questionnaire.Document.Draft.one_spelling_one_variable_iff` — **a condition that copies the
  spelling of a block reads the variable of the block exactly if the spelling has no blanks around
  it**.
-/

import Questionnaire.Proofs.Basic
import Questionnaire.Proofs.Document.Grammar
import Questionnaire.Proofs.Document.Origin
import Questionnaire.Proofs.Session.DeadRules

set_option autoImplicit false

namespace Questionnaire

namespace Document

/-! ### Variables and conditions of a block -/

section Blocks

variable {vocabulary : Vocabulary} {members : Members} {block : Block}

/-- **The variable of a block** is what is left of its spelling without the blanks around it, if
anything is. -/
theorem blockVariable?_eq_some_iff {name : String} : blockVariable? members = some name ↔
    ∃ spelling, text? members "variable" = some spelling ∧ trim spelling = name ∧ name ≠ "" := by
  simp only [blockVariable?, Option.filter_eq_some_iff, Option.map_eq_some_iff, decide_eq_true_eq]
  constructor
  · rintro ⟨⟨spelling, hspelling, htrim⟩, hne⟩
    exact ⟨spelling, hspelling, htrim, hne⟩
  · rintro ⟨spelling, hspelling, htrim, hne⟩
    exact ⟨⟨spelling, hspelling, htrim⟩, hne⟩

/-- **The transition that a document writes is that of its block.**  If it wrote none, the block
would have a problem. -/
theorem exists_writesTransition_of_outcome
    (h : (readBlock vocabulary (.object members)).outcome = .ok block) {raw : Json}
    (hget : Keyed.get? members "next" = some raw) (hnull : raw.shape ≠ .null) :
    ∃ transition, block.next = some transition ∧
      WritesTransition block.variableName raw transition := by
  have hread := readFrom_of_outcome h
  have hproblems : problems vocabulary (.object members) = [] :=
    exists_outcome_eq_ok_iff.1 ⟨block, h⟩
  cases htransition : readTransition (blockVariable? members) raw with
  | error problem =>
      have hmem : .transition problem ∈ problems vocabulary (.object members) :=
        mem_problems_iff.2 (.transition hget hnull htransition)
      rw [hproblems] at hmem
      cases hmem
  | ok transition =>
      have hwrites := readTransition_eq_ok_iff.1 htransition
      refine ⟨transition, ?_, ?_⟩
      · rw [hread.next]
        exact readNext_value_eq_some_iff.2 ⟨raw, hget, hwrites⟩
      · rwa [hread.variableName]

/-- **A condition in the document of a block**: it is that of the rule at a place of the block's
transition. -/
inductive HasCondition (members : Members) (place : Nat) (given : Members) : Prop where
  | intro {transition rule : Members} {raws : List Json}
      (hnext : Keyed.get? members "next" = some (.object transition))
      (hif : Keyed.get? transition "if" = some (.array raws))
      (hrule : raws[place]? = some (.object rule))
      (hwhen : Keyed.get? rule "when" = some (.object given))

/-- **No condition is dropped**: each that the document of a block has is written at its place. -/
theorem HasCondition.exists_condition {place : Nat} {given : Members}
    (hgiven : HasCondition members place given)
    (h : (readBlock vocabulary (.object members)).outcome = .ok block) :
    ∃ transition condition, block.next = some transition ∧
      transition.conditions[place]? = some condition ∧
      WritesCondition block.variableName (.object given) condition := by
  obtain ⟨hnext, hif, hrule, hwhen⟩ := hgiven
  obtain ⟨transition, htransition, hwrites⟩ := exists_writesTransition_of_outcome h hnext nofun
  cases hwrites with
  | @conditional _ raws rules otherwise hlists hrules _ _ =>
      cases hlists with
      | absent hnone =>
          rw [hif] at hnone
          cases hnone
      | listed hlisted =>
          rw [hif] at hlisted
          cases hlisted
          obtain ⟨found, hfound, hwrites⟩ := exists_getElem?_of_forall₂ hrules hrule
          cases hwrites with
          | intro hwhen' hcondition _ _ =>
              rw [hwhen] at hwhen'
              cases hwhen'
              exact ⟨_, _, htransition, by simp [Transition.conditions, hfound], hcondition⟩

/-- **A condition that names a variable reads this one**, as it is spelled. -/
theorem WritesCondition.variableName_eq {blockVariable : Option String} {given : Members}
    {condition : Condition} {spelling : String}
    (h : WritesCondition blockVariable (.object given) condition)
    (hspelling : text? given "variable" = some spelling) : condition.variableName = spelling := by
  cases h with
  | intro hname =>
      rw [text?_eq_some_iff] at hspelling
      cases hname with
      | own hown =>
          rw [hspelling] at hown
          cases hown
          rfl
      | ofBlock hnone _ => exact absurd hspelling (hnone spelling)

end Blocks

/-! ### Variables and conditions of a survey -/

namespace Draft

variable {vocabulary : Vocabulary} {draft : Draft} {graph : Graph} {block : Block}

/-- **No variable of a survey has blanks around it.** -/
theorem trim_variableName (h : draft.toGraph vocabulary = .ok graph) (hmem : block ∈ graph.blocks)
    {name : String} (hname : block.variableName = some name) : trim name = name := by
  obtain ⟨members, -, hread⟩ := exists_readFrom h hmem
  rw [hread.variableName, blockVariable?_eq_some_iff] at hname
  obtain ⟨spelling, -, rfl, -⟩ := hname
  exact trim_trim spelling

/-- **A condition on a variable with blanks around it is dead**: no block declares this variable. -/
theorem isDead_of_trim_ne (h : draft.toGraph vocabulary = .ok graph) {condition : Condition}
    (hne : trim condition.variableName ≠ condition.variableName) :
    condition.isDead graph = true := by
  refine Condition.isDead_iff.2 (.inr fun block hmem => ?_)
  rw [← Bool.not_eq_true, Block.declares_iff]
  rintro ⟨-, hname⟩
  exact hne (trim_variableName h hmem hname)

/-- What is read of the block at a place of a draft is the block at this place of the survey. -/
theorem outcome_of_toGraph (h : draft.toGraph vocabulary = .ok graph) {i : Nat} {raw : Json}
    (hraw : draft.blocks[i]? = some raw) :
    ∃ block, graph.blocks[i]? = some block ∧ (readBlock vocabulary raw).outcome = .ok block :=
  exists_getElem?_of_forall₂ (forall₂_outcome_of_toGraph h) hraw

/-- **One spelling comes to one variable exactly if there are no blanks around it.**  In a draft
that makes a survey, let a block have a spelling and keep a variable, and let a condition anywhere
have the very same spelling.  The condition is found at its place in the survey.  It reads the
variable that is spelled, while the variable of the block is the spelling without the blanks around
it.  If there are such blanks, the condition is dead: it holds in no session on the survey. -/
theorem one_spelling_one_variable_iff (h : draft.toGraph vocabulary = .ok graph)
    {i j place : Nat} {members others given : Members} {spelling name : String}
    (hmembers : draft.blocks[i]? = some (.object members)) (hblock : graph.blocks[i]? = some block)
    (hspelling : text? members "variable" = some spelling) (hname : block.variableName = some name)
    (hothers : draft.blocks[j]? = some (.object others)) (hgiven : HasCondition others place given)
    (hcopy : text? given "variable" = some spelling) :
    ∃ other transition condition, graph.blocks[j]? = some other ∧ other.next = some transition ∧
      transition.conditions[place]? = some condition ∧
      condition.variableName = spelling ∧ name = trim spelling ∧
      (condition.variableName = name ↔ trim spelling = spelling) ∧
      (trim spelling ≠ spelling → condition.isDead graph = true ∧
        ∀ conduct session, Session.Reached conduct graph session →
          condition.holds session.bindings = false) := by
  -- the block trims the spelling
  obtain ⟨read, hplace, houtcome⟩ := outcome_of_toGraph h hmembers
  obtain rfl : block = read := Option.some.inj (hblock.symm.trans hplace)
  rw [(readFrom_of_outcome houtcome).variableName, blockVariable?_eq_some_iff, hspelling] at hname
  obtain ⟨_, hsame, rfl, -⟩ := hname
  obtain rfl := Option.some.inj hsame
  -- the condition keeps it as it stands
  obtain ⟨other, hother, hread⟩ := outcome_of_toGraph h hothers
  obtain ⟨transition, condition, hnext, hcondition, hwrites⟩ := hgiven.exists_condition hread
  obtain rfl : condition.variableName = spelling := hwrites.variableName_eq hcopy
  refine ⟨other, transition, condition, hother, hnext, hcondition, rfl, rfl, eq_comm, ?_⟩
  intro hne
  have hdead := isDead_of_trim_ne h hne
  exact ⟨hdead, fun conduct session hreached => hreached.grounded.holds_of_isDead hdead⟩

/-- The condition of the draft `asking`. -/
def askingCondition (spelling : String) : Members :=
  [("variable", .string spelling), ("equals", .string "yes")]

/-- The question of the draft `asking`. -/
def askingQuestion (spelling : String) : Members := [
  ("id", .string "ask"),
  ("kind", .string "text-input"),
  ("variable", .string spelling),
  ("next", .object [
    ("if", .array [.object [("when", .object (askingCondition spelling)),
      ("goto", .string "ask")]]),
    ("else", .string "end")])]

/-- A draft with a question and a condition on its variable, both in the same spelling. -/
def asking (spelling : String) : Draft := .ofBlocks [
  .object (askingQuestion spelling),
  .object [("id", .string "end"), ("kind", .string "final")]]

/-- The draft `asking` is accepted whatever the spelling is. -/
theorem wellFormed_asking (spelling : String) : (asking spelling).WellFormed .standard :=
  issues_eq_nil_iff.1 rfl

theorem hasCondition_asking (spelling : String) :
    HasCondition (askingQuestion spelling) 0 (askingCondition spelling) := ⟨rfl, rfl, rfl, rfl⟩

/-- In the draft `asking` the spelling without blanks comes to one variable. -/
theorem one_spelling_one_variable_iff_reply :
    ∃ graph block transition condition, (asking "reply").toGraph .standard = .ok graph ∧
      graph.blocks[0]? = some block ∧ block.next = some transition ∧
      transition.conditions[0]? = some condition ∧ condition.variableName = "reply" ∧
      block.variableName = some condition.variableName := by
  obtain ⟨graph, _, hgraph, -⟩ := (wellFormed_asking "reply").toGraph_eq
  obtain ⟨block, hblock, houtcome⟩ := outcome_of_toGraph hgraph (i := 0) rfl
  have hname : block.variableName = some "reply" := by
    rw [(readFrom_of_outcome houtcome).variableName]
    decide +kernel
  have htrim : trim "reply" = "reply" := by decide +kernel
  obtain ⟨other, transition, condition, hother, hnext, hcondition, hspelled, -, hiff, -⟩ :=
    one_spelling_one_variable_iff hgraph (i := 0) (j := 0) rfl hblock rfl hname rfl
      (hasCondition_asking "reply") rfl
  obtain rfl : block = other := Option.some.inj (hblock.symm.trans hother)
  exact ⟨graph, block, transition, condition, hgraph, hblock, hnext, hcondition, hspelled,
    hname.trans (congrArg some (hiff.2 htrim).symm)⟩

/-- In the draft `asking` a spelling with blanks around it comes to two variables: the question
writes one, and its condition reads another. -/
theorem blanks_part_the_variables :
    text? (askingQuestion " reply ") "variable" = some " reply " ∧
    text? (askingCondition " reply ") "variable" = some " reply " ∧
    HasCondition (askingQuestion " reply ") 0 (askingCondition " reply ") ∧
    ∃ graph, (asking " reply ").toGraph .standard = .ok graph ∧
      graph.blocks.map Block.variableName = [some "reply", none] ∧
      graph.blocks.map (fun block => block.next.map fun transition =>
        transition.conditions.map Condition.variableName) = [some [" reply "], none] := by
  obtain ⟨graph, _, hgraph, hblocks, -⟩ := (wellFormed_asking " reply ").toGraph_eq
  refine ⟨rfl, rfl, hasCondition_asking _, graph, hgraph, ?_, ?_⟩
  · rw [hblocks]
    decide +kernel
  · rw [hblocks]
    decide +kernel

end Draft

end Document

end Questionnaire
