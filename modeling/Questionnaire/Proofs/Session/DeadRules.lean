/-
**Dead rules.**

A review warns about a rule whose condition asks for one of no values, and about one whose condition
reads a variable that no question writes.  Such a rule is dead: it never decides where a respondent
goes, since a session holds nothing but what questions stored.  So the dead rules of a survey can be
left out, and no respondent notices.

Main definitions:

* `Questionnaire.Condition.isDead` — whether the review warns about a condition;
* `Questionnaire.Graph.withoutDeadRules` — **a survey without the rules whose condition is dead**.

Main results:

* `Questionnaire.Condition.isDead_iff` — which conditions are dead;
* `Questionnaire.Graph.exists_caution_iff_isDead` — those are the ones that the review warns of;
* `Questionnaire.Session.Grounded.holds_of_isDead` — **a dead condition does not hold** of what
  questions stored;
* `Questionnaire.Transition.target_decide_filterRules` — leaving out rules that do not hold does not
  change where a transition leads;
* `Questionnaire.Graph.WellFormed.filterRules` — nor does it make a survey unfit;
* `Questionnaire.Session.dead_rules_are_dead` — **with and without its dead rules, a survey is
  walked alike**.
-/

import Questionnaire.Proofs.Session.Bindings
import Questionnaire.Proofs.Session.Mirror

set_option autoImplicit false

namespace Questionnaire

/-! ### Dead conditions -/

/-- Some question writes a variable exactly when it declares it. -/
theorem Graph.mem_writtenVariables_iff {graph : Graph} {name : String} :
    name ∈ graph.writtenVariables ↔ ∃ block ∈ graph.blocks, block.declares name = true := by
  simp only [writtenVariables, List.mem_filterMap, List.mem_filter, Block.declares_iff, and_assoc]

/-- What is warned about in a condition. -/
theorem Block.mem_conditionCautions_iff {written : List String} {condition : Condition}
    {caution : Caution} : caution ∈ conditionCautions written condition ↔
      (caution = .emptySet condition.variableName ∧ condition.predicate = .oneOf []) ∨
        (caution = .unwrittenVariable condition.variableName ∧
          condition.variableName ∉ written) := by
  rw [conditionCautions, List.mem_append]
  refine or_congr ?_ ?_
  · rcases condition.predicate with _ | (_ | _) | _ | _ <;> simp
  · by_cases hmem : condition.variableName ∈ written <;> simp [hmem]

/-- Whether the review of a survey warns that a condition is never met. -/
def Condition.isDead (graph : Graph) (condition : Condition) : Bool :=
  !(Block.conditionCautions graph.writtenVariables condition).isEmpty

/-- **Which conditions are dead**: those that ask for one of no values, and those that read a
variable which no question declares. -/
theorem Condition.isDead_iff {graph : Graph} {condition : Condition} :
    condition.isDead graph = true ↔ condition.predicate = .oneOf [] ∨
      ∀ block ∈ graph.blocks, block.declares condition.variableName = false := by
  have hunwritten : condition.variableName ∉ graph.writtenVariables ↔
      ∀ block ∈ graph.blocks, block.declares condition.variableName = false := by
    rw [Graph.mem_writtenVariables_iff]
    simp
  rw [isDead, Bool.not_eq_true', List.isEmpty_eq_false_iff_exists_mem]
  simp only [Block.mem_conditionCautions_iff, hunwritten, exists_or, exists_eq_left]

/-- A condition on a variable is dead exactly when one of the two warnings names the variable. -/
theorem Condition.isDead_on_iff {graph : Graph} {condition : Condition} {name : String} :
    condition.variableName = name ∧ condition.isDead graph = true ↔
      .emptySet name ∈ Block.conditionCautions graph.writtenVariables condition ∨
        .unwrittenVariable name ∈ Block.conditionCautions graph.writtenVariables condition := by
  rw [isDead, Bool.not_eq_true', List.isEmpty_eq_false_iff_exists_mem]
  simp only [Block.mem_conditionCautions_iff, exists_or, exists_eq_left, Caution.emptySet.injEq,
    Caution.unwrittenVariable.injEq, reduceCtorEq, false_and, or_false, false_or]
  constructor
  · rintro ⟨rfl, hempty | hunwritten⟩
    · exact .inl ⟨rfl, hempty⟩
    · exact .inr ⟨rfl, hunwritten⟩
  · rintro (⟨rfl, hempty⟩ | ⟨rfl, hunwritten⟩)
    · exact ⟨rfl, .inl hempty⟩
    · exact ⟨rfl, .inr hunwritten⟩

/-- Whether a caution is about a condition that is never met. -/
def Caution.IsOfCondition (caution : Caution) : Prop :=
  ∃ name, caution = .emptySet name ∨ caution = .unwrittenVariable name

/-- Cautions about the conditions of a block come from its rules. -/
theorem Block.mem_cautions_iff {written : List String} {block : Block} {caution : Caution}
    (h : caution.IsOfCondition) : caution ∈ block.cautions written ↔
      ∃ transition, block.next = some transition ∧ ∃ condition ∈ transition.conditions,
        caution ∈ conditionCautions written condition := by
  have hvariable : caution ∉ block.variableCautions := by
    obtain ⟨name, rfl | rfl⟩ := h <;>
      · unfold variableCautions
        split <;> simp
  have hnext : caution ∉ block.nextCautions := by
    obtain ⟨name, rfl | rfl⟩ := h <;> simp [nextCautions]
  rw [cautions, List.mem_append, List.mem_append, or_iff_right (not_or.2 ⟨hvariable, hnext⟩),
    List.mem_flatMap]
  cases block.next <;> simp

/-- Cautions about conditions are found with the blocks, and nowhere else in a review. -/
theorem Graph.mem_cautions_iff {graph : Graph} {settings : ReviewSettings} {block : Block}
    (hmem : block ∈ graph.blocks) {caution : Caution} (h : caution.IsOfCondition) :
    ⟨some block.id, caution⟩ ∈ (graph.review settings).cautions ↔
      caution ∈ block.cautions graph.writtenVariables := by
  have hunreachable : ⟨some block.id, caution⟩ ∉ graph.unreachableCautions := by
    obtain ⟨name, rfl | rfl⟩ := h <;> simp [unreachableCautions]
  have hexit : ⟨some block.id, caution⟩ ∉ graph.exitCautions := by
    obtain ⟨name, rfl | rfl⟩ := h <;>
      · unfold exitCautions
        split <;> simp
  have hduration : ⟨some block.id, caution⟩ ∉ graph.durationCautions settings := by
    obtain ⟨name, rfl | rfl⟩ := h <;>
      · unfold durationCautions
        split
        · simp
        · dsimp only
          split <;> simp
  rw [review, cautions]
  simp only [List.mem_append, hunreachable, hexit, hduration, or_false, List.mem_flatMap, about,
    List.mem_map, Finding.mk.injEq, Option.some.injEq]
  constructor
  · rintro ⟨other, hother, found, hfound, hid, rfl⟩
    rwa [← eq_of_id_eq_of_mem hother hmem hid]
  · intro hfound
    exact ⟨block, hmem, caution, hfound, rfl, rfl⟩

/-- **The review warns of the dead conditions.**  There is a warning about a block that a condition
on a variable is never met exactly when a rule of the block has a dead condition on it. -/
theorem Graph.exists_caution_iff_isDead {graph : Graph} {settings : ReviewSettings} {block : Block}
    (hmem : block ∈ graph.blocks) {name : String} :
    (⟨some block.id, .emptySet name⟩ ∈ (graph.review settings).cautions ∨
      ⟨some block.id, .unwrittenVariable name⟩ ∈ (graph.review settings).cautions) ↔
      ∃ transition, block.next = some transition ∧ ∃ condition ∈ transition.conditions,
        condition.variableName = name ∧ condition.isDead graph = true := by
  rw [mem_cautions_iff hmem ⟨name, .inl rfl⟩, mem_cautions_iff hmem ⟨name, .inr rfl⟩,
    Block.mem_cautions_iff ⟨name, .inl rfl⟩, Block.mem_cautions_iff ⟨name, .inr rfl⟩]
  constructor
  · rintro (⟨transition, hnext, condition, hcondition, hcaution⟩ |
      ⟨transition, hnext, condition, hcondition, hcaution⟩)
    · exact ⟨transition, hnext, condition, hcondition, Condition.isDead_on_iff.2 (.inl hcaution)⟩
    · exact ⟨transition, hnext, condition, hcondition, Condition.isDead_on_iff.2 (.inr hcaution)⟩
  · rintro ⟨transition, hnext, condition, hcondition, hdead⟩
    rcases Condition.isDead_on_iff.1 hdead with hcaution | hcaution
    · exact .inl ⟨transition, hnext, condition, hcondition, hcaution⟩
    · exact .inr ⟨transition, hnext, condition, hcondition, hcaution⟩

/-- **A dead condition does not hold of what questions stored.** -/
theorem Session.Grounded.holds_of_isDead {graph : Graph} {bindings : Variables}
    {condition : Condition} (h : Grounded graph bindings) (hdead : condition.isDead graph = true) :
    condition.holds bindings = false := by
  rcases Condition.isDead_iff.1 hdead with hempty | hunwritten
  · rw [Condition.holds, hempty]
    cases bindings.get? condition.variableName <;> simp
  · refine Condition.holds_of_unset ?_
    cases hget : bindings.get? condition.variableName with
    | none => rfl
    | some value =>
        obtain ⟨block, hmem, hdeclares, -⟩ := h _ value hget
        rw [hunwritten block hmem] at hdeclares
        cases hdeclares

/-! ### Leaving out rules -/

variable {keep : Condition → Bool}

/-- A transition with those rules only whose condition is kept. -/
def Transition.filterRules (keep : Condition → Bool) : Transition → Transition
  | .direct target => .direct target
  | .conditional rules otherwise =>
    .conditional (rules.filter fun rule => keep rule.condition) otherwise

/-- A block with those rules only whose condition is kept. -/
def Block.filterRules (keep : Condition → Bool) (block : Block) : Block :=
  { block with next := block.next.map (Transition.filterRules keep) }

/-- A survey with those rules only whose condition is kept. -/
def Graph.filterRules (keep : Condition → Bool) (graph : Graph) : Graph where
  start := graph.start
  title := graph.title
  expectedMinutes := graph.expectedMinutes
  blocks := graph.blocks.map (Block.filterRules keep)
  blocks_ne_nil := by
    rw [Ne, List.map_eq_nil_iff]
    exact graph.blocks_ne_nil
  nodup_ids := by
    rw [List.map_map]
    exact graph.nodup_ids

/-- **A survey without its dead rules.** -/
def Graph.withoutDeadRules (graph : Graph) : Graph :=
  graph.filterRules fun condition => !condition.isDead graph

theorem Transition.targets_filterRules_subset (transition : Transition) :
    (transition.filterRules keep).targets ⊆ transition.targets := by
  cases transition with
  | direct target => exact List.Subset.refl _
  | conditional rules otherwise =>
      have hrules : (rules.filter fun rule => keep rule.condition).map Rule.target ⊆
          rules.map Rule.target := List.map_subset _ (List.filter_subset_self rules)
      exact List.append_subset.2
        ⟨List.subset_append_of_subset_left _ hrules, List.subset_append_right _ _⟩

theorem Transition.target_decideFrom_filter {bindings : Variables} {otherwise : String}
    {rules : List Rule}
    (h : ∀ rule ∈ rules, keep rule.condition = false → rule.condition.holds bindings = false)
    (checked passed : Nat) :
    (decideFrom bindings otherwise passed
        (rules.filter fun rule => keep rule.condition)).target =
      (decideFrom bindings otherwise checked rules).target := by
  -- once a rule is left out the two counts differ, so they are both arbitrary
  induction rules generalizing checked passed with
  | nil => rfl
  | cons rule rules ih =>
      obtain ⟨hrule, hrules⟩ := List.forall_mem_cons.1 h
      cases hkeep : keep rule.condition with
      | true =>
          rw [List.filter_cons, if_pos hkeep, decideFrom, decideFrom]
          split
          · rfl
          · exact ih hrules (checked + 1) (passed + 1)
      | false =>
          rw [List.filter_cons, if_neg (by simp [hkeep]), decideFrom, hrule hkeep]
          exact ih hrules (checked + 1) passed

/-- **Leaving out rules that do not hold does not change where a transition leads.** -/
theorem Transition.target_decide_filterRules {bindings : Variables} {transition : Transition}
    (h : ∀ condition ∈ transition.conditions, keep condition = false →
      condition.holds bindings = false) :
    ((transition.filterRules keep).decide bindings).target =
      (transition.decide bindings).target := by
  cases transition with
  | direct target => rfl
  | conditional rules otherwise =>
      exact target_decideFrom_filter (fun rule hrule => h _ (List.mem_map_of_mem hrule)) 0 0

theorem Block.targets_filterRules_subset (block : Block) :
    (block.filterRules keep).targets ⊆ block.targets := by
  unfold targets filterRules
  cases block.next with
  | none => exact List.Subset.refl _
  | some transition => exact transition.targets_filterRules_subset

namespace Graph

variable {graph : Graph}

/-- A block is found where it stood, with the rules that are kept. -/
theorem block?_filterRules (graph : Graph) (id : String) :
    (graph.filterRules keep).block? id = (graph.block? id).map (Block.filterRules keep) := by
  rw [block?, filterRules, List.find?_map]
  rfl

theorem has_filterRules (graph : Graph) (id : String) :
    (graph.filterRules keep).has id = graph.has id := by
  rw [has, block?_filterRules, Option.isSome_map, has]

/-- **Leaving out rules does not make a survey unfit.** -/
theorem WellFormed.filterRules (h : graph.WellFormed) : (graph.filterRules keep).WellFormed where
  has_start := by
    rw [has_filterRules]
    exact h.has_start
  wellFormed := by
    intro block hmem
    obtain ⟨old, hold, rfl⟩ := List.mem_map.1 hmem
    have hwell := h.wellFormed old hold
    exact {
      known := hwell.known
      named := hwell.named
      options := hwell.options
      range := hwell.range
      limit := hwell.limit
      fields := hwell.fields
      leadsOn := by
        intro hopen
        rw [Block.filterRules, Ne, Option.map_eq_none_iff]
        exact hwell.leadsOn hopen
      has_target := by
        intro id hid
        rw [has_filterRules]
        exact hwell.has_target id (old.targets_filterRules_subset hid) }

end Graph

/-! ### Sessions -/

namespace Session

variable {graph : Graph} {session : Session}

/-- What an accepted answer leaves was accepted, if what was there before was. -/
theorem Grounded.storeAnswer {bindings : Variables} {block : Block} {answer : Value}
    {stored : Option Value} (h : Grounded graph bindings) (hmem : block ∈ graph.blocks)
    (haccept : block.kind.accept answer = .ok stored) :
    Grounded graph (storeAnswer bindings block stored) := by
  intro name value hget
  rw [get?_storeAnswer haccept] at hget
  split at hget
  · rename_i hdeclares
    subst hget
    exact ⟨block, hmem, hdeclares, answer, haccept⟩
  · exact h name value hget

/-- **In a reached session, the current block and the same block without its dead rules are
twins.** -/
theorem Reached.hasTwin_withoutDeadRules {conduct : Conduct} (h : Reached conduct graph session) :
    HasTwin graph.withoutDeadRules session := by
  have hgraph : session.graph = graph := h.keeps.2.1
  rw [HasTwin, hgraph, Graph.withoutDeadRules, Graph.block?_filterRules]
  cases hblock : graph.block? session.current with
  | none => exact .none
  | some block =>
      refine .some ⟨rfl, rfl, rfl, ?_, ?_⟩
      · intro answer stored haccept
        -- the rules are asked after the answer was stored, and what it stores is accepted as well
        have hgrounded := h.grounded.storeAnswer (Graph.mem_of_block? hblock).1 haccept
        rw [Block.leadsTo?, Block.leadsTo?, Block.filterRules, Option.map_map]
        cases block.next with
        | none => rfl
        | some transition =>
            refine congrArg some (Transition.target_decide_filterRules fun condition _ hdead => ?_)
            exact hgrounded.holds_of_isDead (by simpa using hdead)
      · intro answer stored target _ _
        rw [Graph.has_filterRules, hgraph]

/-- **With and without its dead rules, a survey is walked alike.**  A survey that passes its review
passes it without the rules that the review warns about as never met.  Along every run, on the one
and on the other, sessions agree: they stand at the same block with the same history, variables and
count of self loops, they are complete at the same time, and the next move is refused for the same
reason or leads to sessions that agree again. -/
theorem dead_rules_are_dead {settings : ReviewSettings}
    (hvalid : (graph.review settings).isValid = true) (conduct : Conduct) (id other : String) :
    (graph.withoutDeadRules.review settings).isValid = true ∧
    ∃ first second, Session.start conduct id graph = .ok first ∧
      Session.start conduct other graph.withoutDeadRules = .ok second ∧
      ∀ moves : List Move,
        Agree (first.run conduct.selfLoopLimit moves) (second.run conduct.selfLoopLimit moves) ∧
        ∀ move, AgreeOn other
          ((first.run conduct.selfLoopLimit moves).make conduct.selfLoopLimit move)
          ((second.run conduct.selfLoopLimit moves).make conduct.selfLoopLimit move) := by
  have hfaults := Graph.isValid_review_iff.1 hvalid
  have hcopy : graph.withoutDeadRules.faults = [] :=
    Graph.wellFormed_iff.1 (Graph.wellFormed_iff.2 hfaults).filterRules
  refine ⟨Graph.isValid_review_iff.2 hcopy, ?_⟩
  exact agree_along_runs id other hfaults hcopy rfl fun _ => Reached.hasTwin_withoutDeadRules

end Session

/-- A survey with two dead rules: one asks for one of no values, and one reads a variable that only
a message declares. -/
def Graph.padded : Graph where
  start := "note"
  title := none
  expectedMinutes := none
  blocks := [
    { id := "note"
      kind := .message
      prompt := none
      variableName := some "seen"
      next := some (.direct "ask") },
    { id := "ask"
      kind := .textInput none
      prompt := none
      variableName := some "reply"
      next := some (.conditional
        [⟨⟨"reply", .oneOf []⟩, "note"⟩, ⟨⟨"reply", .equals (.text "again")⟩, "ask"⟩,
          ⟨⟨"seen", .equals .null⟩, "note"⟩] "end") },
    { id := "end", kind := .final, prompt := none, variableName := none, next := none }]
  blocks_ne_nil := List.cons_ne_nil _ _
  nodup_ids := by decide +kernel

/-- Of the survey `Graph.padded` one rule is left, and the survey is walked as before. -/
theorem Session.dead_rules_are_dead_padded :
    (Graph.padded.review .standard).isValid = true ∧
    ((Graph.padded.withoutDeadRules.block? "ask").bind Block.next).map
      (fun transition => transition.conditions.map Condition.variableName) = some ["reply"] ∧
    (Graph.padded.withoutDeadRules.review .standard).isValid = true ∧
    ∃ first second, Session.start .standard "s" Graph.padded = .ok first ∧
      Session.start .standard "t" Graph.padded.withoutDeadRules = .ok second ∧
      ∀ moves : List Move, Agree (first.run Conduct.standard.selfLoopLimit moves)
        (second.run Conduct.standard.selfLoopLimit moves) := by
  have hvalid : (Graph.padded.review .standard).isValid = true := by decide +kernel
  obtain ⟨hcopy, first, second, hfirst, hsecond, hruns⟩ :=
    dead_rules_are_dead hvalid .standard "s" "t"
  exact ⟨hvalid, by decide +kernel, hcopy, first, second, hfirst, hsecond,
    fun moves => (hruns moves).1⟩

end Questionnaire
