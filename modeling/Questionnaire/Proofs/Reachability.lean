/-
**What a review says of reachability.**

A review warns of every block that cannot be visited from the start, and, if the survey has an end
at all, of every block that can be visited but leads to no end.  Both warnings come from searches:
one along the transitions from the start, the other against them from the final blocks, among the
reachable blocks only.  This module says which blocks they are without the searches.

Main definitions:

* `Questionnaire.Report.cautionsOf` — the warnings of a report that have one cause;
* `Questionnaire.Graph.CanEnd` — **some final block can be reached from a block**.

Main results:

* `Questionnaire.Graph.cautionsOf_unreachable`, `Questionnaire.Graph.cautionsOf_noExit` — what the
  two warnings of a review are about;
* `Questionnaire.Graph.mem_withoutExit_iff` — the blocks without an exit are those that can be
  visited and from which no final block can be reached;
* `Questionnaire.Graph.reachable_is_exact_closure` — **the search from the start ends, and finds
  exactly what the start leads to**; there is one warning for each other block.
-/

import Questionnaire.Proofs.Traversal
import Questionnaire.Review

set_option autoImplicit false

namespace Questionnaire

/-! ### Warnings with one cause -/

/-- The warnings of a report that have one cause, in order. -/
def Report.cautionsOf (report : Report) (caution : Caution) : List (Finding Caution) :=
  report.cautions.filter fun finding => finding.cause = caution

/-- Whether a caution concerns what can be reached in a survey. -/
def Caution.OfReachability (caution : Caution) : Prop := caution = .unreachable ∨ caution = .noExit

/-- A block by itself gives no reason to warn about reachability. -/
theorem Block.notMem_cautions {caution : Caution} (h : caution.OfReachability)
    (written : List String) (block : Block) : caution ∉ block.cautions written := by
  have hvariable : caution ∉ block.variableCautions := by
    unfold variableCautions
    obtain rfl | rfl := h <;> split <;> simp
  have hnext : caution ∉ block.nextCautions := by
    obtain rfl | rfl := h <;> simp [nextCautions]
  have hconditions : ∀ condition, caution ∉ conditionCautions written condition := by
    intro condition
    obtain rfl | rfl := h <;> simp [conditionCautions]
  simp only [cautions, List.mem_append, hvariable, hnext, List.mem_flatMap, hconditions, and_false,
    exists_false, or_self, not_false_eq_true]

namespace Graph

variable {graph : Graph} {settings : ReviewSettings} {caution : Caution} {id : String}

/-- The duration of a survey gives no reason to warn about reachability either. -/
theorem filter_durationCautions (h : caution.OfReachability) (graph : Graph)
    (settings : ReviewSettings) :
    (graph.durationCautions settings).filter (fun finding => finding.cause = caution) = [] := by
  unfold durationCautions
  cases graph.expectedMinutes with
  | none => rfl
  | some declared => obtain rfl | rfl := h <;> dsimp only <;> split <;> simp

/-- Warnings about reachability come from the two searches. -/
theorem cautionsOf_review (h : caution.OfReachability) :
    (graph.review settings).cautionsOf caution =
      graph.unreachableCautions.filter (fun finding => finding.cause = caution) ++
        graph.exitCautions.filter (fun finding => finding.cause = caution) := by
  have hblocks : (graph.blocks.flatMap fun block =>
      about block (block.cautions graph.writtenVariables)).filter
        (fun finding => finding.cause = caution) = [] := by
    refine List.filter_eq_nil_iff.2 fun finding hfinding => ?_
    obtain ⟨block, -, hfinding⟩ := List.mem_flatMap.1 hfinding
    obtain ⟨cause, hcause, rfl⟩ := List.mem_map.1 hfinding
    rw [decide_eq_true_eq]
    rintro rfl
    exact Block.notMem_cautions h _ block hcause
  rw [Report.cautionsOf, review, cautions]
  simp only [List.filter_append, hblocks, filter_durationCautions h, List.nil_append,
    List.append_nil]

/-- **A review warns once of each block that cannot be visited**, in the order of the survey. -/
theorem cautionsOf_unreachable (graph : Graph) (settings : ReviewSettings) :
    (graph.review settings).cautionsOf .unreachable =
      (graph.ids.filter fun id => id ∉ graph.reachable).map fun id => ⟨some id, .unreachable⟩ := by
  have hexit : graph.exitCautions.filter (fun finding => finding.cause = .unreachable) = [] := by
    unfold exitCautions
    split <;> simp
  rw [cautionsOf_review (.inl rfl), hexit, List.append_nil, unreachableCautions, ids]
  simp [List.filter_map, Function.comp_def]

/-- **A review warns once of each block without an exit**, in the order of the survey, unless the
survey has no final block at all. -/
theorem cautionsOf_noExit (graph : Graph) (settings : ReviewSettings) :
    (graph.review settings).cautionsOf .noExit =
      if graph.blocks.any Block.isFinal then graph.withoutExit.map fun id => ⟨some id, .noExit⟩
      else [] := by
  have hunreachable :
      graph.unreachableCautions.filter (fun finding => finding.cause = .noExit) = [] := by
    simp [unreachableCautions, List.filter_map, Function.comp_def]
  rw [cautionsOf_review (.inr rfl), hunreachable, List.nil_append, exitCautions]
  split <;> simp

/-! ### Blocks that can be visited -/

namespace Visitable

/-- What can be visited exists. -/
theorem has (h : graph.Visitable id) : graph.has id = true := by
  obtain ⟨hstart, hleads⟩ := h
  cases hleads with
  | refl => exact hstart
  | tail _ hstep => exact has_iff.2 (mem_ids_of_mem_successors hstep)

/-- What a block leads to that can be visited, can be visited. -/
theorem leads {target : String} (h : graph.Visitable id)
    (hleads : Relation.ReflTransGen (fun a b => b ∈ graph.successors a) id target) :
    graph.Visitable target := ⟨h.1, h.2.trans hleads⟩

end Visitable

/-- The blocks at which the search along the transitions begins: the start, if it exists. -/
def entrances (graph : Graph) : List String := if graph.has graph.start then [graph.start] else []

theorem mem_ids_of_mem_entrances (h : id ∈ graph.entrances) : id ∈ graph.ids := by
  unfold entrances at h
  split at h
  · rename_i hstart
    rw [List.mem_singleton.1 h]
    exact has_iff.1 hstart
  · cases h

/-- The blocks that can be visited and those that cannot are together all blocks. -/
theorem length_reachable_add (graph : Graph) :
    graph.reachable.length + (graph.ids.filter fun id => id ∉ graph.reachable).length =
      graph.blocks.length := by
  have hnodup : (graph.ids.filter fun id => id ∈ graph.reachable).Nodup :=
    List.Nodup.filter _ graph.nodup_ids
  have hperm : graph.reachable.Perm (graph.ids.filter fun id => id ∈ graph.reachable) := by
    refine (List.perm_ext_iff_of_nodup graph.nodup_reachable hnodup).2 fun id => ?_
    rw [List.mem_filter, decide_eq_true_eq, iff_and_self]
    exact fun hid => has_iff.1 (mem_reachable_iff.1 hid).has
  have hsplit := List.length_eq_length_filter_add (l := graph.ids)
    fun id => decide (id ∈ graph.reachable)
  rw [hperm.length_eq, ← graph.blocks.length_map (f := Block.id)]
  simpa [ids] using hsplit.symm

/-! ### Blocks that lead to an end -/

/-- **Some final block can be reached from a block**, along transitions to existing blocks. -/
def CanEnd (graph : Graph) (id : String) : Prop :=
  ∃ block ∈ graph.blocks, block.isFinal = true ∧
    Relation.ReflTransGen (fun a b => b ∈ graph.successors a) id block.id

theorem mem_sources_iff {reachable : List String} {source target : String} :
    source ∈ graph.sources reachable target ↔
      source ∈ reachable ∧ ∃ block, graph.block? source = some block ∧ target ∈ block.targets := by
  simp only [sources, List.mem_map, List.mem_filter, block?_eq_some_iff, Bool.and_eq_true,
    decide_eq_true_eq, List.contains_iff_mem]
  constructor
  · rintro ⟨block, ⟨hmem, hreachable, htarget⟩, rfl⟩
    exact ⟨hreachable, block, ⟨hmem, rfl⟩, htarget⟩
  · rintro ⟨hreachable, block, ⟨hmem, rfl⟩, htarget⟩
    exact ⟨block, ⟨hmem, hreachable, htarget⟩, rfl⟩

/-- The sources of an existing block are the reachable blocks that it is a successor of. -/
theorem mem_sources_iff_mem_successors {source target : String} (hhas : graph.has target = true) :
    source ∈ graph.sources graph.reachable target ↔
      graph.Visitable source ∧ target ∈ graph.successors source := by
  rw [mem_sources_iff, mem_reachable_iff, mem_successors_iff]
  simp only [hhas, and_true]

theorem mem_ids_of_mem_sources {reachable : List String} {target : String}
    (h : id ∈ graph.sources reachable target) : id ∈ graph.ids := by
  obtain ⟨-, block, hblock, -⟩ := mem_sources_iff.1 h
  exact has_iff.1 (by rw [has, hblock]; rfl)

/-- The final blocks that can be visited, at which the search against the transitions begins. -/
def exits (graph : Graph) : List String :=
  (graph.blocks.filter fun block => block.isFinal && graph.reachable.contains block.id).map Block.id

theorem mem_exits_iff : id ∈ graph.exits ↔
    graph.Visitable id ∧ ∃ block, graph.block? id = some block ∧ block.isFinal = true := by
  simp only [exits, List.mem_map, List.mem_filter, block?_eq_some_iff, Bool.and_eq_true,
    List.contains_iff_mem, mem_reachable_iff]
  constructor
  · rintro ⟨block, ⟨hmem, hfinal, hvisitable⟩, rfl⟩
    exact ⟨hvisitable, block, ⟨hmem, rfl⟩, hfinal⟩
  · rintro ⟨hvisitable, block, ⟨hmem, rfl⟩, hfinal⟩
    exact ⟨block, ⟨hmem, hfinal, hvisitable⟩, rfl⟩

theorem mem_ids_of_mem_exits (h : id ∈ graph.exits) : id ∈ graph.ids :=
  has_iff.1 (mem_exits_iff.1 h).1.has

/-- **Against the transitions, a block is reached from an exit exactly when it can be visited and
leads to the exit.** -/
theorem reaches_against_iff {exit : String} (hexit : graph.Visitable exit) :
    Relation.ReflTransGen (fun a b => b ∈ graph.sources graph.reachable a) exit id ↔
      graph.Visitable id ∧
        Relation.ReflTransGen (fun a b => b ∈ graph.successors a) id exit := by
  constructor
  · intro h
    induction h with
    | refl => exact ⟨hexit, .refl⟩
    | tail _ hstep ih =>
        obtain ⟨hvisitable, hleads⟩ := ih
        obtain ⟨hsource, hsuccessor⟩ := (mem_sources_iff_mem_successors hvisitable.has).1 hstep
        exact ⟨hsource, .head hsuccessor hleads⟩
  · rintro ⟨hvisitable, hleads⟩
    -- every block on the way can be visited, since the first one can
    induction hleads using Relation.ReflTransGen.head_induction_on with
    | refl => exact .refl
    | head hstep _ ih =>
        have hnext := hvisitable.leads (.single hstep)
        exact (ih hnext).tail ((mem_sources_iff_mem_successors hnext.has).2 ⟨hvisitable, hstep⟩)

/-- **The blocks with an exit** are those that can be visited and from which a final block can be
reached. -/
theorem mem_withExit_iff : id ∈ graph.withExit ↔ graph.Visitable id ∧ graph.CanEnd id := by
  have hclosure : graph.withExit =
      Reach.closure graph.ids (graph.sources graph.reachable) graph.exits := rfl
  rw [hclosure, Reach.mem_closure_iff (fun _ _ _ hb => mem_ids_of_mem_sources hb)
    fun _ ha => mem_ids_of_mem_exits ha]
  constructor
  · rintro ⟨exit, hexit, hreaches⟩
    obtain ⟨hvisitable, block, hblock, hfinal⟩ := mem_exits_iff.1 hexit
    obtain ⟨hmem, rfl⟩ := mem_of_block? hblock
    obtain ⟨hid, hleads⟩ := (reaches_against_iff hvisitable).1 hreaches
    exact ⟨hid, block, hmem, hfinal, hleads⟩
  · rintro ⟨hid, block, hmem, hfinal, hleads⟩
    have hvisitable := hid.leads hleads
    have hblock : graph.block? block.id = some block := block?_eq_some_iff.2 ⟨hmem, rfl⟩
    exact ⟨block.id, mem_exits_iff.2 ⟨hvisitable, block, hblock, hfinal⟩,
      (reaches_against_iff hvisitable).2 ⟨hid, hleads⟩⟩

/-- **The blocks without an exit** are those that can be visited and from which no final block can
be reached. -/
theorem mem_withoutExit_iff : id ∈ graph.withoutExit ↔ graph.Visitable id ∧ ¬ graph.CanEnd id := by
  simp only [withoutExit, List.mem_filter, Bool.and_eq_true, Bool.not_eq_true',
    List.contains_eq_mem, decide_eq_true_eq, decide_eq_false_iff_not, mem_reachable_iff,
    mem_withExit_iff]
  constructor
  · rintro ⟨-, hvisitable, hexit⟩
    exact ⟨hvisitable, fun hend => hexit ⟨hvisitable, hend⟩⟩
  · rintro ⟨hvisitable, hend⟩
    exact ⟨has_iff.1 hvisitable.has, hvisitable, fun hexit => hend hexit.2⟩

/-! ### The search from the start -/

/-- **The search from the start ends, and finds exactly what the start leads to** along transitions
to existing blocks; nothing if the start does not exist.  As a loop over a stack it comes to a stage
at which no node waits, having visited each reachable block once.  The review warns of each other
block once, in the order of the survey, and so accounts for all blocks. -/
theorem reachable_is_exact_closure (graph : Graph) (settings : ReviewSettings) :
    (∃ visited, Reach.Turns .stack graph.successors ⟨graph.entrances, []⟩ ⟨[], visited⟩ ∧
      visited.Perm graph.reachable) ∧
    (∀ id, id ∈ graph.reachable ↔ graph.has graph.start = true ∧
      Relation.ReflTransGen (fun a b => b ∈ graph.successors a) graph.start id) ∧
    (graph.review settings).cautionsOf .unreachable =
      ((graph.ids.filter fun id => id ∉ graph.reachable).map fun id => ⟨some id, .unreachable⟩) ∧
    (graph.review settings).reachableBlocks +
        ((graph.review settings).cautionsOf .unreachable).length =
      (graph.review settings).totalBlocks := by
  have hends := @Reach.exists_turns graph.ids graph.entrances graph.successors .stack
    (fun _ _ _ hb => mem_ids_of_mem_successors hb) fun _ ha => mem_ids_of_mem_entrances ha
  refine ⟨hends, fun _ => mem_reachable_iff, graph.cautionsOf_unreachable settings, ?_⟩
  rw [cautionsOf_unreachable, List.length_map]
  exact graph.length_reachable_add

end Graph

end Questionnaire
