/-
**Where final blocks lead.**

Nothing follows a final block, and a review warns of one that leads on all the same that this is
ignored.  A session does ignore it, but the review does not: the targets of a final block have to
exist like all others, and what it leads to counts as reachable.  So it matters to a review whether
a final block leads on, unless all that it leads to exists, and can be visited in other ways
wherever the block itself can.  Which blocks lead to an end never depends on it, as a final block is
an end already.

Main definitions:

* `Questionnaire.Graph.withoutIgnoredNext` — **a survey whose final blocks do not lead on**;
* `Questionnaire.Report.AgreeOnFlow` — reports with the same errors, counts and warnings about
  reachability;
* `Questionnaire.Graph.LeadsOnInVain` — what final blocks lead to plays no part.

Main results:

* `Questionnaire.Graph.canEnd_withoutIgnoredNext_iff` — the same blocks lead to an end;
* `Questionnaire.Graph.visitable_of_withoutIgnoredNext`,
  `Questionnaire.Graph.LeadsOnInVain.visitable_iff` — which blocks can be visited;
* `Questionnaire.Graph.next_of_final_is_ignored_iff` — **a review ignores where final blocks lead
  exactly when that plays no part**;
* `Questionnaire.Graph.next_of_final_counts` — there is a survey of which a review does not.
-/

import Questionnaire.Proofs.Reachability
import Questionnaire.Proofs.WellFormed

set_option autoImplicit false

namespace Questionnaire

/-- A block that does not lead on if it is final. -/
def Block.withoutIgnoredNext (block : Block) : Block :=
  { block with next := if block.isFinal then none else block.next }

/-- **A survey whose final blocks do not lead on.** -/
def Graph.withoutIgnoredNext (graph : Graph) : Graph where
  start := graph.start
  title := graph.title
  expectedMinutes := graph.expectedMinutes
  blocks := graph.blocks.map Block.withoutIgnoredNext
  blocks_ne_nil := by
    rw [Ne, List.map_eq_nil_iff]
    exact graph.blocks_ne_nil
  nodup_ids := by
    rw [List.map_map]
    exact graph.nodup_ids

/-- **Reports that agree on the flow of a survey**: they have the same errors, the same warnings of
blocks that cannot be visited or lead to no end, and the same counts of blocks. -/
structure Report.AgreeOnFlow (report other : Report) : Prop where
  faults : other.faults = report.faults
  unreachable : other.cautionsOf .unreachable = report.cautionsOf .unreachable
  noExit : other.cautionsOf .noExit = report.cautionsOf .noExit
  reachableBlocks : other.reachableBlocks = report.reachableBlocks
  totalBlocks : other.totalBlocks = report.totalBlocks

namespace Block

variable {block : Block}

theorem isFinal_iff : block.isFinal = true ↔ block.kind = .final := by
  unfold isFinal
  cases block.kind <;> simp [Kind.isFinal]

/-- A block that is not final stays as it is. -/
theorem withoutIgnoredNext_of_open (hopen : block.isFinal = false) :
    block.withoutIgnoredNext = block := by
  unfold withoutIgnoredNext
  rw [hopen]
  rfl

/-- A final block has no targets any more. -/
theorem targets_withoutIgnoredNext_of_final (hfinal : block.isFinal = true) :
    block.withoutIgnoredNext.targets = [] := by
  unfold withoutIgnoredNext
  rw [hfinal]
  rfl

theorem targets_withoutIgnoredNext_subset (block : Block) :
    block.withoutIgnoredNext.targets ⊆ block.targets := by
  cases hfinal : block.isFinal with
  | false => rw [withoutIgnoredNext_of_open hfinal]; exact List.Subset.refl _
  | true => rw [targets_withoutIgnoredNext_of_final hfinal]; exact List.nil_subset _

end Block

namespace Graph

variable {graph : Graph} {settings : ReviewSettings} {id source target : String}

/-! ### What stays -/

theorem ids_withoutIgnoredNext (graph : Graph) : graph.withoutIgnoredNext.ids = graph.ids := by
  rw [ids, withoutIgnoredNext, List.map_map]
  rfl

/-- A block is found where it stood. -/
theorem block?_withoutIgnoredNext (graph : Graph) (id : String) :
    graph.withoutIgnoredNext.block? id = (graph.block? id).map Block.withoutIgnoredNext := by
  rw [block?, withoutIgnoredNext, List.find?_map]
  rfl

theorem has_withoutIgnoredNext (graph : Graph) (id : String) :
    graph.withoutIgnoredNext.has id = graph.has id := by
  rw [has, block?_withoutIgnoredNext, Option.isSome_map, has]

theorem any_isFinal_withoutIgnoredNext (graph : Graph) :
    graph.withoutIgnoredNext.blocks.any Block.isFinal = graph.blocks.any Block.isFinal := by
  rw [withoutIgnoredNext, List.any_map]
  rfl

/-! ### What leads where -/

/-- No block gets a successor. -/
theorem mem_successors_of_withoutIgnoredNext
    (h : target ∈ graph.withoutIgnoredNext.successors source) :
    target ∈ graph.successors source := by
  rw [mem_successors_iff, block?_withoutIgnoredNext, has_withoutIgnoredNext] at h
  obtain ⟨twin, htwin, htarget, hhas⟩ := h
  obtain ⟨block, hblock, rfl⟩ := Option.map_eq_some_iff.1 htwin
  exact mem_successors_iff.2
    ⟨block, hblock, block.targets_withoutIgnoredNext_subset htarget, hhas⟩

/-- A block that is not final keeps its successors. -/
theorem mem_successors_withoutIgnoredNext {block : Block}
    (hblock : graph.block? source = some block) (hopen : block.isFinal = false)
    (h : target ∈ graph.successors source) :
    target ∈ graph.withoutIgnoredNext.successors source := by
  obtain ⟨other, hother, htarget, hhas⟩ := mem_successors_iff.1 h
  cases hblock.symm.trans hother
  refine mem_successors_iff.2 ⟨block, ?_, htarget, (has_withoutIgnoredNext graph target).trans hhas⟩
  rw [block?_withoutIgnoredNext, hblock, Option.map_some, Block.withoutIgnoredNext_of_open hopen]

/-- What leads somewhere without the final blocks leads there with them. -/
theorem leads_of_withoutIgnoredNext
    (h : Relation.ReflTransGen (fun a b => b ∈ graph.withoutIgnoredNext.successors a) source
      target) : Relation.ReflTransGen (fun a b => b ∈ graph.successors a) source target :=
  Relation.ReflTransGen.mono (fun _ _ hstep => mem_successors_of_withoutIgnoredNext hstep) _ _ h

/-- **What can be visited without the final blocks leading on can be visited at all.** -/
theorem visitable_of_withoutIgnoredNext (h : graph.withoutIgnoredNext.Visitable id) :
    graph.Visitable id := by
  obtain ⟨hstart, hleads⟩ := h
  rw [has_withoutIgnoredNext] at hstart
  exact ⟨hstart, leads_of_withoutIgnoredNext hleads⟩

/-- **The same blocks lead to an end**, since the way to the first final block passes by none. -/
theorem canEnd_withoutIgnoredNext_iff : graph.withoutIgnoredNext.CanEnd id ↔ graph.CanEnd id := by
  constructor
  · rintro ⟨twin, htwin, hfinal, hleads⟩
    obtain ⟨block, hmem, rfl⟩ := List.mem_map.1 htwin
    exact ⟨block, hmem, hfinal, leads_of_withoutIgnoredNext hleads⟩
  · rintro ⟨last, hmem, hfinal, hleads⟩
    induction hleads using Relation.ReflTransGen.head_induction_on with
    | refl => exact ⟨last.withoutIgnoredNext, List.mem_map_of_mem hmem, hfinal, .refl⟩
    | @head here there hstep _ ih =>
        obtain ⟨block, hblock, -⟩ := mem_successors_iff.1 hstep
        cases hopen : block.isFinal with
        | true =>
            -- the way ends here already
            obtain ⟨hblockMem, rfl⟩ := mem_of_block? hblock
            exact ⟨block.withoutIgnoredNext, List.mem_map_of_mem hblockMem, hopen, .refl⟩
        | false =>
            obtain ⟨twin, htwin, htwinFinal, htwinLeads⟩ := ih
            exact ⟨twin, htwin, htwinFinal,
              .head (mem_successors_withoutIgnoredNext hblock hopen hstep) htwinLeads⟩

/-- **What final blocks lead to plays no part**: it exists, and if a final block can be visited
while none leads on, so can all that it leads to. -/
def LeadsOnInVain (graph : Graph) : Prop :=
  ∀ block ∈ graph.blocks, block.isFinal = true → ∀ id ∈ block.targets,
    graph.has id = true ∧
      (graph.withoutIgnoredNext.Visitable block.id → graph.withoutIgnoredNext.Visitable id)

/-- If what final blocks lead to plays no part, the same blocks can be visited. -/
theorem LeadsOnInVain.visitable_iff (h : graph.LeadsOnInVain) :
    graph.withoutIgnoredNext.Visitable id ↔ graph.Visitable id := by
  refine ⟨visitable_of_withoutIgnoredNext, ?_⟩
  rintro ⟨hstart, hleads⟩
  induction hleads with
  | refl => exact ⟨(has_withoutIgnoredNext graph _).trans hstart, .refl⟩
  | @tail here there _ hstep ih =>
      obtain ⟨block, hblock, htarget, -⟩ := mem_successors_iff.1 hstep
      obtain ⟨hmem, rfl⟩ := mem_of_block? hblock
      cases hopen : block.isFinal with
      | true => exact (h block hmem hopen there htarget).2 ih
      | false =>
          exact ih.leads (.single (mem_successors_withoutIgnoredNext hblock hopen hstep))

/-! ### What a review finds -/

/-- The checks of a block find the same when it does not lead on in vain. -/
theorem faults_block_withoutIgnoredNext {block : Block}
    (h : block.isFinal = true → ∀ id ∈ block.targets, graph.has id = true) :
    block.withoutIgnoredNext.faults graph.withoutIgnoredNext = block.faults graph := by
  have htargets : ∀ other : Block, other.targetFaults graph.withoutIgnoredNext =
      other.targetFaults graph := by
    intro other
    simp only [Block.targetFaults, has_withoutIgnoredNext]
  cases hfinal : block.isFinal with
  | false =>
      rw [Block.withoutIgnoredNext_of_open hfinal, Block.faults, Block.faults, htargets]
  | true =>
      have hnone : block.withoutIgnoredNext.targetFaults graph = [] := by
        rw [Block.targetFaults_eq_nil_iff, Block.targets_withoutIgnoredNext_of_final hfinal]
        exact fun _ hid => absurd hid List.not_mem_nil
      have hnext : block.withoutIgnoredNext.nextFaults = block.nextFaults := by
        unfold Block.nextFaults Block.withoutIgnoredNext
        rw [Block.isFinal_iff.1 hfinal]
      rw [Block.faults, Block.faults, htargets, hnone, hnext,
        Block.targetFaults_eq_nil_iff.2 (h hfinal)]
      rfl

/-- **A review finds the same** if what final blocks lead to plays no part. -/
theorem LeadsOnInVain.agreeOnFlow (h : graph.LeadsOnInVain) (settings : ReviewSettings) :
    (graph.review settings).AgreeOnFlow (graph.withoutIgnoredNext.review settings) := by
  have hreachable : ∀ id, id ∈ graph.withoutIgnoredNext.reachable ↔ id ∈ graph.reachable := by
    intro id
    rw [mem_reachable_iff, mem_reachable_iff, h.visitable_iff]
  have hwithExit : ∀ id, id ∈ graph.withoutIgnoredNext.withExit ↔ id ∈ graph.withExit := by
    intro id
    rw [mem_withExit_iff, mem_withExit_iff, h.visitable_iff, canEnd_withoutIgnoredNext_iff]
  have hwithoutExit : graph.withoutIgnoredNext.withoutExit = graph.withoutExit := by
    unfold withoutExit
    simp only [ids_withoutIgnoredNext, List.contains_eq_mem, hreachable, hwithExit]
  exact {
    faults := by
      simp only [review_faults, faults, has_withoutIgnoredNext]
      refine congrArg _ ?_
      rw [withoutIgnoredNext, List.flatMap_map]
      refine List.flatMap_congr fun block hmem => ?_
      exact congrArg _ (faults_block_withoutIgnoredNext fun hfinal id hid =>
        (h block hmem hfinal id hid).1)
    unreachable := by
      rw [cautionsOf_unreachable, cautionsOf_unreachable, ids_withoutIgnoredNext]
      simp only [hreachable]
    noExit := by
      rw [cautionsOf_noExit, cautionsOf_noExit, hwithoutExit, any_isFinal_withoutIgnoredNext]
    reachableBlocks := by
      simp only [review, length_reachable, h.visitable_iff]
    totalBlocks := List.length_map _ }

/-- **If a review finds the same, what final blocks lead to plays no part.** -/
theorem leadsOnInVain_of_agreeOnFlow
    (h : (graph.review settings).AgreeOnFlow (graph.withoutIgnoredNext.review settings)) :
    graph.LeadsOnInVain := by
  intro block hmem hfinal id htarget
  have hhas : graph.has id = true := by
    by_contra hmissing
    -- the missing target is a fault of the final block, but not once it does not lead on
    have hfault : (⟨some block.id, .unknownTarget id⟩ : Finding Fault) ∈
        (graph.withoutIgnoredNext.review settings).faults := by
      rw [h.faults]
      exact (mk_mem_faults_iff hmem).2 (.unknownTarget htarget (Bool.eq_false_iff.2 hmissing))
    have htwin : block.withoutIgnoredNext.HasFault graph.withoutIgnoredNext (.unknownTarget id) :=
      (mk_mem_faults_iff (List.mem_map_of_mem hmem)).1 hfault
    have hleft := (hasFault_unknownTarget_iff.1 htwin).1
    rw [Block.targets_withoutIgnoredNext_of_final hfinal] at hleft
    cases hleft
  refine ⟨hhas, fun hvisitable => ?_⟩
  have hfound : graph.Visitable id := by
    refine (visitable_of_withoutIgnoredNext hvisitable).leads (.single ?_)
    exact mem_successors_iff.2 ⟨block, block?_eq_some_iff.2 ⟨hmem, rfl⟩, htarget, hhas⟩
  by_contra hlost
  -- otherwise there would be a warning of the target once the final block does not lead on
  have hwarned : (⟨some id, .unreachable⟩ : Finding Caution) ∈
      (graph.withoutIgnoredNext.review settings).cautionsOf .unreachable := by
    rw [cautionsOf_unreachable, ids_withoutIgnoredNext]
    refine List.mem_map_of_mem (List.mem_filter.2 ⟨has_iff.1 hhas, decide_eq_true ?_⟩)
    exact fun hreachable => hlost (mem_reachable_iff.1 hreachable)
  rw [h.unreachable, cautionsOf_unreachable] at hwarned
  simp only [List.mem_map, List.mem_filter, decide_eq_true_eq, Finding.mk.injEq,
    Option.some.injEq, and_true] at hwarned
  obtain ⟨other, ⟨-, hunreachable⟩, rfl⟩ := hwarned
  exact hunreachable (mem_reachable_iff.2 hfound)

/-- **A review ignores where final blocks lead exactly when that plays no part.**  The errors, the
warnings of blocks that cannot be visited or lead to no end, and the counts of blocks are the same
with and without the transitions of the final blocks if and only if the targets of every final block
exist and, if the block can be visited while no final block leads on, so can they. -/
theorem next_of_final_is_ignored_iff (graph : Graph) (settings : ReviewSettings) :
    (graph.review settings).AgreeOnFlow (graph.withoutIgnoredNext.review settings) ↔
      graph.LeadsOnInVain :=
  ⟨leadsOnInVain_of_agreeOnFlow, fun h => LeadsOnInVain.agreeOnFlow h settings⟩

/-- A survey with a final block that leads to a block nothing else leads to, or to none that
exists. -/
def epilogue : Graph where
  start := "ask"
  title := none
  expectedMinutes := none
  blocks := [
    { id := "ask"
      kind := .textInput none
      prompt := none
      variableName := some "reply"
      next := some (.direct "end") },
    { id := "end"
      kind := .final
      prompt := none
      variableName := none
      next := some (.conditional [⟨⟨"reply", .equals (.text "more")⟩, "bonus"⟩] "lost") },
    { id := "bonus", kind := .message, prompt := none, variableName := none,
      next := some (.direct "end") }]
  blocks_ne_nil := List.cons_ne_nil _ _
  nodup_ids := by decide +kernel

/-- **A review does not ignore where a final block leads.**  Of the survey `Graph.epilogue` it warns
that this is ignored, but it reports the missing target as an error and counts the other target
among the reachable blocks; without the transition there is no error, and a block that cannot be
visited. -/
theorem next_of_final_counts :
    (epilogue.review .standard).cautionsOf .ignoredNext = [⟨some "end", .ignoredNext⟩] ∧
    (epilogue.review .standard).faults = [⟨some "end", .unknownTarget "lost"⟩] ∧
    (epilogue.withoutIgnoredNext.review .standard).faults = [] ∧
    (epilogue.review .standard).reachableBlocks = 3 ∧
    (epilogue.withoutIgnoredNext.review .standard).reachableBlocks = 2 ∧
    (epilogue.review .standard).cautionsOf .unreachable = [] ∧
    (epilogue.withoutIgnoredNext.review .standard).cautionsOf .unreachable =
      [⟨some "bonus", .unreachable⟩] ∧
    ¬ (epilogue.review .standard).AgreeOnFlow (epilogue.withoutIgnoredNext.review .standard) := by
  refine ⟨by decide +kernel, by decide +kernel, by decide +kernel, by decide +kernel,
    by decide +kernel, by decide +kernel, by decide +kernel, fun h => ?_⟩
  exact absurd h.reachableBlocks (by decide +kernel)

end Graph

end Questionnaire
