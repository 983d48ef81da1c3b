/-
**Surveys with their blocks in another order.**

The order in which the blocks of a survey are listed decides in which order a review comes to its
findings, and nothing else.  A block is found by its id, which no other block has, so the same
blocks lead to the same blocks; hence the searches, which go through the list in its order, visit
the same blocks, and the estimate, which stops at a limit after each summand, comes to the same sum.

Main definitions:

* `Questionnaire.Graph.Reordered` — **surveys of the same blocks**, listed in any two orders;
* `Questionnaire.Report.SameUpToOrder` — reports with the same findings and the same figures;
* `Questionnaire.Session.GoAlike` — surveys on which sessions go alike.

Main results:

* `Questionnaire.Graph.Reordered.block?_eq`, `Questionnaire.Graph.Reordered.visitable_iff`,
  `Questionnaire.Graph.Reordered.canEnd_iff` — the same blocks are found, can be visited, and lead
  to an end;
* `Questionnaire.Graph.Reordered.estimatedSeconds_eq` — the same time is estimated;
* `Questionnaire.Graph.Reordered.review` — **the reviews find the same, up to order**;
* `Questionnaire.Session.goAlike_of_reordered` — sessions go alike on reordered surveys;
* `Questionnaire.Graph.block_order_does_not_matter` — **the order in which blocks are listed does
  not matter**.
-/

import Questionnaire.Proofs.Reachability
import Questionnaire.Proofs.Session.Pruned

set_option autoImplicit false

namespace Questionnaire

/-- **Reports with the same findings**, in any two orders, and with the same figures. -/
structure Report.SameUpToOrder (report other : Report) : Prop where
  faults_perm : report.faults.Perm other.faults
  cautions_perm : report.cautions.Perm other.cautions
  totalBlocks_eq : other.totalBlocks = report.totalBlocks
  reachableBlocks_eq : other.reachableBlocks = report.reachableBlocks
  estimatedMinutes_eq : other.estimatedMinutes = report.estimatedMinutes

/-- Reports with the same findings speak for the same surveys. -/
theorem Report.SameUpToOrder.isValid_eq {report other : Report} (h : report.SameUpToOrder other) :
    other.isValid = report.isValid :=
  h.faults_perm.isEmpty_eq.symm

/-- Seconds can be added in any order, although the sum is cut off every time. -/
instance rightCommutative_addSaturating : RightCommutative addSaturating where
  right_comm := by
    intro total first second
    simp only [addSaturating]
    omega

namespace Graph

variable {graph other : Graph} {id : String} {block : Block}

/-- No block is found twice to have no exit. -/
theorem nodup_withoutExit (graph : Graph) : graph.withoutExit.Nodup := graph.nodup_ids.filter _

/-- **Surveys of the same blocks**, listed in any two orders, with the same start and the same
declared duration. -/
structure Reordered (graph other : Graph) : Prop where
  start_eq : other.start = graph.start
  expectedMinutes_eq : other.expectedMinutes = graph.expectedMinutes
  blocks_perm : graph.blocks.Perm other.blocks

namespace Reordered

/-! ### Blocks and what they lead to -/

/-- **The same block is found**, since no other block has its id. -/
theorem block?_eq (h : graph.Reordered other) (id : String) :
    other.block? id = graph.block? id := by
  refine Option.ext fun block => ?_
  rw [block?_eq_some_iff, block?_eq_some_iff, h.blocks_perm.mem_iff]

theorem has_eq (h : graph.Reordered other) : other.has = graph.has := by
  funext id
  rw [has, has, h.block?_eq]

theorem successors_eq (h : graph.Reordered other) : other.successors = graph.successors := by
  funext id
  rw [successors, successors, h.block?_eq, h.has_eq]

/-- **The same blocks can be visited.** -/
theorem visitable_iff (h : graph.Reordered other) : other.Visitable id ↔ graph.Visitable id := by
  rw [Visitable, Visitable, h.start_eq, h.has_eq, h.successors_eq]

/-- The searches from the start visit the same blocks. -/
theorem reachable_perm (h : graph.Reordered other) : graph.reachable.Perm other.reachable := by
  refine (List.perm_ext_iff_of_nodup graph.nodup_reachable other.nodup_reachable).2 fun id => ?_
  rw [mem_reachable_iff, mem_reachable_iff, h.visitable_iff]

/-- **The same blocks lead to an end.** -/
theorem canEnd_iff (h : graph.Reordered other) : other.CanEnd id ↔ graph.CanEnd id := by
  simp only [CanEnd, h.successors_eq, h.blocks_perm.mem_iff]

/-- The same blocks are found to have no exit. -/
theorem withoutExit_perm (h : graph.Reordered other) :
    graph.withoutExit.Perm other.withoutExit := by
  refine (List.perm_ext_iff_of_nodup graph.nodup_withoutExit other.nodup_withoutExit).2
    fun id => ?_
  rw [mem_withoutExit_iff, mem_withoutExit_iff, h.visitable_iff, h.canEnd_iff]

/-! ### Faults -/

/-- A block has the same faults in both surveys, in the same order. -/
theorem blockFaults_eq (h : graph.Reordered other) (block : Block) :
    block.faults other = block.faults graph := by
  rw [Block.faults, Block.faults, Block.targetFaults, Block.targetFaults, h.has_eq]

/-- **The surveys have the same faults, up to order.** -/
theorem faults_perm (h : graph.Reordered other) : graph.faults.Perm other.faults := by
  have hblocks : (graph.blocks.flatMap fun block => about block (block.faults graph)).Perm
      (other.blocks.flatMap fun block => about block (block.faults other)) := by
    simp only [h.blockFaults_eq]
    exact h.blocks_perm.flatMap_right _
  rw [faults, faults, h.start_eq, h.has_eq]
  exact hblocks.append_left _

/-! ### Cautions -/

theorem writtenVariables_perm (h : graph.Reordered other) :
    graph.writtenVariables.Perm other.writtenVariables :=
  (h.blocks_perm.filter _).filterMap _

/-- The cautions about a block ask of the written variables only which they are. -/
theorem blockCautions_eq (h : graph.Reordered other) (block : Block) :
    block.cautions other.writtenVariables = block.cautions graph.writtenVariables := by
  have hconditions : Block.conditionCautions other.writtenVariables =
      Block.conditionCautions graph.writtenVariables := by
    funext condition
    rw [Block.conditionCautions, Block.conditionCautions, h.writtenVariables_perm.contains_eq]
  rw [Block.cautions, Block.cautions, hconditions]

theorem unreachableCautions_perm (h : graph.Reordered other) :
    graph.unreachableCautions.Perm other.unreachableCautions := by
  simp only [unreachableCautions, h.reachable_perm.contains_eq]
  exact (h.blocks_perm.filter _).map _

theorem exitCautions_perm (h : graph.Reordered other) :
    graph.exitCautions.Perm other.exitCautions := by
  rw [exitCautions, exitCautions, h.blocks_perm.any_eq]
  split
  · exact h.withoutExit_perm.map _
  · exact .refl _

/-- **The same time is estimated**, at every pace. -/
theorem estimatedSeconds_eq (h : graph.Reordered other) (pace : Pace) :
    other.estimatedSeconds pace = graph.estimatedSeconds pace :=
  ((h.blocks_perm.map _).foldl_eq 0).symm

theorem estimatedMinutes_eq (h : graph.Reordered other) (pace : Pace) :
    other.estimatedMinutes pace = graph.estimatedMinutes pace := by
  rw [estimatedMinutes, estimatedMinutes, h.estimatedSeconds_eq]

theorem durationCautions_eq (h : graph.Reordered other) (settings : ReviewSettings) :
    other.durationCautions settings = graph.durationCautions settings := by
  rw [durationCautions, durationCautions, h.estimatedMinutes_eq, h.expectedMinutes_eq]

/-- **The surveys give the same cause for caution, up to order.** -/
theorem cautions_perm (h : graph.Reordered other) (settings : ReviewSettings) :
    (graph.cautions settings).Perm (other.cautions settings) := by
  have hblocks :
      (graph.blocks.flatMap fun block =>
        about block (block.cautions graph.writtenVariables)).Perm
      (other.blocks.flatMap fun block =>
        about block (block.cautions other.writtenVariables)) := by
    simp only [h.blockCautions_eq]
    exact h.blocks_perm.flatMap_right _
  rw [cautions, cautions, h.durationCautions_eq]
  exact ((hblocks.append h.unreachableCautions_perm).append h.exitCautions_perm).append_right _

/-- **The reviews of both surveys find the same, up to order**, whatever they go by. -/
theorem review (h : graph.Reordered other) (settings : ReviewSettings) :
    (graph.review settings).SameUpToOrder (other.review settings) where
  faults_perm := h.faults_perm
  cautions_perm := h.cautions_perm settings
  totalBlocks_eq := h.blocks_perm.length_eq.symm
  reachableBlocks_eq := h.reachable_perm.length_eq.symm
  estimatedMinutes_eq := h.estimatedMinutes_eq settings.pace

end Reordered

end Graph

/-! ### Sessions -/

namespace Session

variable {conduct : Conduct} {graph other : Graph} {session : Session}

/-- **The current block of a session on a survey is its own twin in a reordered one.** -/
theorem hasTwin_reordered (h : session.graph.Reordered other) : HasTwin other session := by
  rw [HasTwin, h.block?_eq]
  cases session.graph.block? session.current with
  | none => exact .none
  | some block =>
      exact .some ⟨rfl, rfl, rfl, fun _ _ _ => rfl, fun _ _ target _ _ => by rw [h.has_eq]⟩

/-- **Sessions on two surveys go alike**: they can be started on both, and whatever is answered and
taken back, they stand at the same block with the same history, variables and progress, and the
next move is refused for the same reason or leads to sessions that agree again. -/
def GoAlike (conduct : Conduct) (name name' : String) (graph other : Graph) : Prop :=
  ∃ first second, Session.start conduct name graph = .ok first ∧
    Session.start conduct name' other = .ok second ∧
    ∀ moves : List Move,
      Agree (first.run conduct.selfLoopLimit moves) (second.run conduct.selfLoopLimit moves) ∧
      (second.run conduct.selfLoopLimit moves).currentBlock =
        (first.run conduct.selfLoopLimit moves).currentBlock ∧
      (second.run conduct.selfLoopLimit moves).progress =
        (first.run conduct.selfLoopLimit moves).progress ∧
      ∀ move, AgreeOn name'
        ((first.run conduct.selfLoopLimit moves).make conduct.selfLoopLimit move)
        ((second.run conduct.selfLoopLimit moves).make conduct.selfLoopLimit move)

/-- **Sessions on reordered surveys go alike**, if one of the surveys passes its review. -/
theorem goAlike_of_reordered (h : graph.Reordered other) {settings : ReviewSettings}
    (hvalid : (graph.review settings).isValid = true) (conduct : Conduct) (name name' : String) :
    GoAlike conduct name name' graph other := by
  have hgraph := Graph.isValid_review_iff.1 hvalid
  have hother : other.faults = [] :=
    Graph.isValid_review_iff.1 ((h.review settings).isValid_eq.trans hvalid)
  obtain ⟨first, second, hfirst, hsecond, hruns⟩ := agree_along_runs name name' hgraph hother
    h.start_eq fun session (hreached : Reached conduct graph session) =>
      hasTwin_reordered (hreached.keeps.2.1 ▸ h)
  refine ⟨first, second, hfirst, hsecond, fun moves => ?_⟩
  obtain ⟨hagree, hmoves⟩ := hruns moves
  have hreached : Reached conduct graph (first.run conduct.selfLoopLimit moves) :=
    ⟨name, first, moves, hfirst, rfl⟩
  have hreached' : Reached conduct other (second.run conduct.selfLoopLimit moves) :=
    ⟨name', second, moves, hsecond, rfl⟩
  refine ⟨hagree, ?_, hagree.progress_eq ?_, hmoves⟩
  · rw [currentBlock, currentBlock, hreached.keeps.2.1, hreached'.keeps.2.1, hagree.current,
      h.block?_eq]
  · rw [hreached.keeps.2.2, hreached'.keeps.2.2, h.reachable_perm.length_eq]

end Session

/-! ### Lists of blocks -/

/-- A survey with a title and a declared duration. -/
def Graph.declaring (title : Option String) (minutes : Option Number) (graph : Graph) : Graph :=
  { graph with title, expectedMinutes := minutes }

/-- **The order in which blocks are listed does not matter.**  Of two lists of the same blocks, with
different ids, either both are empty or both make up a survey.  Whatever title and duration the
surveys declare, their reviews find the same, up to order, and the same time is estimated, under all
settings; and if the one passes its review, sessions go alike on both. -/
theorem Graph.block_order_does_not_matter {blocks others : List Block}
    (hids : (blocks.map Block.id).Nodup) (hperm : blocks.Perm others) (start : String)
    (title : Option String) (minutes : Option Number) :
    (blocks = [] ∧ others = []) ∨
      ∃ graph other, (ofBlocks start blocks).map (declaring title minutes) = .ok graph ∧
        (ofBlocks start others).map (declaring title minutes) = .ok other ∧
        (∀ settings, (graph.review settings).SameUpToOrder (other.review settings)) ∧
        (∀ pace, other.estimatedSeconds pace = graph.estimatedSeconds pace ∧
          other.estimatedMinutes pace = graph.estimatedMinutes pace) ∧
        ∀ settings, (graph.review settings).isValid = true →
          ∀ conduct id id', Session.GoAlike conduct id id' graph other := by
  by_cases hblocks : blocks = []
  · subst hblocks
    exact .inl ⟨rfl, hperm.nil_eq.symm⟩
  · have hothers : others ≠ [] := fun hnil => hblocks (hnil ▸ hperm).eq_nil
    have hids' : (others.map Block.id).Nodup := (hperm.map Block.id).nodup_iff.1 hids
    have hreordered : Reordered ⟨start, title, minutes, blocks, hblocks, hids⟩
        ⟨start, title, minutes, others, hothers, hids'⟩ := ⟨rfl, rfl, hperm⟩
    refine .inr ⟨_, _, ?_, ?_, hreordered.review, ?_, ?_⟩
    · rw [ofBlocks, dif_pos ⟨hblocks, hids⟩]
      rfl
    · rw [ofBlocks, dif_pos ⟨hothers, hids'⟩]
      rfl
    · exact fun pace => ⟨hreordered.estimatedSeconds_eq pace, hreordered.estimatedMinutes_eq pace⟩
    · exact fun settings hvalid => Session.goAlike_of_reordered hreordered hvalid

/-- The blocks of `Graph.detached` the other way round, with a declared duration that the estimate
differs from. -/
theorem Graph.block_order_does_not_matter_detached :
    (detached.blocks.map Block.id).Nodup ∧ detached.blocks.Perm detached.blocks.reverse ∧
    ∃ graph other,
      (ofBlocks "ask" detached.blocks).map (declaring none (some (.ofNat 9))) = .ok graph ∧
      (ofBlocks "ask" detached.blocks.reverse).map (declaring none (some (.ofNat 9))) = .ok other ∧
      graph.ids = ["note", "ask", "end"] ∧ other.ids = ["end", "ask", "note"] ∧
      (graph.review .standard).cautions.length = 2 ∧
      (graph.review .standard).SameUpToOrder (other.review .standard) ∧
      (graph.review .standard).isValid = true ∧
      Session.GoAlike .standard "s" "t" graph other := by
  have hperm : detached.blocks.Perm detached.blocks.reverse := (List.reverse_perm _).symm
  obtain ⟨hnone, -⟩ | ⟨graph, other, hgraph, hother, hreview, -, hsessions⟩ :=
    block_order_does_not_matter detached.nodup_ids hperm "ask" none (some (.ofNat 9))
  · exact absurd hnone detached.blocks_ne_nil
  · refine ⟨detached.nodup_ids, hperm, graph, other, hgraph, hother, ?_⟩
    obtain rfl : _ = graph := Except.ok.inj hgraph
    obtain rfl : _ = other := Except.ok.inj hother
    have hvalid :
        ((declaring none (some (.ofNat 9)) detached).review .standard).isValid = true := by
      decide +kernel
    exact ⟨rfl, rfl, by decide +kernel, hreview .standard, hvalid,
      hsessions .standard hvalid .standard "s" "t"⟩

end Questionnaire
