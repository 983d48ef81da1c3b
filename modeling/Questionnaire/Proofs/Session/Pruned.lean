/-
**Surveys without the blocks that cannot be visited.**

A block that cannot be visited plays no part in a session.  When all such blocks are left out of a
survey that passes its review, the rest is a survey that passes it as well: what a reachable block
leads to is reachable, so no transition of the rest loses its target.  A session never stands at a
block that was left out, and at the others it finds the same block as before.

Main definitions:

* `Questionnaire.Graph.reachablePart` — **a survey without the blocks that cannot be visited**;
* `Questionnaire.Graph.ReachablePart` — what such a survey consists of.

Main results:

* `Questionnaire.Graph.exists_reachablePart` — a survey whose start exists has a reachable part;
* `Questionnaire.Graph.ReachablePart.block?_eq`, `Questionnaire.Graph.ReachablePart.visitable_iff` —
  the same blocks are found, and the same can be visited;
* `Questionnaire.Graph.ReachablePart.wellFormed` — leaving out what cannot be visited makes no
  survey unfit;
* `Questionnaire.Session.unreachable_blocks_can_be_deleted` — **with and without the blocks that
  cannot be visited, a survey is walked alike**.
-/

import Questionnaire.Proofs.Reachability
import Questionnaire.Proofs.Session.Mirror
import Questionnaire.Proofs.Session.Path
import Questionnaire.Proofs.WellFormed

set_option autoImplicit false

namespace Questionnaire

namespace Graph

variable {graph part : Graph} {id : String} {block : Block}

/-- **A survey without the blocks that cannot be visited**: the same start, title and duration, and
the reachable blocks in their order, if these make up a survey. -/
def reachablePart (graph : Graph) : Except (List Flaw) Graph :=
  (ofBlocks graph.start (graph.blocks.filter fun block => block.id ∈ graph.reachable)).map
    fun part => { part with title := graph.title, expectedMinutes := graph.expectedMinutes }

/-- What a survey without the blocks that cannot be visited consists of. -/
structure ReachablePart (graph part : Graph) : Prop where
  start_eq : part.start = graph.start
  blocks_eq : part.blocks = graph.blocks.filter fun block => block.id ∈ graph.reachable

theorem reachablePart_of_reachablePart (h : graph.reachablePart = .ok part) :
    graph.ReachablePart part := by
  unfold reachablePart ofBlocks at h
  split at h
  · cases h
    exact ⟨rfl, rfl⟩
  · cases h

/-- **A survey whose start exists has a reachable part**: the start is left, and no id is there
twice. -/
theorem exists_reachablePart (hstart : graph.has graph.start = true) :
    ∃ part, graph.reachablePart = .ok part := by
  have hkept : graph.blocks.filter (fun block => block.id ∈ graph.reachable) ≠ [] := by
    obtain ⟨block, hblock⟩ := Option.isSome_iff_exists.1 hstart
    obtain ⟨hmem, hid⟩ := mem_of_block? hblock
    have hvisitable : block.id ∈ graph.reachable := by
      rw [hid]
      exact mem_reachable_iff.2 ⟨hstart, .refl⟩
    exact List.ne_nil_of_mem (List.mem_filter.2 ⟨hmem, decide_eq_true hvisitable⟩)
  have hnodup :
      ((graph.blocks.filter fun block => block.id ∈ graph.reachable).map Block.id).Nodup :=
    (List.filter_sublist.map Block.id).nodup graph.nodup_ids
  rw [reachablePart, ofBlocks, dif_pos ⟨hkept, hnodup⟩]
  exact ⟨_, rfl⟩

namespace ReachablePart

theorem mem_blocks_iff (h : graph.ReachablePart part) :
    block ∈ part.blocks ↔ block ∈ graph.blocks ∧ graph.Visitable block.id := by
  rw [h.blocks_eq, List.mem_filter, decide_eq_true_eq, mem_reachable_iff]

/-- **A block that can be visited is found as before.** -/
theorem block?_eq (h : graph.ReachablePart part) (hvisitable : graph.Visitable id) :
    part.block? id = graph.block? id := by
  refine Option.ext fun block => ?_
  rw [block?_eq_some_iff, block?_eq_some_iff, h.mem_blocks_iff]
  constructor
  · rintro ⟨⟨hmem, -⟩, hid⟩
    exact ⟨hmem, hid⟩
  · rintro ⟨hmem, rfl⟩
    exact ⟨⟨hmem, hvisitable⟩, rfl⟩

/-- The blocks that are left are those that can be visited. -/
theorem has_iff_visitable (h : graph.ReachablePart part) :
    part.has id = true ↔ graph.Visitable id := by
  constructor
  · intro hhas
    obtain ⟨block, hblock⟩ := Option.isSome_iff_exists.1 hhas
    obtain ⟨hmem, rfl⟩ := mem_of_block? hblock
    exact (h.mem_blocks_iff.1 hmem).2
  · intro hvisitable
    rw [has, h.block?_eq hvisitable]
    exact hvisitable.has

/-- What a block that can be visited leads to is left exactly when it existed before. -/
theorem has_target (h : graph.ReachablePart part) (hvisitable : graph.Visitable id)
    (hblock : graph.block? id = some block) {target : String} (htarget : target ∈ block.targets) :
    part.has target = graph.has target := by
  refine Bool.eq_iff_iff.2 (h.has_iff_visitable.trans ⟨Visitable.has, fun hhas => ?_⟩)
  exact hvisitable.leads (.single (mem_successors_iff.2 ⟨block, hblock, htarget, hhas⟩))

/-- A block that can be visited has the same successors as before. -/
theorem mem_successors_iff_of_visitable (h : graph.ReachablePart part)
    (hvisitable : graph.Visitable id) {target : String} :
    target ∈ part.successors id ↔ target ∈ graph.successors id := by
  rw [mem_successors_iff, mem_successors_iff, h.block?_eq hvisitable]
  refine exists_congr fun block => and_congr_right fun hblock => and_congr_right fun htarget => ?_
  rw [h.has_target hvisitable hblock htarget]

/-- **The same blocks can be visited.** -/
theorem visitable_iff (h : graph.ReachablePart part) : part.Visitable id ↔ graph.Visitable id := by
  constructor
  · rintro ⟨hstart, hleads⟩
    rw [h.start_eq] at hstart hleads
    induction hleads with
    | refl => exact h.has_iff_visitable.1 hstart
    | tail _ hstep ih =>
        exact ih.leads (.single ((h.mem_successors_iff_of_visitable ih).1 hstep))
  · intro hvisitable
    obtain ⟨hstart, hleads⟩ := hvisitable
    have hfirst : part.Visitable graph.start := by
      refine ⟨?_, ?_⟩
      · rw [h.start_eq]
        exact h.has_iff_visitable.2 ⟨hstart, .refl⟩
      · rw [h.start_eq]
    induction hleads with
    | refl => exact hfirst
    | @tail here there hbefore hstep ih =>
        -- the block before can be visited in the whole survey, so it leads on alike
        exact ih.leads (.single
          ((h.mem_successors_iff_of_visitable ⟨hstart, hbefore⟩).2 hstep))

/-- The reachable blocks are as many as before. -/
theorem length_reachable_eq (h : graph.ReachablePart part) :
    part.reachable.length = graph.reachable.length := by
  simp only [length_reachable, h.visitable_iff]

/-- **Leaving out what cannot be visited makes no survey unfit.** -/
theorem wellFormed (h : graph.ReachablePart part) (hgraph : graph.WellFormed) :
    part.WellFormed where
  has_start := by
    rw [h.start_eq]
    exact h.has_iff_visitable.2 ⟨hgraph.has_start, .refl⟩
  wellFormed := by
    intro block hmem
    obtain ⟨hblock, hvisitable⟩ := h.mem_blocks_iff.1 hmem
    have hwell := hgraph.wellFormed block hblock
    have hfound : graph.block? block.id = some block := block?_eq_some_iff.2 ⟨hblock, rfl⟩
    exact {
      known := hwell.known
      named := hwell.named
      options := hwell.options
      range := hwell.range
      limit := hwell.limit
      fields := hwell.fields
      leadsOn := hwell.leadsOn
      has_target := by
        intro target htarget
        rw [h.has_target hvisitable hfound htarget]
        exact hwell.has_target target htarget }

end ReachablePart

end Graph

namespace Session

variable {conduct : Conduct} {graph part : Graph} {session other : Session}

/-- A reached session stands at a block that can be visited. -/
theorem Reached.visitable_current (h : Reached conduct graph session) :
    graph.Visitable session.current :=
  h.walking.walk.visitable _ (List.mem_append_right _ List.mem_cons_self)

/-- **In a reached session, the current block is its own twin in the reachable part.** -/
theorem Reached.hasTwin_reachablePart (hpart : graph.ReachablePart part)
    (h : Reached conduct graph session) : HasTwin part session := by
  have hgraph : session.graph = graph := h.keeps.2.1
  rw [HasTwin, hgraph, hpart.block?_eq h.visitable_current]
  cases hblock : graph.block? session.current with
  | none => exact .none
  | some block =>
      refine .some ⟨rfl, rfl, rfl, fun _ _ _ => rfl, ?_⟩
      intro answer stored target _ hleads
      rw [hgraph]
      refine hpart.has_target h.visitable_current hblock ?_
      obtain ⟨transition, hnext, rfl⟩ := Option.map_eq_some_iff.1 hleads
      rw [Block.targets, hnext]
      exact Transition.decide_target_mem transition _

/-- Sessions that agree and can visit equally many blocks have made the same progress. -/
theorem Agree.progress_eq (h : Agree session other)
    (hreachable : other.reachableBlocks = session.reachableBlocks) :
    other.progress = session.progress := by
  rw [progress, progress, h.isComplete, h.history, hreachable]

/-- **With and without the blocks that cannot be visited, a survey is walked alike.**  A survey that
passes its review has a reachable part, which passes it too and has as many reachable blocks.  Along
every run, on the one and on the other, sessions agree: they stand at the same block with the same
history, variables, count of self loops and progress, they are complete at the same time, and the
next move is refused for the same reason or leads to sessions that agree again. -/
theorem unreachable_blocks_can_be_deleted {settings : ReviewSettings}
    (hvalid : (graph.review settings).isValid = true) (conduct : Conduct) (id other : String) :
    ∃ part, graph.reachablePart = .ok part ∧
      (part.review settings).isValid = true ∧
      (part.review settings).reachableBlocks = (graph.review settings).reachableBlocks ∧
      ∃ first second, Session.start conduct id graph = .ok first ∧
        Session.start conduct other part = .ok second ∧
        ∀ moves : List Move,
          Agree (first.run conduct.selfLoopLimit moves) (second.run conduct.selfLoopLimit moves) ∧
          (second.run conduct.selfLoopLimit moves).progress =
            (first.run conduct.selfLoopLimit moves).progress ∧
          ∀ move, AgreeOn other
            ((first.run conduct.selfLoopLimit moves).make conduct.selfLoopLimit move)
            ((second.run conduct.selfLoopLimit moves).make conduct.selfLoopLimit move) := by
  have hfaults := Graph.isValid_review_iff.1 hvalid
  have hwell := Graph.wellFormed_iff.2 hfaults
  obtain ⟨part, hok⟩ := Graph.exists_reachablePart hwell.has_start
  have hpart := Graph.reachablePart_of_reachablePart hok
  have hrest : part.faults = [] := Graph.wellFormed_iff.1 (hpart.wellFormed hwell)
  obtain ⟨first, second, hfirst, hsecond, hruns⟩ := agree_along_runs id other hfaults hrest
    hpart.start_eq fun _ (hreached : Reached conduct graph _) =>
      hreached.hasTwin_reachablePart hpart
  refine ⟨part, hok, Graph.isValid_review_iff.2 hrest, hpart.length_reachable_eq, first, second,
    hfirst, hsecond, fun moves => ?_⟩
  obtain ⟨hagree, hmoves⟩ := hruns moves
  have hreached : Reached conduct graph (first.run conduct.selfLoopLimit moves) :=
    ⟨id, first, moves, hfirst, rfl⟩
  have hreached' : Reached conduct part (second.run conduct.selfLoopLimit moves) :=
    ⟨other, second, moves, hsecond, rfl⟩
  refine ⟨hagree, hagree.progress_eq ?_, hmoves⟩
  rw [hreached'.keeps.2.2, hreached.keeps.2.2, hpart.length_reachable_eq]

end Session

/-- A survey with a block that leads on but that nothing leads to. -/
def Graph.detached : Graph where
  start := "ask"
  title := none
  expectedMinutes := none
  blocks := [
    { id := "note", kind := .message, prompt := none, variableName := none,
      next := some (.direct "ask") },
    { id := "ask"
      kind := .textInput none
      prompt := none
      variableName := some "reply"
      next := some (.conditional [⟨⟨"reply", .equals (.text "again")⟩, "ask"⟩] "end") },
    { id := "end", kind := .final, prompt := none, variableName := none, next := none }]
  blocks_ne_nil := List.cons_ne_nil _ _
  nodup_ids := by decide +kernel

/-- The survey `Graph.detached` is walked alike without its first block. -/
theorem Session.unreachable_blocks_can_be_deleted_detached :
    (Graph.detached.review .standard).isValid = true ∧
    ∃ part, Graph.detached.reachablePart = .ok part ∧ part.ids = ["ask", "end"] ∧
      (part.review .standard).isValid = true ∧
      ∃ first second, Session.start .standard "s" Graph.detached = .ok first ∧
        Session.start .standard "t" part = .ok second ∧
        ∀ moves : List Move, Agree (first.run Conduct.standard.selfLoopLimit moves)
          (second.run Conduct.standard.selfLoopLimit moves) := by
  have hvalid : (Graph.detached.review .standard).isValid = true := by decide +kernel
  obtain ⟨part, hok, hpart, -, first, second, hfirst, hsecond, hruns⟩ :=
    unreachable_blocks_can_be_deleted hvalid .standard "s" "t"
  refine ⟨hvalid, part, hok, ?_, hpart, first, second, hfirst, hsecond,
    fun moves => (hruns moves).1⟩
  have hids : Graph.detached.reachablePart.map Graph.ids = .ok ["ask", "end"] := by decide +kernel
  rw [hok] at hids
  exact Except.ok.inj hids

end Questionnaire
