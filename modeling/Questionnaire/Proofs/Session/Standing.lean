/-
**A session always stands at a block of its survey.**

A step can fail for want of a block in three places: when the current block is looked up, when a
block does not lead on, and when a transition leads to a block that does not exist.  On a survey
without faults none of them is ever reached.  The invariant that shows it speaks of the blocks
behind as well as of the current one, since going back makes one of them current again.

Main definitions:

* `Questionnaire.Session.Standing` — **the current block and all blocks behind it exist**;
* `Questionnaire.Session.Secure` — what a session on such a survey can meet.

Main results:

* `Questionnaire.Session.Standing.of_make` — every successful move keeps the invariant;
* `Questionnaire.Session.Reached.standing` — it holds of every reached session;
* `Questionnaire.Session.no_danglingReference_along_runs` — **no run meets a missing block**.
-/

import Questionnaire.Proofs.Session.Run

set_option autoImplicit false

namespace Questionnaire

namespace Session

variable {graph : Graph} {limit : UInt32} {session next : Session} {answer : Value}

/-- **The current block and all blocks behind it exist**, in the survey that the session runs on. -/
structure Standing (graph : Graph) (session : Session) : Prop where
  graph_eq : session.graph = graph
  has_current : graph.has session.current = true
  has_history : ∀ id ∈ session.history, graph.has id = true

namespace Standing

theorem of_opening (hclosed : graph.Closed) (id : String) : Standing graph (opening id graph) where
  graph_eq := rfl
  has_current := hclosed.has_start
  has_history := by
    intro id hid
    cases hid

/-- The block at which the session stands. -/
theorem exists_block (h : Standing graph session) :
    ∃ block, session.graph.block? session.current = some block ∧ block ∈ graph.blocks := by
  obtain ⟨block, hblock⟩ := Option.isSome_iff_exists.1 h.has_current
  exact ⟨block, h.graph_eq ▸ hblock, (Graph.mem_of_block? hblock).1⟩

theorem exists_currentBlock (h : Standing graph session) :
    ∃ block, session.currentBlock = .ok block := by
  obtain ⟨block, hblock, -⟩ := h.exists_block
  exact ⟨block, by rw [currentBlock, hblock]⟩

/-- Every successful move keeps the invariant.  Of the survey nothing is needed: a move to a block
that does not exist is refused, and going back leads to a block that was current before. -/
theorem of_make (h : Standing graph session) {move : Move}
    (hmake : session.make limit move = .ok next) : Standing graph next := by
  cases made hmake with
  | @moved _ block _ _ hblock _ _ _ hhas _ =>
      refine ⟨h.graph_eq, h.graph_eq ▸ hhas, ?_⟩
      intro id hid
      rcases List.mem_append.1 hid with hid | hid
      · exact h.has_history id hid
      · -- the block that was just answered was the current one
        rw [List.mem_singleton.1 hid, (Graph.mem_of_block? hblock).2]
        exact h.has_current
  | @returned earlier previous _ hhistory =>
      refine ⟨h.graph_eq, h.has_history previous (by simp [hhistory]), ?_⟩
      intro id hid
      exact h.has_history id (List.dropLast_subset _ hid)

/-- On a closed survey an answer is never refused for want of a block. -/
theorem submit_error (h : Standing graph session) (hclosed : graph.Closed) {error : SessionError}
    (hsubmit : session.submit limit answer = .error error) :
    (∃ block reason, error = .rejectedAnswer block reason) ∨ error = .completed session.id ∨
      ∃ block loops, error = .endlessLoop block loops := by
  obtain ⟨block, hblock, hmem⟩ := h.exists_block
  have hcases := submission limit session answer
  rw [hsubmit] at hcases
  cases hcases with
  | lost hlost =>
      rw [hblock] at hlost
      cases hlost
  | completed => exact .inr (.inl rfl)
  | rejected => exact .inl ⟨_, _, rfl⟩
  | stuck hstuck hopen _ hnext =>
      rw [hblock] at hstuck
      cases hstuck
      exact absurd hnext (hclosed.next_ne_none block hmem hopen)
  | @astray _ stored transition hastray _ _ hnext hhas =>
      rw [hblock] at hastray
      cases hastray
      have htarget : session.destination block stored transition ∈ block.targets := by
        rw [Block.targets, hnext]
        exact Transition.decide_target_mem transition _
      rw [h.graph_eq, hclosed.has_target block hmem _ htarget] at hhas
      cases hhas
  | looping => exact .inr (.inr ⟨_, _, rfl⟩)

end Standing

/-- Going back is refused at the end and at the start only, on any survey. -/
theorem back_error {error : SessionError} (hback : session.back = .error error) :
    error = .completed session.id ∨ error = .nothingToUndo session.id := by
  have hcases := returning session
  rw [hback] at hcases
  cases hcases with
  | completed => exact .inl rfl
  | atStart => exact .inr rfl

/-- **Every reached session stands at a block of its survey.** -/
theorem Reached.standing {conduct : Conduct} (h : Reached conduct graph session) :
    Standing graph session :=
  h.induction (fun hfaults id => .of_opening (Graph.closed_of_faults_eq_nil hfaults) id)
    (fun hstanding hmake => hstanding.of_make hmake)

/-- **What a session on a closed survey can meet**: it stands at a block; an answer is refused only
because the block does not accept it, because the survey is over or because a block would lead to
itself too often; going back is refused only at the end and at the start. -/
structure Secure (limit : UInt32) (session : Session) : Prop where
  exists_block : ∃ block, session.currentBlock = .ok block
  submit_error : ∀ answer error, session.submit limit answer = .error error →
    (∃ block reason, error = .rejectedAnswer block reason) ∨ error = .completed session.id ∨
      ∃ block loops, error = .endlessLoop block loops
  back_error : ∀ error, session.back = .error error →
    error = .completed session.id ∨ error = .nothingToUndo session.id

/-- **No run meets a missing block.**  A survey that passes a review, under whatever settings, can
be started, and no moves lead to a session that would. -/
theorem no_danglingReference_along_runs {settings : ReviewSettings}
    (hvalid : (graph.review settings).isValid = true) (conduct : Conduct) (id : String) :
    ∃ first, Session.start conduct id graph = .ok first ∧
      ∀ moves : List Move, Secure conduct.selfLoopLimit (first.run conduct.selfLoopLimit moves) := by
  have hfaults := Graph.isValid_review_iff.1 hvalid
  have hclosed := Graph.closed_of_faults_eq_nil hfaults
  have hstart : Session.start conduct id graph = .ok (opening id graph) :=
    start_eq_ok_iff.2 ⟨hfaults, rfl⟩
  refine ⟨opening id graph, hstart, fun moves => ?_⟩
  have hreached : Reached conduct graph ((opening id graph).run conduct.selfLoopLimit moves) :=
    ⟨id, _, moves, hstart, rfl⟩
  have hstanding := hreached.standing
  exact {
    exists_block := hstanding.exists_currentBlock
    submit_error := fun _ _ hsubmit => hstanding.submit_error hclosed hsubmit
    back_error := fun _ hback => back_error hback }

/-- The survey `Graph.retry`, whose question leads to itself, can be run without meeting one. -/
theorem no_danglingReference_along_runs_retry :
    (Graph.retry.review .standard).isValid = true ∧
    ∃ first, Session.start .standard "s" Graph.retry = .ok first ∧
      ∀ moves : List Move,
        Secure Conduct.standard.selfLoopLimit (first.run Conduct.standard.selfLoopLimit moves) :=
  have hvalid := Graph.isValid_review_iff.2 Graph.faults_retry
  ⟨hvalid, no_danglingReference_along_runs hvalid .standard "s"⟩

end Session

end Questionnaire
