/-
**Sessions without an exit.**

Answers move a session along the transitions of its survey only.  So a session that stands at a
block from which no final block can be reached is trapped: each answer that is accepted takes it to
another such block, and it never gets to an end.  These are the blocks that a review warns of, among
those that can be visited; from all others there is a way to an end.

Main definition:

* `Questionnaire.Graph.snare` — a survey without faults in which a session can be trapped.

Main results:

* `Questionnaire.Session.mem_successors_of_submit` — an accepted answer leads to a successor of the
  current block;
* `Questionnaire.Session.canEnd_of_submit` — **an answer opens no way to an end**;
* `Questionnaire.Session.not_canEnd_run` — nor does any number of answers;
* `Questionnaire.Session.withoutExit_is_trapped` — **the blocks that a review warns of as without an
  exit are those at which a session is trapped**.
-/

import Questionnaire.Proofs.Reachability
import Questionnaire.Proofs.Session.Run

set_option autoImplicit false

namespace Questionnaire

namespace Session

variable {graph : Graph} {limit : UInt32} {session next : Session} {answer : Value}

/-- **An accepted answer leads to a successor of the current block.** -/
theorem mem_successors_of_submit (h : session.submit limit answer = .ok next) :
    next.current ∈ session.graph.successors session.current := by
  have hcases := submission limit session answer
  rw [h] at hcases
  cases hcases with
  | @moved block stored transition hblock _ _ hnext hhas =>
      refine Graph.mem_successors_iff.2 ⟨block, hblock, ?_, hhas⟩
      rw [Block.targets, hnext]
      exact Transition.decide_target_mem transition _

/-- A session that is complete has come to an end. -/
theorem canEnd_of_isComplete (h : session.isComplete = true) :
    session.graph.CanEnd session.current := by
  unfold isComplete at h
  cases hblock : session.graph.block? session.current with
  | none =>
      rw [hblock] at h
      cases h
  | some block =>
      rw [hblock] at h
      obtain ⟨hmem, hid⟩ := Graph.mem_of_block? hblock
      refine ⟨block, hmem, h, ?_⟩
      rw [hid]

/-- **An answer opens no way to an end**: where it leads, there is one only if there was one
before. -/
theorem canEnd_of_submit (h : session.submit limit answer = .ok next)
    (hend : next.graph.CanEnd next.current) : session.graph.CanEnd session.current := by
  rw [submit_graph h] at hend
  obtain ⟨block, hmem, hfinal, hleads⟩ := hend
  exact ⟨block, hmem, hfinal, .head (mem_successors_of_submit h) hleads⟩

/-- **No number of answers opens a way to an end.** -/
theorem not_canEnd_run (limit : UInt32) (answers : List Value)
    (h : ¬ session.graph.CanEnd session.current) :
    ¬ (session.run limit (answers.map .answer)).graph.CanEnd
      (session.run limit (answers.map .answer)).current := by
  induction answers generalizing session with
  | nil => exact h
  | cons answer answers ih =>
      rw [List.map_cons, run_cons]
      refine ih ?_
      cases hmake : session.make limit (.answer answer) with
      | ok next =>
          rw [after_of_make hmake]
          exact fun hend => h (canEnd_of_submit hmake hend)
      | error error =>
          -- an answer that is refused leaves the session where it stands
          rwa [after, hmake]

/-- A session from whose block no final block can be reached is never completed by answers. -/
theorem isComplete_run_of_not_canEnd (limit : UInt32) (answers : List Value)
    (h : ¬ session.graph.CanEnd session.current) :
    (session.run limit (answers.map .answer)).isComplete = false :=
  Bool.eq_false_iff.2 fun hcomplete =>
    not_canEnd_run limit answers h (canEnd_of_isComplete hcomplete)

/-- **The blocks that a review warns of as without an exit are those at which a session is
trapped.** They are listed once and in the order of the survey, and are exactly the blocks that can
be visited and from which no transitions to existing blocks lead to a final one; the search for the
others, as a loop over a queue, comes to a stage at which no node waits.  A review warns of each of
them if the survey has a final block.  A session that stands at one is not completed by any answers,
and from every other block that can be visited there is a way to an end. -/
theorem withoutExit_is_trapped (graph : Graph) :
    graph.withoutExit.Sublist graph.ids ∧ graph.withoutExit.Nodup ∧
    (∀ id, id ∈ graph.withoutExit ↔ graph.Visitable id ∧ ¬ graph.CanEnd id) ∧
    (∃ visited, Reach.Turns .queue (graph.sources graph.reachable) ⟨graph.exits, []⟩ ⟨[], visited⟩ ∧
      visited.Perm graph.withExit) ∧
    (∀ settings, (graph.review settings).cautionsOf .noExit =
      if graph.blocks.any Block.isFinal then graph.withoutExit.map fun id => ⟨some id, .noExit⟩
      else []) ∧
    (∀ session : Session, session.graph = graph → session.current ∈ graph.withoutExit →
      ∀ limit (answers : List Value),
        (session.run limit (answers.map Move.answer)).isComplete = false) ∧
    ∀ id, graph.Visitable id → id ∉ graph.withoutExit → graph.CanEnd id := by
  have hsublist : graph.withoutExit.Sublist graph.ids := List.filter_sublist
  have hends := @Reach.exists_turns graph.ids graph.exits (graph.sources graph.reachable) .queue
    (fun _ _ _ hb => Graph.mem_ids_of_mem_sources hb) fun _ ha => Graph.mem_ids_of_mem_exits ha
  refine ⟨hsublist, hsublist.nodup graph.nodup_ids, fun _ => Graph.mem_withoutExit_iff, hends,
    graph.cautionsOf_noExit, ?_, ?_⟩
  · rintro session rfl htrapped limit answers
    exact isComplete_run_of_not_canEnd limit answers (Graph.mem_withoutExit_iff.1 htrapped).2
  · intro id hvisitable hlisted
    by_contra hend
    exact hlisted (Graph.mem_withoutExit_iff.2 ⟨hvisitable, hend⟩)

end Session

/-- A survey of two questions that lead to each other, once the first answer is not "no". -/
def Graph.snare : Graph where
  start := "join"
  title := none
  expectedMinutes := none
  blocks := [
    { id := "join"
      kind := .textInput none
      prompt := none
      variableName := some "join"
      next := some (.conditional [⟨⟨"join", .equals (.text "no")⟩, "end"⟩] "left") },
    { id := "left", kind := .message, prompt := none, variableName := none,
      next := some (.direct "right") },
    { id := "right", kind := .message, prompt := none, variableName := none,
      next := some (.direct "left") },
    { id := "end", kind := .final, prompt := none, variableName := none, next := none }]
  blocks_ne_nil := List.cons_ne_nil _ _
  nodup_ids := by decide +kernel

/-- In the survey `Graph.snare` an answer "yes" traps a session. -/
theorem Session.withoutExit_is_trapped_snare :
    (Graph.snare.review .standard).isValid = true ∧
    Graph.snare.withoutExit = ["left", "right"] ∧
    ∃ session, (opening "s" Graph.snare).submit 1 (.text "yes") = .ok session ∧
      session.graph = Graph.snare ∧ session.current ∈ Graph.snare.withoutExit ∧
      (∀ answers : List Value,
        (session.run 1 (answers.map Move.answer)).isComplete = false) ∧
      Graph.snare.Visitable "join" ∧ "join" ∉ Graph.snare.withoutExit ∧
      Graph.snare.CanEnd "join" := by
  have hlisted : Graph.snare.withoutExit = ["left", "right"] := by decide +kernel
  have hcurrent : "left" ∈ Graph.snare.withoutExit := by
    rw [hlisted]
    exact List.mem_cons_self
  have hunlisted : "join" ∉ Graph.snare.withoutExit := by
    rw [hlisted]
    decide +kernel
  have hvisitable : Graph.snare.Visitable "join" := ⟨by decide +kernel, .refl⟩
  obtain ⟨-, -, -, -, -, htrapped, hexit⟩ := Session.withoutExit_is_trapped Graph.snare
  refine ⟨by decide +kernel, hlisted, _, rfl, rfl, hcurrent, ?_, hvisitable, hunlisted,
    hexit "join" hvisitable hunlisted⟩
  exact fun answers => htrapped _ rfl hcurrent 1 answers

end Questionnaire
