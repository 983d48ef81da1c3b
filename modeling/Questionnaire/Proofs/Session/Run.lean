/-
**Runs of a session.**

A respondent answers the current block or goes back, any number of times and in any order, and a
move that is refused leaves the session as it was.  This module says once what a single move can
come to, case by case and with the reason of each case; everything that holds along a run follows
from these two descriptions by induction on the moves.

Main definitions:

* `Questionnaire.Move` — what a respondent can do;
* `Questionnaire.Session.Submission`, `Questionnaire.Session.Return` — **what a move can come to**;
* `Questionnaire.Session.make`, `Questionnaire.Session.run` — making one move, and making many;
* `Questionnaire.Session.Made` — what a successful move leads to;
* `Questionnaire.Session.Reached` — the sessions that runs lead to.

Main results:

* `Questionnaire.Session.submission`, `Questionnaire.Session.returning` — the descriptions are
  complete;
* `Questionnaire.Session.made` — a move succeeds in two ways only;
* `Questionnaire.Session.make_keeps` — what no move changes;
* `Questionnaire.Session.run_induction` — **what every successful move keeps, every run keeps**.
-/

import Questionnaire.Proofs.Closed
import Questionnaire.Session

set_option autoImplicit false

namespace Questionnaire

/-- What a respondent can do at a block: answer it, or go back by one block. -/
inductive Move where
  | answer (value : Value)
  | back

namespace Session

variable {limit : UInt32} {session next : Session} {answer : Value}

/-! ### What a move can come to -/

/-- The block to which an answer leads, given what the answer stores. -/
def destination (session : Session) (block : Block) (stored : Option Value)
    (transition : Transition) : String :=
  (transition.decide (storeAnswer session.bindings block stored)).target

/-- What answering the current block can come to. -/
inductive Submission (limit : UInt32) (session : Session) (answer : Value) :
    Except SessionError Session → Prop where
  | lost (hblock : session.graph.block? session.current = none) :
      Submission limit session answer (.error (.danglingReference session.current))
  | completed {block : Block} (hblock : session.graph.block? session.current = some block)
      (hfinal : block.isFinal = true) :
      Submission limit session answer (.error (.completed session.id))
  | rejected {block : Block} {reason : Rejection}
      (hblock : session.graph.block? session.current = some block)
      (hopen : block.isFinal = false) (haccept : block.kind.accept answer = .error reason) :
      Submission limit session answer (.error (.rejectedAnswer block.id reason))
  | stuck {block : Block} {stored : Option Value}
      (hblock : session.graph.block? session.current = some block)
      (hopen : block.isFinal = false) (haccept : block.kind.accept answer = .ok stored)
      (hnext : block.next = none) :
      Submission limit session answer (.error (.danglingReference block.id))
  | astray {block : Block} {stored : Option Value} {transition : Transition}
      (hblock : session.graph.block? session.current = some block)
      (hopen : block.isFinal = false) (haccept : block.kind.accept answer = .ok stored)
      (hnext : block.next = some transition)
      (hhas : session.graph.has (session.destination block stored transition) = false) :
      Submission limit session answer
        (.error (.danglingReference (session.destination block stored transition)))
  | looping {block : Block} {stored : Option Value} {transition : Transition}
      (hblock : session.graph.block? session.current = some block)
      (hopen : block.isFinal = false) (haccept : block.kind.accept answer = .ok stored)
      (hnext : block.next = some transition)
      (hhas : session.graph.has (session.destination block stored transition) = true)
      (hloops : limit < session.selfLoopsAt block (session.destination block stored transition)) :
      Submission limit session answer
        (.error (.endlessLoop block.id
          (session.selfLoopsAt block (session.destination block stored transition))))
  | moved {block : Block} {stored : Option Value} {transition : Transition}
      (hblock : session.graph.block? session.current = some block)
      (hopen : block.isFinal = false) (haccept : block.kind.accept answer = .ok stored)
      (hnext : block.next = some transition)
      (hhas : session.graph.has (session.destination block stored transition) = true)
      (hloops : ¬ limit < session.selfLoopsAt block (session.destination block stored transition)) :
      Submission limit session answer
        (.ok (session.moveTo block (storeAnswer session.bindings block stored)
          (session.destination block stored transition)))

/-- What going back can come to. -/
inductive Return (session : Session) : Except SessionError Session → Prop where
  | completed (hcomplete : session.isComplete = true) : Return session (.error (.completed session.id))
  | atStart (hopen : session.isComplete = false) (hhistory : session.history = []) :
      Return session (.error (.nothingToUndo session.id))
  | returned {earlier : List String} {previous : String} (hopen : session.isComplete = false)
      (hhistory : session.history = earlier ++ [previous]) :
      Return session (.ok (session.returnTo previous))

/-- **The description of an answer is complete.** -/
theorem submission (limit : UInt32) (session : Session) (answer : Value) :
    Submission limit session answer (session.submit limit answer) := by
  unfold submit currentBlock
  cases hblock : session.graph.block? session.current with
  | none => exact .lost hblock
  | some block =>
      cases hopen : block.isFinal with
      | true => simpa [hopen] using .completed hblock hopen
      | false =>
          cases haccept : block.kind.accept answer with
          | error reason => simpa [hopen, haccept] using .rejected hblock hopen haccept
          | ok stored =>
              cases hnext : block.next with
              | none => simpa [hopen, haccept, advance, hnext] using .stuck hblock hopen haccept hnext
              | some transition =>
                  simp only [hopen, haccept, advance, hnext, arrive, Bool.false_eq_true, if_false]
                  split
                  · rename_i hhas
                    split
                    · rename_i hloops
                      exact .looping hblock hopen haccept hnext hhas hloops
                    · rename_i hloops
                      exact .moved hblock hopen haccept hnext hhas hloops
                  · rename_i hhas
                    exact .astray hblock hopen haccept hnext (Bool.eq_false_iff.2 hhas)

/-- An answer that is accepted moves the session to where the transition leads. -/
theorem submit_eq_arrive {block : Block} {stored : Option Value} {transition : Transition}
    (hblock : session.graph.block? session.current = some block) (hopen : block.isFinal = false)
    (haccept : block.kind.accept answer = .ok stored) (hnext : block.next = some transition) :
    session.submit limit answer =
      arrive limit session block (storeAnswer session.bindings block stored)
        (session.destination block stored transition) := by
  simp [submit, currentBlock, hblock, hopen, haccept, advance, hnext, destination]

/-- **The description of going back is complete.** -/
theorem returning (session : Session) : Return session session.back := by
  unfold back
  cases hopen : session.isComplete with
  | true => simpa [hopen] using .completed hopen
  | false =>
      rcases List.eq_nil_or_concat session.history with hhistory | ⟨earlier, previous, hhistory⟩
      · simpa [hopen, hhistory] using .atStart hopen hhistory
      · rw [List.concat_eq_append] at hhistory
        simpa [hopen, hhistory] using .returned hopen hhistory

/-! ### Runs -/

/-- What a move comes to. -/
def make (limit : UInt32) (session : Session) : Move → Except SessionError Session
  | .answer value => session.submit limit value
  | .back => session.back

/-- The session after a move, which is the old one if the move is refused. -/
def after (limit : UInt32) (session : Session) (move : Move) : Session :=
  match session.make limit move with
  | .ok next => next
  | .error _ => session

/-- The session after many moves. -/
def run (limit : UInt32) (session : Session) (moves : List Move) : Session :=
  moves.foldl (after limit) session

@[simp] theorem run_nil (limit : UInt32) (session : Session) : session.run limit [] = session := rfl

@[simp] theorem run_cons (limit : UInt32) (session : Session) (move : Move) (moves : List Move) :
    session.run limit (move :: moves) = (session.after limit move).run limit moves := rfl

theorem run_append (limit : UInt32) (session : Session) (moves more : List Move) :
    session.run limit (moves ++ more) = (session.run limit moves).run limit more :=
  List.foldl_append

/-- What a successful move leads to. -/
inductive Made (limit : UInt32) (session : Session) : Move → Session → Prop where
  | moved {answer : Value} {block : Block} {stored : Option Value} {transition : Transition}
      (hblock : session.graph.block? session.current = some block)
      (hopen : block.isFinal = false) (haccept : block.kind.accept answer = .ok stored)
      (hnext : block.next = some transition)
      (hhas : session.graph.has (session.destination block stored transition) = true)
      (hloops : ¬ limit < session.selfLoopsAt block (session.destination block stored transition)) :
      Made limit session (.answer answer)
        (session.moveTo block (storeAnswer session.bindings block stored)
          (session.destination block stored transition))
  | returned {earlier : List String} {previous : String} (hopen : session.isComplete = false)
      (hhistory : session.history = earlier ++ [previous]) :
      Made limit session .back (session.returnTo previous)

/-- **A move succeeds in two ways only**: an answer is accepted and leads on, or the last answer is
taken back. -/
theorem made {move : Move} (h : session.make limit move = .ok next) :
    Made limit session move next := by
  cases move with
  | answer value =>
      have hcases := submission limit session value
      rw [show session.submit limit value = .ok next from h] at hcases
      cases hcases with
      | moved hblock hopen haccept hnext hhas hloops =>
          exact .moved hblock hopen haccept hnext hhas hloops
  | back =>
      have hcases := returning session
      rw [show session.back = .ok next from h] at hcases
      cases hcases with
      | returned hopen hhistory => exact .returned hopen hhistory

/-- What an accepted answer leads to. -/
theorem made_of_submit (h : session.submit limit answer = .ok next) :
    Made limit session (.answer answer) next := by
  have hmake : session.make limit (.answer answer) = .ok next := h
  exact made hmake

/-- No move is made at a final block. -/
theorem isComplete_of_make {move : Move} (h : session.make limit move = .ok next) :
    session.isComplete = false := by
  cases made h with
  | moved hblock hopen =>
      rw [isComplete, hblock]
      exact hopen
  | returned hopen => exact hopen

/-- No move changes whose session it is, on which survey, and how much of it there is to visit. -/
theorem make_keeps {move : Move} (h : session.make limit move = .ok next) :
    next.id = session.id ∧ next.graph = session.graph ∧
      next.reachableBlocks = session.reachableBlocks := by
  cases made h with
  | moved => exact ⟨rfl, rfl, rfl⟩
  | returned => exact ⟨rfl, rfl, rfl⟩

theorem after_of_make {move : Move} (h : session.make limit move = .ok next) :
    session.after limit move = next := by
  rw [after, h]

/-- **What every successful move keeps, every run keeps.** -/
theorem run_induction {P : Session → Prop}
    (step : ∀ {session next : Session} {move : Move}, P session →
      session.make limit move = .ok next → P next)
    (start : P session) (moves : List Move) : P (session.run limit moves) := by
  induction moves generalizing session with
  | nil => exact start
  | cons move moves ih =>
      rw [run_cons]
      refine ih ?_
      unfold after
      split
      · rename_i next hmake
        exact step start hmake
      · exact start

/-! ### Reached sessions -/

/-- The session with which a survey begins. -/
def opening (id : String) (graph : Graph) : Session where
  id
  graph
  current := graph.start
  bindings := []
  history := []
  selfLoops := 0
  reachableBlocks := graph.reachable.length

theorem id_of_startReviewed {id : String} {graph : Graph} {report : Report}
    (h : startReviewed id graph report = .ok session) : session.id = id := by
  unfold startReviewed at h
  split at h
  · cases h
    rfl
  · cases h

/-- A survey can be started exactly when it has no faults. -/
theorem start_eq_ok_iff {conduct : Conduct} {id : String} {graph : Graph} :
    Session.start conduct id graph = .ok session ↔
      graph.faults = [] ∧ session = opening id graph := by
  rw [← @Graph.isValid_review_iff graph conduct.review, start, startReviewed]
  split
  · rename_i hvalid
    rw [Except.ok.injEq, eq_comm]
    exact ⟨fun h => ⟨hvalid, h⟩, fun h => h.2⟩
  · rename_i hvalid
    constructor
    · intro h
      cases h
    · rintro ⟨h, -⟩
      exact absurd h hvalid

/-- A survey without faults is started at its opening. -/
theorem start_of_faults_eq_nil {graph : Graph} (h : graph.faults = []) (conduct : Conduct)
    (id : String) : Session.start conduct id graph = .ok (opening id graph) :=
  start_eq_ok_iff.2 ⟨h, rfl⟩

/-- **The sessions that runs lead to** from the start of a survey. -/
def Reached (conduct : Conduct) (graph : Graph) (session : Session) : Prop :=
  ∃ id first moves, Session.start conduct id graph = .ok first ∧
    first.run conduct.selfLoopLimit moves = session

namespace Reached

variable {conduct : Conduct} {graph : Graph}

theorem of_start {id : String} (h : Session.start conduct id graph = .ok session) :
    Reached conduct graph session := ⟨id, session, [], h, rfl⟩

/-- Every run from the opening of a survey without faults leads to a reached session. -/
theorem of_run_opening (h : graph.faults = []) (conduct : Conduct) (id : String)
    (moves : List Move) :
    Reached conduct graph ((opening id graph).run conduct.selfLoopLimit moves) :=
  ⟨id, _, moves, start_of_faults_eq_nil h conduct id, rfl⟩

/-- A survey that passes a review can be started, and every run leads to a reached session. -/
theorem exists_start {settings : ReviewSettings}
    (hvalid : (graph.review settings).isValid = true) (conduct : Conduct) (id : String) :
    Session.start conduct id graph = .ok (opening id graph) ∧ ∀ moves : List Move,
      Reached conduct graph ((opening id graph).run conduct.selfLoopLimit moves) := by
  have hfaults := Graph.isValid_review_iff.1 hvalid
  exact ⟨start_of_faults_eq_nil hfaults conduct id, of_run_opening hfaults conduct id⟩

/-- A successful move leads from a reached session to a reached session. -/
theorem of_make {move : Move} (h : Reached conduct graph session)
    (hmake : session.make conduct.selfLoopLimit move = .ok next) : Reached conduct graph next := by
  obtain ⟨id, first, moves, hstart, rfl⟩ := h
  refine ⟨id, first, moves ++ [move], hstart, ?_⟩
  rw [run_append, run_cons, run_nil, after_of_make hmake]

/-- What holds at the start and is kept by every successful move holds of every reached session. -/
theorem induction {P : Session → Prop}
    (start : graph.faults = [] → ∀ id, P (opening id graph))
    (step : ∀ {session next : Session} {move : Move}, P session →
      session.make conduct.selfLoopLimit move = .ok next → P next)
    (h : Reached conduct graph session) : P session := by
  obtain ⟨id, first, moves, hstart, rfl⟩ := h
  obtain ⟨hfaults, rfl⟩ := start_eq_ok_iff.1 hstart
  exact run_induction step (start hfaults id) moves

/-- A session was started on a survey without faults, runs on it still, and knows how many blocks
of it can be visited. -/
theorem keeps (h : Reached conduct graph session) :
    graph.faults = [] ∧ session.graph = graph ∧
      session.reachableBlocks = graph.reachable.length := by
  refine induction (P := fun session => graph.faults = [] ∧ session.graph = graph ∧
    session.reachableBlocks = graph.reachable.length) (fun hfaults id => ⟨hfaults, rfl, rfl⟩) ?_ h
  rintro session next move ⟨hfaults, hgraph, hreachable⟩ hmake
  obtain ⟨-, hgraph', hreachable'⟩ := make_keeps hmake
  exact ⟨hfaults, hgraph'.trans hgraph, hreachable'.trans hreachable⟩

end Reached

end Session

end Questionnaire
