/-
**Sessions on a copy of a survey.**

A survey can be changed in ways that no respondent notices: blocks are put in another order, or what
plays no part is left out.  It is enough to compare, at each block where a respondent can stand, the
block with its twin in the copy: they accept the same answers, store them alike and lead on alike
after each of them.  Then sessions on the survey and on the copy go together forever, whatever is
answered.

Main definitions:

* `Questionnaire.Block.leadsTo?` — where a block leads;
* `Questionnaire.Session.Twin`, `Questionnaire.Session.HasTwin` — **blocks between which a session
  makes no difference**;
* `Questionnaire.Session.onCopy` — a session moved to a copy of its survey;
* `Questionnaire.Session.Agree`, `Questionnaire.Session.AgreeOn` — sessions and outcomes that agree.

Main results:

* `Questionnaire.Session.make_onCopy` — what a move comes to on the copy;
* `Questionnaire.Session.Reached.run_onCopy` — where a run leads on the copy;
* `Questionnaire.Session.agree_along_runs` — **sessions on a survey and on a copy with twins agree
  along every run**.
-/

import Questionnaire.Proofs.Session.Run

set_option autoImplicit false

namespace Questionnaire

/-- Where a block leads, given what the variables hold, if it leads on at all. -/
def Block.leadsTo? (block : Block) (bindings : Variables) : Option String :=
  block.next.map fun transition => (transition.decide bindings).target

/-- The same error of a session with another id. -/
def SessionError.ofSession (id : String) : SessionError → SessionError
  | .completed _ => .completed id
  | .nothingToUndo _ => .nothingToUndo id
  | error => error

namespace Session

variable {graph copy : Graph} {limit : UInt32} {session : Session} {id : String}

/-! ### Twins -/

/-- **Blocks between which a session makes no difference**: they have the same id, kind and
variable, and after every accepted answer they lead to the same block, which exists in both surveys
or in neither. -/
structure Twin (copy : Graph) (session : Session) (block twin : Block) : Prop where
  id_eq : twin.id = block.id
  kind_eq : twin.kind = block.kind
  variableName_eq : twin.variableName = block.variableName
  leadsTo?_eq : ∀ answer stored, block.kind.accept answer = .ok stored →
    twin.leadsTo? (storeAnswer session.bindings block stored) =
      block.leadsTo? (storeAnswer session.bindings block stored)
  has_eq : ∀ answer stored target, block.kind.accept answer = .ok stored →
    block.leadsTo? (storeAnswer session.bindings block stored) = some target →
    copy.has target = session.graph.has target

/-- Whether the current block of a session has a twin in a copy of the survey. -/
def HasTwin (copy : Graph) (session : Session) : Prop :=
  Option.Rel (Twin copy session) (session.graph.block? session.current)
    (copy.block? session.current)

theorem Twin.isFinal_eq {block twin : Block} (h : Twin copy session block twin) :
    twin.isFinal = block.isFinal := by
  rw [Block.isFinal, h.kind_eq, Block.isFinal]

theorem Twin.storeAnswer_eq {block twin : Block} (h : Twin copy session block twin)
    (bindings : Variables) (stored : Option Value) :
    storeAnswer bindings twin stored = storeAnswer bindings block stored := by
  unfold storeAnswer
  rw [h.variableName_eq]

/-- Where a session has a twin of its block, both blocks are missing or they are twins. -/
theorem HasTwin.missing_or_twin (h : HasTwin copy session) :
    (session.graph.block? session.current = none ∧ copy.block? session.current = none) ∨
      ∃ block twin, session.graph.block? session.current = some block ∧
        copy.block? session.current = some twin ∧ Twin copy session block twin := by
  unfold HasTwin at h
  generalize session.graph.block? session.current = here at h
  generalize copy.block? session.current = there at h
  cases h with
  | none => exact .inl ⟨rfl, rfl⟩
  | some htwin => exact .inr ⟨_, _, rfl, rfl, htwin⟩

/-! ### Moves on a copy -/

/-- A session moved to a copy of its survey, under another id. -/
def onCopy (id : String) (copy : Graph) (session : Session) : Session :=
  { session with id, graph := copy, reachableBlocks := copy.reachable.length }

/-- An outcome moved to a copy of the survey. -/
def outcomeOnCopy (id : String) (copy : Graph) :
    Except SessionError Session → Except SessionError Session
  | .error error => .error (error.ofSession id)
  | .ok next => .ok (next.onCopy id copy)

theorem advance_eq (limit : UInt32) (session : Session) (block : Block) (bindings : Variables) :
    advance limit session block bindings =
      match block.leadsTo? bindings with
      | none => .error (.danglingReference block.id)
      | some target => arrive limit session block bindings target := by
  unfold advance Block.leadsTo?
  cases block.next <;> rfl

theorem arrive_onCopy {block twin : Block} {bindings : Variables} {target : String}
    (hid : twin.id = block.id) (hhas : copy.has target = session.graph.has target) :
    arrive limit (session.onCopy id copy) twin bindings target =
      outcomeOnCopy id copy (arrive limit session block bindings target) := by
  have hloops : (session.onCopy id copy).selfLoopsAt twin target =
      session.selfLoopsAt block target := by
    rw [selfLoopsAt, hid]
    rfl
  have hmoved : (session.onCopy id copy).moveTo twin bindings target =
      (session.moveTo block bindings target).onCopy id copy := by
    rw [moveTo, hloops, hid]
    rfl
  unfold arrive
  rw [hloops, hmoved, hid, show (session.onCopy id copy).graph.has target =
    session.graph.has target from hhas]
  split
  · split <;> rfl
  · rfl

theorem advance_onCopy {block twin : Block} {answer : Value} {stored : Option Value}
    (h : Twin copy session block twin) (haccept : block.kind.accept answer = .ok stored) :
    advance limit (session.onCopy id copy) twin (storeAnswer session.bindings block stored) =
      outcomeOnCopy id copy
        (advance limit session block (storeAnswer session.bindings block stored)) := by
  rw [advance_eq, advance_eq, h.leadsTo?_eq answer stored haccept]
  cases htarget : block.leadsTo? (storeAnswer session.bindings block stored) with
  | none =>
      rw [h.id_eq]
      rfl
  | some target => exact arrive_onCopy h.id_eq (h.has_eq answer stored target haccept htarget)

theorem submit_onCopy (h : HasTwin copy session) (answer : Value) :
    (session.onCopy id copy).submit limit answer =
      outcomeOnCopy id copy (session.submit limit answer) := by
  have hcurrent : (session.onCopy id copy).graph.block? (session.onCopy id copy).current =
      copy.block? session.current := rfl
  unfold submit currentBlock
  rw [hcurrent]
  obtain ⟨hhere, hthere⟩ | ⟨block, twin, hhere, hthere, htwin⟩ := h.missing_or_twin
  · rw [hhere, hthere]
    rfl
  · rw [hhere, hthere]
    dsimp only
    rw [htwin.isFinal_eq, htwin.kind_eq]
    split
    · rfl
    · cases haccept : block.kind.accept answer with
      | error reason =>
          rw [htwin.id_eq]
          rfl
      | ok stored =>
          dsimp only
          rw [htwin.storeAnswer_eq]
          exact advance_onCopy htwin haccept

theorem isComplete_onCopy (h : HasTwin copy session) :
    (session.onCopy id copy).isComplete = session.isComplete := by
  have hcurrent : (session.onCopy id copy).graph.block? (session.onCopy id copy).current =
      copy.block? session.current := rfl
  unfold isComplete
  rw [hcurrent]
  obtain ⟨hhere, hthere⟩ | ⟨block, twin, hhere, hthere, htwin⟩ := h.missing_or_twin
  · rw [hhere, hthere]
  · rw [hhere, hthere]
    exact htwin.isFinal_eq

theorem back_onCopy (h : HasTwin copy session) :
    (session.onCopy id copy).back = outcomeOnCopy id copy session.back := by
  unfold back
  rw [isComplete_onCopy h]
  split
  · rfl
  · rw [show (session.onCopy id copy).history = session.history from rfl]
    cases session.history.getLast? <;> rfl

/-- **What a move comes to on a copy** in which the current block has a twin. -/
theorem make_onCopy (h : HasTwin copy session) (move : Move) :
    (session.onCopy id copy).make limit move = outcomeOnCopy id copy (session.make limit move) := by
  cases move with
  | answer value => exact submit_onCopy h value
  | back => exact back_onCopy h

theorem after_onCopy (h : HasTwin copy session) (move : Move) :
    (session.onCopy id copy).after limit move = (session.after limit move).onCopy id copy := by
  unfold after
  rw [make_onCopy h]
  cases session.make limit move <;> rfl

/-! ### Runs on a copy -/

section Runs

variable {conduct : Conduct}

/-- A move leads from a reached session to a reached session, whether it is refused or not. -/
theorem Reached.after (h : Reached conduct graph session) (move : Move) :
    Reached conduct graph (session.after conduct.selfLoopLimit move) := by
  cases hmake : session.make conduct.selfLoopLimit move with
  | ok next =>
      rw [after_of_make hmake]
      exact h.of_make hmake
  | error error => rwa [Session.after, hmake]

/-- **Where a run leads on a copy** in which every reached session has a twin of its block. -/
theorem Reached.run_onCopy (htwin : ∀ session, Reached conduct graph session → HasTwin copy session)
    (h : Reached conduct graph session) (moves : List Move) :
    (session.onCopy id copy).run conduct.selfLoopLimit moves =
      (session.run conduct.selfLoopLimit moves).onCopy id copy := by
  induction moves generalizing session with
  | nil => rfl
  | cons move moves ih =>
      -- what follows is reached again, so it has a twin whatever the move came to
      rw [run_cons, run_cons, after_onCopy (htwin session h), ih (h.after move)]

/-- **Sessions that a respondent cannot tell apart** by where they stand and what they hold. -/
structure Agree (session other : Session) : Prop where
  current : other.current = session.current
  history : other.history = session.history
  bindings : other.bindings = session.bindings
  selfLoops : other.selfLoops = session.selfLoops
  isComplete : other.isComplete = session.isComplete

theorem agree_onCopy (h : HasTwin copy session) : Agree session (session.onCopy id copy) where
  current := rfl
  history := rfl
  bindings := rfl
  selfLoops := rfl
  isComplete := isComplete_onCopy h

/-- **Outcomes that agree**: sessions that do, or the same error, up to the id of the session. -/
inductive AgreeOn (id : String) : Except SessionError Session → Except SessionError Session → Prop
  | ok {next other : Session} (h : Agree next other) : AgreeOn id (.ok next) (.ok other)
  | error {error : SessionError} : AgreeOn id (.error error) (.error (error.ofSession id))

/-- **Sessions on a survey and on a copy with twins agree along every run.** -/
theorem agree_along_runs (id other : String) (hgraph : graph.faults = []) (hcopy : copy.faults = [])
    (hstart : copy.start = graph.start)
    (htwin : ∀ session, Reached conduct graph session → HasTwin copy session) :
    ∃ first second, Session.start conduct id graph = .ok first ∧
      Session.start conduct other copy = .ok second ∧
      ∀ moves : List Move,
        Agree (first.run conduct.selfLoopLimit moves) (second.run conduct.selfLoopLimit moves) ∧
        ∀ move, AgreeOn other
          ((first.run conduct.selfLoopLimit moves).make conduct.selfLoopLimit move)
          ((second.run conduct.selfLoopLimit moves).make conduct.selfLoopLimit move) := by
  have hopening : opening other copy = (opening id graph).onCopy other copy := by
    rw [opening, hstart]
    rfl
  have hfirst := start_of_faults_eq_nil hgraph conduct id
  refine ⟨opening id graph, opening other copy, hfirst,
    start_of_faults_eq_nil hcopy conduct other, ?_⟩
  intro moves
  have hreached := Reached.of_run_opening hgraph conduct id moves
  rw [hopening, (Reached.of_start hfirst).run_onCopy htwin]
  refine ⟨agree_onCopy (htwin _ hreached), fun move => ?_⟩
  rw [make_onCopy (htwin _ hreached)]
  cases hmake : ((opening id graph).run conduct.selfLoopLimit moves).make conduct.selfLoopLimit
      move with
  | error error => exact .error
  | ok next => exact .ok (agree_onCopy (htwin _ (hreached.of_make hmake)))

end Runs

end Session

end Questionnaire
