/-
**Sessions.**

A session is one respondent's walk through a survey.  It is a value: every step yields a new
session or an error and leaves the old one as it was.  Going back keeps the stored answers, and
answering again overwrites them.

Main definitions:

* `Questionnaire.Session` — where a respondent stands and what was answered;
* `Questionnaire.SessionError` — why a step is refused;
* `Questionnaire.Conduct` — what sessions are conducted by;
* `Questionnaire.Session.start`, `Questionnaire.Session.submit`, `Questionnaire.Session.back` — the
  steps;
* `Questionnaire.Session.progress` — how much of the survey is done.

Main results:

* `Questionnaire.Session.submit_graph`, `Questionnaire.Session.back_graph` — no step changes the
  survey of a session.
-/

import Questionnaire.Answer
import Questionnaire.Review

set_option autoImplicit false

namespace Questionnaire

/-- One respondent's walk through a survey: the id of the block at which it stands, the values of
the variables, the ids of the blocks answered before, how often in a row the current block led to
itself, and how many blocks can be visited at all. -/
structure Session where
  id : String
  graph : Graph
  current : String
  bindings : Variables
  history : List String
  selfLoops : UInt32
  reachableBlocks : Nat

/-- Why a step is refused. -/
inductive SessionError where
  | unfitGraph (faults : List (Finding Fault))
  | rejectedAnswer (block : String) (reason : Rejection)
  | danglingReference (block : String)
  | endlessLoop (block : String) (loops : UInt32)
  | completed (session : String)
  | nothingToUndo (session : String)

namespace SessionError

/-- Why a step is refused, in words. -/
def message : SessionError → String
  | .unfitGraph faults =>
    let listed := "; ".intercalate (faults.map Finding.renderFault)
    s!"Survey graph failed validation with {faults.length} error(s): {listed}"
  | .rejectedAnswer block reason => s!"Invalid answer for block '{block}': {reason.message}"
  | .danglingReference block =>
    s!"Block '{block}' is referenced by the session but does not exist in the graph"
  | .endlessLoop block loops => s!"Block '{block}' transitioned to itself {loops} times in a row"
  | .completed session => s!"Session '{session}' has already reached a final block"
  | .nothingToUndo session => s!"Session '{session}' has no previous block to return to"

/-- Whether the respondent can go on from the same block. -/
def isRecoverable : SessionError → Bool
  | .rejectedAnswer .. => true
  | .nothingToUndo _ => true
  | _ => false

/-- Whether the error is a defect of the survey. -/
def isDefect : SessionError → Bool
  | .danglingReference _ => true
  | .endlessLoop .. => true
  | _ => false

end SessionError

/-- What sessions are conducted by: the settings of the review before the start, and how often in
a row a block may lead to itself. -/
structure Conduct where
  review : ReviewSettings
  selfLoopLimit : UInt32

/-- The conduct that is used unless another is given. -/
def Conduct.standard : Conduct := ⟨.standard, 1⟩

/-- How much of a survey is done: so many blocks out of so many. -/
structure Progress where
  answered : Nat
  outOf : Nat
  deriving DecidableEq

/-- Progress as a number between zero and one. -/
def Progress.toNumber (progress : Progress) : Number :=
  Number.ratio progress.answered progress.outOf

namespace Session

/-- Opens a session at the start of a survey that was reviewed before. -/
def startReviewed (id : String) (graph : Graph) (report : Report) : Except SessionError Session :=
  if report.isValid then
    .ok {
      id
      graph
      current := graph.start
      bindings := []
      history := []
      selfLoops := 0
      reachableBlocks := report.reachableBlocks }
  else
    .error (.unfitGraph report.faults)

/-- Reviews a survey and opens a session at its start. -/
def start (conduct : Conduct) (id : String) (graph : Graph) : Except SessionError Session :=
  startReviewed id graph (graph.review conduct.review)

/-- The block at which a session stands. -/
def currentBlock (session : Session) : Except SessionError Block :=
  match session.graph.block? session.current with
  | some block => .ok block
  | none => .error (.danglingReference session.current)

/-- Whether a session stands at a final block. -/
def isComplete (session : Session) : Bool :=
  (session.graph.block? session.current).any Block.isFinal

/-- The variables after an answer to a block was stored. -/
def storeAnswer (bindings : Variables) (block : Block) (stored : Option Value) : Variables :=
  match block.variableName, stored with
  | some name, some value => bindings.insert name value
  | _, _ => bindings

/-- How often in a row a session goes from a block to itself once it goes to a target. -/
def selfLoopsAt (session : Session) (block : Block) (target : String) : UInt32 :=
  if target = block.id then session.selfLoops + 1 else 0

/-- The session once it has gone from a block to a target, with the variables that the answer
left. -/
def moveTo (session : Session) (block : Block) (bindings : Variables) (target : String) : Session :=
  { session with
    current := target
    bindings
    history := session.history ++ [block.id]
    selfLoops := session.selfLoopsAt block target }

/-- The session once it has returned to the block that was answered last. -/
def returnTo (session : Session) (previous : String) : Session :=
  { session with current := previous, history := session.history.dropLast, selfLoops := 0 }

/-- Moves a session from a block to a target.  The target must exist, and a block may lead to itself
only so often in a row. -/
def arrive (selfLoopLimit : UInt32) (session : Session) (block : Block) (bindings : Variables)
    (target : String) : Except SessionError Session :=
  if session.graph.has target then
    if selfLoopLimit < session.selfLoopsAt block target then
      .error (.endlessLoop block.id (session.selfLoopsAt block target))
    else .ok (session.moveTo block bindings target)
  else .error (.danglingReference target)

/-- Moves a session from a block on, to where its transition leads. -/
def advance (selfLoopLimit : UInt32) (session : Session) (block : Block)
    (bindings : Variables) : Except SessionError Session :=
  match block.next with
  | none => .error (.danglingReference block.id)
  | some next => arrive selfLoopLimit session block bindings (next.decide bindings).target

/-- **Answers the current block and moves on.** -/
def submit (selfLoopLimit : UInt32) (session : Session) (answer : Value) :
    Except SessionError Session :=
  match session.currentBlock with
  | .error e => .error e
  | .ok block =>
    if block.isFinal then .error (.completed session.id)
    else
      match block.kind.accept answer with
      | .error reason => .error (.rejectedAnswer block.id reason)
      | .ok stored =>
        advance selfLoopLimit session block (storeAnswer session.bindings block stored)

/-- **Returns to the block that was answered last.**  The stored answers stay. -/
def back (session : Session) : Except SessionError Session :=
  if session.isComplete then .error (.completed session.id)
  else
    match session.history.getLast? with
    | none => .error (.nothingToUndo session.id)
    | some previous => .ok (session.returnTo previous)

/-- How much of the survey is done.  Before the end at least one block is left. -/
def progress (session : Session) : Progress :=
  if session.isComplete then ⟨1, 1⟩
  else
    let answered := session.history.length
    ⟨answered, max (answered + 1) session.reachableBlocks⟩

theorem arrive_graph {limit : UInt32} {session next : Session} {block : Block}
    {bindings : Variables} {target : String}
    (h : arrive limit session block bindings target = .ok next) :
    next.graph = session.graph := by
  unfold arrive at h
  split at h
  · split at h
    · cases h
    · cases h
      rfl
  · cases h

theorem advance_graph {limit : UInt32} {session next : Session} {block : Block}
    {bindings : Variables} (h : advance limit session block bindings = .ok next) :
    next.graph = session.graph := by
  unfold advance at h
  split at h
  · cases h
  · exact arrive_graph h

/-- **Answering does not change the survey of a session.** -/
theorem submit_graph {limit : UInt32} {session next : Session} {answer : Value}
    (h : session.submit limit answer = .ok next) : next.graph = session.graph := by
  unfold submit at h
  split at h
  · cases h
  · split at h
    · cases h
    · split at h
      · cases h
      · exact advance_graph h

/-- **Going back does not change the survey of a session.** -/
theorem back_graph {session next : Session} (h : session.back = .ok next) :
    next.graph = session.graph := by
  unfold back at h
  split at h
  · cases h
  · split at h
    · cases h
    · cases h
      rfl

end Session

end Questionnaire
