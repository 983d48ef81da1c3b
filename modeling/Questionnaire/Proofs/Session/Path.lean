/-
**The blocks behind a session form a walk.**

A session keeps the ids of the blocks that were answered, oldest first.  Followed by the block at
which it stands they form a walk through the survey: it begins at the start, and every block is one
of those to which the block before it may lead.  An answer makes the walk longer by one block and
going back makes it shorter by one, so what is kept is not the last step alone but the whole walk.

Main definitions:

* `Questionnaire.Graph.Walk` — **a walk through a survey** from its start;
* `Questionnaire.Session.path`, `Questionnaire.Session.Walking` — the blocks behind a session with
  the current one, and the invariant that they form a walk of answered blocks;
* `Questionnaire.Session.taken` — the moves of a run that were not refused.

Main results:

* `Questionnaire.Graph.Walk.visitable` — every block of a walk can be visited from the start;
* `Questionnaire.Session.Walking.of_make` — every successful move keeps the invariant;
* `Questionnaire.Session.length_history_run` — how long the history is after a run;
* `Questionnaire.Session.path_is_walk_along_runs` — **along every run the path is a walk**, among
  the reachable blocks, and as long as answers were accepted and not taken back.
-/

import Mathlib.Data.List.Chain
import Questionnaire.Proofs.Reach
import Questionnaire.Proofs.Session.Standing

set_option autoImplicit false

namespace Questionnaire

namespace Graph

variable {graph : Graph} {path : List String} {id target : String}

/-! ### Walks -/

/-- Whether the block with one id may lead to another id. -/
def LeadsTo (graph : Graph) (source target : String) : Prop :=
  ∃ block, graph.block? source = some block ∧ target ∈ block.targets

/-- **A walk through a survey**: it begins at the start, all its ids exist, and each is a target of
the one before it. -/
structure Walk (graph : Graph) (path : List String) : Prop where
  begins : path.head? = some graph.start
  has : ∀ id ∈ path, graph.has id = true
  leads : path.IsChain graph.LeadsTo

namespace Walk

/-- The start alone is a walk. -/
theorem start (h : graph.has graph.start = true) : graph.Walk [graph.start] where
  begins := rfl
  has := by simpa using h
  leads := List.isChain_singleton _

/-- A walk goes on to a target of its last block. -/
theorem concat (h : graph.Walk (path ++ [id])) (hleads : graph.LeadsTo id target)
    (hhas : graph.has target = true) : graph.Walk (path ++ [id] ++ [target]) where
  begins := by
    rw [List.head?_append_of_ne_nil _ (List.append_ne_nil_of_right_ne_nil _ (List.cons_ne_nil _ _))]
    exact h.begins
  has := by
    intro other hother
    rcases List.mem_append.1 hother with hother | hother
    · exact h.has other hother
    · rw [List.mem_singleton.1 hother]
      exact hhas
  leads := by
    refine h.leads.append (List.isChain_singleton _) ?_
    intro last hlast first hfirst
    obtain rfl : id = last := by simpa using hlast
    obtain rfl : target = first := by simpa using hfirst
    exact hleads

/-- A walk of which something is left without its last block is a walk. -/
theorem of_concat (h : graph.Walk (path ++ [id])) (hpath : path ≠ []) : graph.Walk path where
  begins := by
    rw [← List.head?_append_of_ne_nil _ hpath]
    exact h.begins
  has := fun other hother => h.has other (List.mem_append_left _ hother)
  leads := h.leads.left_of_append

/-- **Every block of a walk can be visited from the start.** -/
theorem visitable (h : graph.Walk path) : ∀ id ∈ path, graph.Visitable id := by
  obtain ⟨rest, rfl⟩ := List.head?_eq_some_iff.1 h.begins
  have hstart : graph.has graph.start = true := h.has _ List.mem_cons_self
  -- the targets on a walk exist, which makes each step one along the successors
  have hsteps := h.leads.imp_of_mem_imp (S := fun a b => b ∈ graph.successors a) (by
    rintro source target - htarget ⟨block, hblock, hmem⟩
    exact mem_successors_iff.2 ⟨block, hblock, hmem, h.has target htarget⟩)
  refine hsteps.induction graph.Visitable _ ?_ (fun _ => ⟨hstart, .refl⟩)
  rintro source target hstep ⟨-, hleads⟩
  exact ⟨hstart, hleads.tail hstep⟩

end Walk

end Graph

namespace Session

variable {graph : Graph} {limit : UInt32} {session next : Session}

/-! ### The path of a session -/

/-- The blocks that were answered, oldest first, and the block at which a session stands. -/
def path (session : Session) : List String := session.history ++ [session.current]

/-- An accepted answer puts the current block behind the session. -/
theorem history_of_submit {answer : Value} (h : session.submit limit answer = .ok next) :
    next.history = session.path := by
  have hcases := submission limit session answer
  rw [h] at hcases
  cases hcases with
  | moved hblock => rw [moveTo, path, (Graph.mem_of_block? hblock).2]

/-- Going back makes the last block behind the session the current one. -/
theorem path_of_back (h : session.back = .ok next) : next.path = session.history := by
  have hcases := returning session
  rw [h] at hcases
  cases hcases with
  | returned _ hhistory => simp [path, returnTo, hhistory]

/-- **The path of a session is a walk** through the survey that it runs on, and none of the blocks
behind it is final. -/
structure Walking (graph : Graph) (session : Session) : Prop where
  graph_eq : session.graph = graph
  walk : graph.Walk session.path
  open_history : ∀ id ∈ session.history,
    ∃ block, graph.block? id = some block ∧ block.isFinal = false

namespace Walking

theorem of_opening (hstart : graph.has graph.start = true) (id : String) :
    Walking graph (opening id graph) where
  graph_eq := rfl
  walk := .start hstart
  open_history := by
    intro id hid
    cases hid

/-- **Every successful move keeps the invariant.**  An answer puts the current block behind the
session, and going back makes the last of those behind it the current one again. -/
theorem of_make (h : Walking graph session) {move : Move}
    (hmake : session.make limit move = .ok next) : Walking graph next := by
  cases made hmake with
  | @moved _ block stored transition hblock hopen _ hnext hhas _ =>
      rw [h.graph_eq] at hblock hhas
      have hid : block.id = session.current := (Graph.mem_of_block? hblock).2
      have htarget : session.destination block stored transition ∈ block.targets := by
        rw [Block.targets, hnext]
        exact Transition.decide_target_mem transition _
      refine ⟨h.graph_eq, ?_, ?_⟩
      · have hwalk : graph.Walk (session.history ++ [block.id]) := hid ▸ h.walk
        exact hwalk.concat ⟨block, hid ▸ hblock, htarget⟩ hhas
      · intro id hmem
        rcases List.mem_append.1 hmem with hmem | hmem
        · exact h.open_history id hmem
        · rw [List.mem_singleton.1 hmem]
          exact ⟨block, hid ▸ hblock, hopen⟩
  | @returned earlier previous _ hhistory =>
      have hpath : (session.returnTo previous).path = session.history := by
        simp [path, returnTo, hhistory]
      refine ⟨h.graph_eq, ?_, ?_⟩
      · rw [hpath]
        exact h.walk.of_concat (by simp [hhistory])
      · intro id hmem
        exact h.open_history id (List.dropLast_subset _ hmem)

end Walking

/-- The path of every reached session is a walk. -/
theorem Reached.walking {conduct : Conduct} (h : Reached conduct graph session) :
    Walking graph session :=
  h.induction
    (fun hfaults id => .of_opening (Graph.closed_of_faults_eq_nil hfaults).has_start id)
    (fun hwalking hmake => hwalking.of_make hmake)

end Session

/-! ### How long the history is -/

namespace Move

/-- Whether a move is an answer. -/
def isAnswer : Move → Bool
  | .answer _ => true
  | .back => false

/-- Whether a move goes back. -/
def isBack : Move → Bool
  | .answer _ => false
  | .back => true

end Move

namespace Session

variable {graph : Graph} {limit : UInt32} {session next : Session}

/-- The moves of a run that were not refused, in order. -/
def taken (limit : UInt32) (session : Session) : List Move → List Move
  | [] => []
  | move :: moves =>
    match session.make limit move with
    | .ok next => move :: taken limit next moves
    | .error _ => taken limit session moves

theorem taken_of_ok {move : Move} (h : session.make limit move = .ok next) (moves : List Move) :
    session.taken limit (move :: moves) = move :: next.taken limit moves := by
  rw [taken, h]

theorem taken_of_error {move : Move} {error : SessionError}
    (h : session.make limit move = .error error) (moves : List Move) :
    session.taken limit (move :: moves) = session.taken limit moves := by
  rw [taken, h]

/-- A successful answer makes the history longer by one block, and going back shorter by one. -/
theorem length_history_of_make {move : Move} (h : session.make limit move = .ok next) :
    next.history.length + [move].countP Move.isBack =
      session.history.length + [move].countP Move.isAnswer := by
  cases made h with
  | moved => simp [moveTo, Move.isBack, Move.isAnswer]
  | returned _ hhistory => simp [returnTo, hhistory, Move.isBack, Move.isAnswer]

/-- **How long the history is after a run**: the answers that were accepted made it longer, and the
moves back shorter. -/
theorem length_history_run (limit : UInt32) (session : Session) (moves : List Move) :
    (session.run limit moves).history.length + (session.taken limit moves).countP Move.isBack =
      session.history.length + (session.taken limit moves).countP Move.isAnswer := by
  induction moves generalizing session with
  | nil => rfl
  | cons move moves ih =>
      rw [run_cons]
      cases hmake : session.make limit move with
      | ok next =>
          have hstep := length_history_of_make hmake
          have hrest := ih next
          rw [after_of_make hmake, taken_of_ok hmake, ← List.singleton_append, List.countP_append,
            List.countP_append]
          omega
      | error error =>
          rw [after, hmake, taken_of_error hmake]
          exact ih session

/-- **Along every run the path of a session is a walk** through its survey: it begins at the start,
each of its blocks exists and is a target of the one before it, those behind the session are not
final, and all of them are reachable.  The history is as long as answers were accepted and not taken
back. -/
theorem path_is_walk_along_runs {settings : ReviewSettings}
    (hvalid : (graph.review settings).isValid = true) (conduct : Conduct) (id : String) :
    ∃ first, Session.start conduct id graph = .ok first ∧
      ∀ moves : List Move,
        graph.Walk (first.run conduct.selfLoopLimit moves).path ∧
        (∀ id ∈ (first.run conduct.selfLoopLimit moves).history,
          ∃ block, graph.block? id = some block ∧ block.isFinal = false) ∧
        (∀ id ∈ (first.run conduct.selfLoopLimit moves).path, id ∈ graph.reachable) ∧
        ((first.run conduct.selfLoopLimit moves).history.length : Int) =
          (first.taken conduct.selfLoopLimit moves).countP Move.isAnswer -
            (first.taken conduct.selfLoopLimit moves).countP Move.isBack := by
  have hfaults := Graph.isValid_review_iff.1 hvalid
  have hstart : Session.start conduct id graph = .ok (opening id graph) :=
    start_eq_ok_iff.2 ⟨hfaults, rfl⟩
  refine ⟨opening id graph, hstart, fun moves => ?_⟩
  have hreached : Reached conduct graph ((opening id graph).run conduct.selfLoopLimit moves) :=
    ⟨id, _, moves, hstart, rfl⟩
  have hwalking := hreached.walking
  have hlength := length_history_run conduct.selfLoopLimit (opening id graph) moves
  have hempty : (opening id graph).history.length = 0 := rfl
  refine ⟨hwalking.walk, hwalking.open_history, ?_, by omega⟩
  intro id hid
  exact Graph.mem_reachable_iff.2 (hwalking.walk.visitable id hid)

/-- In the survey `Graph.retry` the path of every run is a walk from the question. -/
theorem path_is_walk_along_runs_retry :
    (Graph.retry.review .standard).isValid = true ∧
    ∃ first, Session.start .standard "s" Graph.retry = .ok first ∧
      ∀ moves : List Move,
        Graph.retry.Walk (first.run Conduct.standard.selfLoopLimit moves).path ∧
        (∀ id ∈ (first.run Conduct.standard.selfLoopLimit moves).history,
          ∃ block, Graph.retry.block? id = some block ∧ block.isFinal = false) ∧
        (∀ id ∈ (first.run Conduct.standard.selfLoopLimit moves).path,
          id ∈ Graph.retry.reachable) ∧
        ((first.run Conduct.standard.selfLoopLimit moves).history.length : Int) =
          (first.taken Conduct.standard.selfLoopLimit moves).countP Move.isAnswer -
            (first.taken Conduct.standard.selfLoopLimit moves).countP Move.isBack :=
  have hvalid := Graph.isValid_review_iff.2 Graph.faults_retry
  ⟨hvalid, path_is_walk_along_runs hvalid .standard "s"⟩

end Session

end Questionnaire
