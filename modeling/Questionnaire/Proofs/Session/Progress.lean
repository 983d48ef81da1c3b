/-
**Progress grows with every answer.**

The progress of a session that is not over is the number of answered blocks out of the blocks that
can be visited, or out of one block more than were answered, whichever is more.  The second of these
takes over once a respondent has answered as many blocks as there are, which loops allow; the share
that is done grows all the same, since what is left is one block out of more and more.

Main definitions:

* `Questionnaire.Progress.value` — progress as an exact fraction;
* `Questionnaire.Session.Measured` — what progress says of a session.

Main results:

* `Questionnaire.Session.value_progress_lt_of_submit` — **an accepted answer makes progress**;
* `Questionnaire.Session.back_of_submit`, `Questionnaire.Session.progress_of_back_of_submit` — an
  answer that does not end the survey can be taken back, and so can its progress;
* `Questionnaire.Session.progress_measures_runs` — **progress is a strictly increasing measure**.
-/

import Mathlib.Algebra.Order.Field.Basic
import Mathlib.Algebra.Order.Field.Rat
import Mathlib.Tactic.Ring
import Questionnaire.Proofs.Session.Path

set_option autoImplicit false

namespace Questionnaire

namespace Progress

variable {progress other : Progress}

/-- Progress as an exact fraction. -/
def value (progress : Progress) : ℚ := progress.answered / progress.outOf

theorem value_nonneg (progress : Progress) : 0 ≤ progress.value :=
  div_nonneg (Nat.cast_nonneg _) (Nat.cast_nonneg _)

theorem value_lt_one (h : progress.answered < progress.outOf) : progress.value < 1 := by
  have hpos : (0 : ℚ) < progress.outOf := Nat.cast_pos.2 (Nat.zero_lt_of_lt h)
  rw [value, div_lt_one hpos]
  exact_mod_cast h

theorem value_lt_value (hpos : 0 < progress.outOf) (hpos' : 0 < other.outOf)
    (h : progress.answered * other.outOf < other.answered * progress.outOf) :
    progress.value < other.value := by
  rw [value, value, div_lt_div_iff₀ (Nat.cast_pos.2 hpos) (Nat.cast_pos.2 hpos')]
  exact_mod_cast h

end Progress

/-- One block more is a greater share, on either side of the number of blocks that can be
visited. -/
theorem mul_max_lt_mul_max (answered reachable : Nat) :
    answered * max (answered + 2) reachable < (answered + 1) * max (answered + 1) reachable := by
  rcases Nat.lt_or_ge (answered + 1) reachable with h | h
  · rw [Nat.max_eq_right h, Nat.max_eq_right h.le]
    exact Nat.mul_lt_mul_of_pos_right (Nat.lt_succ_self answered) (Nat.zero_lt_of_lt h)
  · have h' : reachable ≤ answered + 2 := by omega
    rw [Nat.max_eq_left h', Nat.max_eq_left h]
    have hsquare : (answered + 1) * (answered + 1) = answered * (answered + 2) + 1 := by ring
    omega

namespace Session

variable {graph : Graph} {limit : UInt32} {session next : Session} {answer : Value}

/-! ### The progress of a session -/

theorem isComplete_iff : session.isComplete = true ↔
    ∃ block, session.graph.block? session.current = some block ∧ block.isFinal = true := by
  rw [isComplete, Option.any_eq_true]

theorem progress_of_isComplete (h : session.isComplete = true) : session.progress = ⟨1, 1⟩ := by
  rw [progress, if_pos h]

theorem progress_of_not_isComplete (h : session.isComplete = false) : session.progress =
    ⟨session.history.length, max (session.history.length + 1) session.reachableBlocks⟩ := by
  simp [progress, h]

/-- There is always something of which a share is done. -/
theorem outOf_progress_pos (session : Session) : 0 < session.progress.outOf := by
  cases h : session.isComplete with
  | true => simp [progress_of_isComplete h]
  | false =>
      rw [progress_of_not_isComplete h]
      exact lt_max_of_lt_left (Nat.succ_pos _)

/-- Before the end at least one block is left. -/
theorem value_progress_lt_one (h : session.isComplete = false) : session.progress.value < 1 := by
  rw [progress_of_not_isComplete h]
  exact Progress.value_lt_one (lt_max_of_lt_left (Nat.lt_succ_self _))

theorem value_progress_of_isComplete (h : session.isComplete = true) :
    session.progress.value = 1 := by
  simp [progress_of_isComplete h, Progress.value]

/-- All is done at a final block and nowhere else. -/
theorem value_progress_eq_one_iff :
    session.progress.value = 1 ↔ session.isComplete = true := by
  refine ⟨fun h => ?_, value_progress_of_isComplete⟩
  by_contra hopen
  exact absurd h (value_progress_lt_one (Bool.eq_false_iff.2 hopen)).ne

/-- **An accepted answer makes progress.** -/
theorem value_progress_lt_of_submit (h : session.submit limit answer = .ok next) :
    session.progress.value < next.progress.value := by
  have hmake : session.make limit (.answer answer) = .ok next := h
  have hopen := isComplete_of_make hmake
  cases hcomplete : next.isComplete with
  | true =>
      rw [value_progress_of_isComplete hcomplete]
      exact value_progress_lt_one hopen
  | false =>
      have hlength : next.history.length = session.history.length + 1 := by
        rw [history_of_submit h, path, List.length_append, List.length_singleton]
      have hreachable := (make_keeps hmake).2.2
      refine Progress.value_lt_value (outOf_progress_pos session) (outOf_progress_pos next) ?_
      rw [progress_of_not_isComplete hopen, progress_of_not_isComplete hcomplete, hlength,
        hreachable]
      exact mul_max_lt_mul_max _ _

/-! ### Taking an answer back -/

/-- An answer that does not end the survey can be taken back. -/
theorem back_of_submit (h : session.submit limit answer = .ok next)
    (hopen : next.isComplete = false) : next.back = .ok (next.returnTo session.current) := by
  rw [back, history_of_submit h, path, List.getLast?_concat]
  simp [hopen]

/-- **Taking an answer back takes back its progress.** -/
theorem progress_of_back_of_submit (h : session.submit limit answer = .ok next) :
    (next.returnTo session.current).progress = session.progress := by
  have hmake : session.make limit (.answer answer) = .ok next := h
  obtain ⟨-, hgraph, hreachable⟩ := make_keeps hmake
  have hhistory : (next.returnTo session.current).history = session.history := by
    rw [returnTo, history_of_submit h, path, List.dropLast_concat]
  have hcomplete : (next.returnTo session.current).isComplete = session.isComplete := by
    rw [isComplete, isComplete, returnTo, hgraph]
  rw [progress, progress, hcomplete, hhistory]
  simp only [returnTo, hreachable]

/-- **What progress says of a session** on a survey: it is a fraction between zero and one, the
answered blocks out of those that can be visited or were; it is one exactly at a final block; every
accepted answer makes it greater, and taking the answer back makes it what it was. -/
structure Measured (graph : Graph) (limit : UInt32) (session : Session) : Prop where
  outOf_ne_zero : session.progress.outOf ≠ 0
  value_eq : session.progress.value = if session.isComplete then 1 else
    (session.history.length : ℚ) / max (session.history.length + 1) graph.reachable.length
  nonneg : 0 ≤ session.progress.value
  le_one : session.progress.value ≤ 1
  eq_one_iff : session.progress.value = 1 ↔
    ∃ block, session.graph.block? session.current = some block ∧ block.isFinal = true
  increases : ∀ answer next, session.submit limit answer = .ok next →
    session.progress.value < next.progress.value
  returns : ∀ answer next, session.submit limit answer = .ok next → next.isComplete = false →
    ∃ previous, next.back = .ok previous ∧ previous.progress.value = session.progress.value

theorem Reached.measured {conduct : Conduct} (h : Reached conduct graph session) :
    Measured graph limit session where
  outOf_ne_zero := (outOf_progress_pos session).ne'
  value_eq := by
    cases hcomplete : session.isComplete with
    | true => rw [value_progress_of_isComplete hcomplete, if_pos rfl]
    | false =>
        rw [progress_of_not_isComplete hcomplete, Progress.value, h.keeps.2.2]
        push_cast
        simp
  nonneg := Progress.value_nonneg _
  le_one := by
    cases hcomplete : session.isComplete with
    | true => rw [value_progress_of_isComplete hcomplete]
    | false => exact (value_progress_lt_one hcomplete).le
  eq_one_iff := value_progress_eq_one_iff.trans isComplete_iff
  increases := fun _ _ hsubmit => value_progress_lt_of_submit hsubmit
  returns := fun _ _ hsubmit hopen => ⟨_, back_of_submit hsubmit hopen,
    congrArg Progress.value (progress_of_back_of_submit hsubmit)⟩

/-- **Progress is a strictly increasing measure** of every session that runs lead to, on a survey
that passes a review. -/
theorem progress_measures_runs {settings : ReviewSettings}
    (hvalid : (graph.review settings).isValid = true) (conduct : Conduct) (id : String) :
    ∃ first, Session.start conduct id graph = .ok first ∧ ∀ moves : List Move,
      Measured graph conduct.selfLoopLimit (first.run conduct.selfLoopLimit moves) := by
  obtain ⟨hstart, hreached⟩ := Reached.exists_start hvalid conduct id
  exact ⟨opening id graph, hstart, fun moves => (hreached moves).measured⟩

/-- In the survey `Graph.retry`, in which a question can be answered more often than there are
blocks, progress is such a measure. -/
theorem progress_measures_runs_retry :
    (Graph.retry.review .standard).isValid = true ∧
    ∃ first, Session.start .standard "s" Graph.retry = .ok first ∧ ∀ moves : List Move,
      Measured Graph.retry Conduct.standard.selfLoopLimit
        (first.run Conduct.standard.selfLoopLimit moves) :=
  have hvalid := Graph.isValid_review_iff.2 Graph.faults_retry
  ⟨hvalid, progress_measures_runs hvalid .standard "s"⟩

end Session

end Questionnaire
