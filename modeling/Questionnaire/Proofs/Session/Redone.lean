/-
**An answer that was taken back can be given again.**

Going back keeps the stored answers, so the second submission of an answer finds variables that
hold it already.  Storing it again changes nothing; hence the rules decide as they did, the same
target is reached, and the guard against self-loops, which counts from zero after a return, lets
pass what it let pass before.  What is left of the detour is the count alone, which then knows no
step but the last.

Main definition:

* `Questionnaire.Session.afresh` — a session with other variables and a count from zero.

Main results:

* `Questionnaire.Session.storeAnswer_storeAnswer` — storing an answer twice is storing it once;
* `Questionnaire.Session.back_of_submit_eq_afresh` — what is left of an answer that was taken back
  are the variables;
* `Questionnaire.Session.submit_afresh` — giving it again leads where it led, with a new count;
* `Questionnaire.Session.answer_is_redone` — **an answer can be taken back and given again**;
* `Questionnaire.Session.run_back_answer` — however often this is done, it comes to the same.
-/

import Questionnaire.Proofs.Session.Progress
import Questionnaire.Proofs.Session.SelfLoops

set_option autoImplicit false

namespace Questionnaire

namespace Session

variable {limit : UInt32} {session next : Session} {block : Block} {answer : Value}

/-! ### The second submission -/

/-- **Storing an answer twice is storing it once.** -/
theorem storeAnswer_storeAnswer (bindings : Variables) (block : Block) (stored : Option Value) :
    storeAnswer (storeAnswer bindings block stored) block stored =
      storeAnswer bindings block stored := by
  cases hname : block.variableName with
  | none => simp only [storeAnswer, hname]
  | some name =>
      cases stored with
      | none => simp only [storeAnswer, hname]
      | some value => simp only [storeAnswer, hname, Keyed.insert_insert]

/-- The session with other variables, which counts its self-loops from zero. -/
def afresh (session : Session) (bindings : Variables) : Session :=
  { session with bindings, selfLoops := 0 }

/-- Once an answer is stored it leads where it led when it was not. -/
theorem destination_afresh (session : Session) (block : Block) (stored : Option Value)
    (transition : Transition) :
    (session.afresh (storeAnswer session.bindings block stored)).destination block stored
        transition = session.destination block stored transition := by
  simp only [destination, afresh, storeAnswer_storeAnswer]

/-- A count from zero is no greater than a longer one, as long as this does not overflow. -/
theorem selfLoopsAt_afresh_le (hloops : session.selfLoops < 4294967295) (bindings : Variables)
    (block : Block) (target : String) :
    (session.afresh bindings).selfLoopsAt block target ≤ session.selfLoopsAt block target := by
  unfold selfLoopsAt
  split
  · change (1 : UInt32) ≤ session.selfLoops + 1
    rw [UInt32.le_iff_toNat_le, toNat_add_one hloops (UInt32.le_refl _)]
    exact Nat.le_add_left 1 _
  · exact UInt32.le_refl 0

/-- Going on from the current block with a count from zero is going on, with a count of the last
step alone. -/
theorem moveTo_afresh (hcurrent : block.id = session.current) (bindings : Variables)
    (target : String) :
    (session.afresh bindings).moveTo block bindings target =
      { session.moveTo block bindings target with
        selfLoops := if target = session.current then 1 else 0 } := by
  simp only [moveTo, selfLoopsAt, hcurrent]
  rfl

/-- A session without self-loops behind it counts from zero as it is. -/
theorem selfLoops_of_submit_of_zero (h : session.submit limit answer = .ok next)
    (hzero : session.selfLoops = 0) :
    next.selfLoops = if next.current = session.current then 1 else 0 := by
  cases made_of_submit h with
  | @moved _ block stored transition hblock =>
      have hcurrent : block.id = session.current := (Graph.mem_of_block? hblock).2
      rw [moveTo, selfLoopsAt, hzero, hcurrent]
      rfl

/-- What is left of an answer that was taken back are the variables. -/
theorem back_of_submit_eq_afresh (h : session.submit limit answer = .ok next)
    (hopen : next.isComplete = false) : next.back = .ok (session.afresh next.bindings) := by
  rw [back_of_submit h hopen]
  cases made_of_submit h with
  | moved => simp only [returnTo, moveTo, afresh, List.dropLast_concat]

/-- **Giving an answer again leads where it led**: all is as it was after the first submission, but
the count knows no step before this one. -/
theorem submit_afresh (hloops : session.selfLoops < 4294967295)
    (h : session.submit limit answer = .ok next) :
    (session.afresh next.bindings).submit limit answer =
      .ok { next with selfLoops := if next.current = session.current then 1 else 0 } := by
  cases made_of_submit h with
  | @moved _ block stored transition hblock hopen haccept hnext hhas hguard =>
      have hcurrent : block.id = session.current := (Graph.mem_of_block? hblock).2
      have hguard' : ¬ limit < (session.afresh
          (storeAnswer session.bindings block stored)).selfLoopsAt block
          (session.destination block stored transition) := fun hlt =>
        hguard (UInt32.lt_of_lt_of_le hlt (selfLoopsAt_afresh_le hloops _ _ _))
      -- the variables hold the answer already, so the rules decide as they did
      calc (session.afresh (storeAnswer session.bindings block stored)).submit limit answer
          = arrive limit (session.afresh (storeAnswer session.bindings block stored)) block
              (storeAnswer (storeAnswer session.bindings block stored) block stored)
              ((session.afresh (storeAnswer session.bindings block stored)).destination block stored
                transition) := submit_eq_arrive hblock hopen haccept hnext
        _ = arrive limit (session.afresh (storeAnswer session.bindings block stored)) block
              (storeAnswer session.bindings block stored)
              (session.destination block stored transition) := by
            rw [storeAnswer_storeAnswer, destination_afresh]
        _ = .ok ((session.afresh (storeAnswer session.bindings block stored)).moveTo block
              (storeAnswer session.bindings block stored)
              (session.destination block stored transition)) := by
            rw [arrive, if_neg hguard']
            exact if_pos hhas
        _ = _ := by
            rw [moveTo_afresh hcurrent]
            rfl

/-! ### Taking back and giving again -/

/-- **An answer can be taken back and given again.**  If an answer is accepted and does not end the
survey, going back succeeds: the session stands where it stood, with the history that it had, on
the same survey and with the same blocks to visit; it keeps the variables and counts self-loops
from zero.  Then the answer is accepted again, and leads to the session to which it led, but for
the count: this is one if the block led to itself, and else zero.  So nothing at all is changed if
no self-loops had been counted before. -/
theorem answer_is_redone (hloops : session.selfLoops < 4294967295)
    (hsubmit : session.submit limit answer = .ok next) (hopen : next.isComplete = false) :
    ∃ returned, next.back = .ok returned ∧
      returned = { session with bindings := next.bindings, selfLoops := 0 } ∧
      ∃ again, returned.submit limit answer = .ok again ∧
        again = { next with selfLoops := if next.current = session.current then 1 else 0 } ∧
        (session.selfLoops = 0 → again = next) := by
  refine ⟨_, back_of_submit_eq_afresh hsubmit hopen, rfl, _, submit_afresh hloops hsubmit, rfl,
    fun hzero => ?_⟩
  rw [← selfLoops_of_submit_of_zero hsubmit hzero]

/-- In the survey `Graph.retry`, whose question was answered "again" twice, the second of these
answers is redone with a count of one in place of two. -/
theorem answer_is_redone_retry :
    let session := (opening "s" Graph.retry).run 3 [.answer (.text "again")]
    let next := session.run 3 [.answer (.text "again")]
    (session.selfLoops < 4294967295 ∧ session.submit 3 (.text "again") = .ok next ∧
      next.isComplete = false ∧ next.selfLoops = 2) ∧
    ∃ returned, next.back = .ok returned ∧ returned.current = "ask" ∧
      ∃ again, returned.submit 3 (.text "again") = .ok again ∧
        again = { next with selfLoops := 1 } := by
  intro session next
  have hloops : session.selfLoops < 4294967295 := by decide +kernel
  have hsubmit : session.submit 3 (.text "again") = .ok next := rfl
  have hopen : next.isComplete = false := by decide +kernel
  refine ⟨⟨hloops, hsubmit, hopen, by decide +kernel⟩, ?_⟩
  obtain ⟨returned, hback, hreturned, again, hredone, hagain, -⟩ :=
    answer_is_redone hloops hsubmit hopen
  have hcurrent : session.current = "ask" := by decide +kernel
  have hloop : next.current = session.current := by decide +kernel
  rw [if_pos hloop] at hagain
  exact ⟨returned, hback, hreturned ▸ hcurrent, again, hredone, hagain⟩

/-- Taking an answer back and giving it again leads to where it led, with a new count. -/
theorem run_round (hloops : session.selfLoops < 4294967295)
    (hsubmit : session.submit limit answer = .ok next) (hopen : next.isComplete = false) :
    next.run limit [.back, .answer answer] =
      { next with selfLoops := if next.current = session.current then 1 else 0 } := by
  have hback : next.make limit .back = .ok (session.afresh next.bindings) :=
    back_of_submit_eq_afresh hsubmit hopen
  have hagain : (session.afresh next.bindings).make limit (.answer answer) =
      .ok { next with selfLoops := if next.current = session.current then 1 else 0 } :=
    submit_afresh hloops hsubmit
  rw [run_cons, after_of_make hback, run_cons, run_nil, after_of_make hagain]

/-- **However often an answer is taken back and given again, it comes to the same.** -/
theorem run_back_answer (hloops : session.selfLoops < 4294967295)
    (hsubmit : session.submit limit answer = .ok next) (hopen : next.isComplete = false)
    (rounds : Nat) :
    next.run limit (List.replicate (rounds + 1) [.back, .answer answer]).flatten =
      { next with selfLoops := if next.current = session.current then 1 else 0 } := by
  induction rounds generalizing session next with
  | zero => rw [List.replicate_one, List.flatten_singleton, run_round hloops hsubmit hopen]
  | succ rounds ih =>
      rw [List.replicate_succ, List.flatten_cons, run_append, run_round hloops hsubmit hopen]
      -- a round leads to where the answer led, now from a session that counts from zero
      have hzero : (session.afresh next.bindings).selfLoops < 4294967295 :=
        UInt32.lt_of_le_of_lt UInt32.zero_le hloops
      have hrest := ih hzero (submit_afresh hloops hsubmit) hopen
      exact hrest

end Session

end Questionnaire
