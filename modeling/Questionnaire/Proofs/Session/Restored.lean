/-
**The guard against self-loops on restored sessions.**

A snapshot comes from a store, and whatever it says is believed: its count of self-loops may be any
word of 32 bits, also one that no run would have led to.  The guard compares the count after it has
gone up by one.  This is as good as comparing it before, except at the greatest word, from which the
count goes to zero: there an answer that leads back is let through at every limit, even at a limit
of zero.

Main definition:

* `Questionnaire.Session.GuardHolds` — **what the guard is for**: an answer that leads back is
  counted without overflow, and accepted below the limit only.

Main results:

* `Questionnaire.Session.guardHolds_iff` — **the guard fails exactly when an answer leads back at
  the greatest word**;
* `Questionnaire.Session.guard_of_restored_holds_iff` — the guard on a restored session, and along
  the runs that follow;
* `Questionnaire.Session.full_snapshot_is_let_through` — a snapshot at which the guard fails.
-/

import Questionnaire.Proofs.Session.Repeats
import Questionnaire.Proofs.Session.Stored

set_option autoImplicit false

namespace Questionnaire

namespace Session

variable {limit : UInt32} {session next : Session} {answer : Value}

/-! ### The guard -/

/-- As long as the count can go up, it may do so below the limit only. -/
theorem not_lt_add_one_iff {count : UInt32} (hcount : count ≠ 4294967295) :
    ¬ limit < count + 1 ↔ count < limit := by
  rw [UInt32.not_lt, UInt32.le_iff_toNat_le, (toNat_add_one_iff count).2 hcount,
    UInt32.lt_iff_toNat_lt]
  exact Nat.succ_le_iff

/-- An accepted answer after which the session stands at the same block has led back. -/
theorem leadsBack_of_submit (h : session.submit limit answer = .ok next)
    (hcurrent : next.current = session.current) : session.LeadsBack answer := by
  cases made_of_submit h with
  | moved hblock hopen haccept hnext =>
      exact ⟨_, _, _, hblock, hopen, haccept, hnext, hcurrent⟩

/-- **What the guard is for**: an answer that leads back is counted without overflow, whether it is
accepted or refused, and it is accepted below the limit only. -/
structure GuardHolds (limit : UInt32) (session : Session) (answer : Value) : Prop where
  counts_up : ∀ next, session.submit limit answer = .ok next → next.current = session.current →
    next.selfLoops.toNat = session.selfLoops.toNat + 1
  reports_count : ∀ block loops, session.submit limit answer = .error (.endlessLoop block loops) →
    loops.toNat = session.selfLoops.toNat + 1
  below_limit : ∀ next, session.submit limit answer = .ok next →
    next.current = session.current → session.selfLoops < limit

/-- An answer that leads elsewhere is none of the concerns of the guard. -/
theorem GuardHolds.of_not_leadsBack (h : ¬ session.LeadsBack answer) :
    GuardHolds limit session answer where
  counts_up := by
    intro next hsubmit hcurrent
    exact absurd (leadsBack_of_submit hsubmit hcurrent) h
  reports_count := by
    intro block loops hsubmit
    exact absurd (leadsBack_of_endlessLoop hsubmit) h
  below_limit := by
    intro next hsubmit hcurrent
    exact absurd (leadsBack_of_submit hsubmit hcurrent) h

/-- **The guard holds below the greatest word**, for every answer and at every limit. -/
theorem GuardHolds.of_ne (limit : UInt32) (hcount : session.selfLoops ≠ 4294967295)
    (answer : Value) : GuardHolds limit session answer := by
  by_cases hback : session.LeadsBack answer
  · have hsucc := (toNat_add_one_iff session.selfLoops).2 hcount
    rcases submit_of_leadsBack limit hback with
      ⟨-, hrefused⟩ | ⟨hunder, moved, haccepted, -, -, hloops⟩
    · refine ⟨?_, ?_, ?_⟩
      · intro next hsubmit
        rw [hrefused] at hsubmit
        cases hsubmit
      · intro block loops hsubmit
        rw [hrefused] at hsubmit
        cases hsubmit
        exact hsucc
      · intro next hsubmit
        rw [hrefused] at hsubmit
        cases hsubmit
    · refine ⟨?_, ?_, ?_⟩
      · intro next hsubmit _
        rw [haccepted] at hsubmit
        cases hsubmit
        rw [hloops, hsucc]
      · intro block loops hsubmit
        rw [haccepted] at hsubmit
        cases hsubmit
      · intro next _ _
        exact (not_lt_add_one_iff hcount).1 hunder
  · exact .of_not_leadsBack hback

/-- **At the greatest word an answer that leads back is let through**, whatever the limit, and the
count starts again from zero. -/
theorem submit_of_full (limit : UInt32) (hback : session.LeadsBack answer)
    (hfull : session.selfLoops = 4294967295) :
    ∃ next, session.submit limit answer = .ok next ∧ next.current = session.current ∧
      next.selfLoops = 0 := by
  have hzero : session.selfLoops + 1 = 0 := by
    rw [hfull]
    rfl
  rcases submit_of_leadsBack limit hback with ⟨hover, -⟩ | ⟨-, next, hsubmit, -, hcurrent, hcount⟩
  · rw [hzero] at hover
    exact absurd hover UInt32.not_lt_zero
  · exact ⟨next, hsubmit, hcurrent, hcount.trans hzero⟩

/-- **The guard fails exactly when an answer leads back at the greatest word.** -/
theorem guardHolds_iff (limit : UInt32) (session : Session) (answer : Value) :
    GuardHolds limit session answer ↔
      ¬ (session.LeadsBack answer ∧ session.selfLoops = 4294967295) := by
  constructor
  · rintro hguard ⟨hback, hfull⟩
    obtain ⟨next, hsubmit, hcurrent, hzero⟩ := submit_of_full limit hback hfull
    have hup := hguard.counts_up next hsubmit hcurrent
    rw [hzero, UInt32.toNat_zero] at hup
    exact Nat.succ_ne_zero _ hup.symm
  · intro hnot
    by_cases hback : session.LeadsBack answer
    · exact .of_ne limit (fun hfull => hnot ⟨hback, hfull⟩) answer
    · exact .of_not_leadsBack hback

/-! ### Runs -/

/-- With any limit but the greatest word no run leads to the greatest word. -/
theorem selfLoops_run_ne (hlimit : limit < 4294967295) (hcount : session.selfLoops ≠ 4294967295)
    (moves : List Move) : (session.run limit moves).selfLoops ≠ 4294967295 := by
  refine run_induction (P := fun session => session.selfLoops ≠ 4294967295) ?_ hcount moves
  intro session next move _ hmake hfull
  have hle : next.selfLoops ≤ limit := selfLoops_le_of_make hmake
  rw [hfull] at hle
  exact absurd hlimit (UInt32.not_lt.2 hle)

/-- **The guard on a restored session fails exactly at one count**: the greatest word, when an
answer leads back, which then is let through at every limit and sets the count to zero.  From any
other count the guard holds along all runs, if the limit is not the greatest word itself. -/
theorem guard_of_restored_holds_iff (graph : Graph) (snapshot : Snapshot) (limit : UInt32)
    (answer : Value) :
    (GuardHolds limit (snapshot.restore graph) answer ↔
      ¬ ((snapshot.restore graph).LeadsBack answer ∧ snapshot.selfLoops = 4294967295)) ∧
    ((snapshot.restore graph).LeadsBack answer → snapshot.selfLoops = 4294967295 →
      ∃ next, (snapshot.restore graph).submit limit answer = .ok next ∧
        next.current = snapshot.current ∧ next.selfLoops = 0) ∧
    (limit < 4294967295 → snapshot.selfLoops ≠ 4294967295 → ∀ (moves : List Move) (later : Value),
      GuardHolds limit ((snapshot.restore graph).run limit moves) later) := by
  refine ⟨guardHolds_iff limit _ answer, submit_of_full limit, ?_⟩
  intro hlimit hcount moves later
  exact .of_ne limit (selfLoops_run_ne hlimit hcount moves) later

end Session

/-- A snapshot at the question of `Graph.retry` with the greatest word for its count. -/
def Snapshot.full : Snapshot where
  session := "s"
  current := "ask"
  bindings := []
  history := []
  selfLoops := 4294967295
  reachableBlocks := 2

/-- From a count of seven the guard holds along all runs on `Graph.retry`, and from the greatest
word the answer "again" is let through. -/
theorem Session.guard_of_restored_holds_iff_retry :
    ((1 : UInt32) < 4294967295 ∧
      { Snapshot.full with selfLoops := 7 }.selfLoops ≠ 4294967295) ∧
    (∀ (moves : List Move) (later : Value),
      GuardHolds 1 (({ Snapshot.full with selfLoops := 7 }.restore Graph.retry).run 1 moves)
        later) ∧
    (Snapshot.full.restore Graph.retry).LeadsBack (.text "again") ∧
    ∃ next, (Snapshot.full.restore Graph.retry).submit 1 (.text "again") = .ok next ∧
      next.current = "ask" ∧ next.selfLoops = 0 := by
  have hlimit : (1 : UInt32) < 4294967295 := by decide
  have hcount : { Snapshot.full with selfLoops := 7 }.selfLoops ≠ 4294967295 := by decide
  have hback : (Snapshot.full.restore Graph.retry).LeadsBack (.text "again") :=
    leadsBack_again rfl rfl
  have hseven :=
    guard_of_restored_holds_iff Graph.retry { Snapshot.full with selfLoops := 7 } 1 .null
  have hfull := guard_of_restored_holds_iff Graph.retry Snapshot.full 1 (.text "again")
  exact ⟨⟨hlimit, hcount⟩, hseven.2.2 hlimit hcount, hback, hfull.2.1 hback rfl⟩

/-- **A stored session that is let through at every limit**: the document of the snapshot is read,
the survey passes its review, and the answer "again" leads back and sets the count to zero. -/
theorem Session.full_snapshot_is_let_through :
    (Graph.retry.review .standard).isValid = true ∧
    Snapshot.ofJson? Snapshot.full.toJson = some Snapshot.full ∧
    (∀ limit, ∃ next, (Snapshot.full.restore Graph.retry).submit limit (.text "again") = .ok next ∧
      next.current = Snapshot.full.current ∧ next.selfLoops = 0) ∧
    ¬ GuardHolds 1 (Snapshot.full.restore Graph.retry) (.text "again") := by
  have hback : (Snapshot.full.restore Graph.retry).LeadsBack (.text "again") :=
    leadsBack_again rfl rfl
  refine ⟨Graph.isValid_review_iff.2 Graph.faults_retry, ?_, ?_, ?_⟩
  · exact Snapshot.ofJson?_toJson trivial (by decide)
  · intro limit
    exact submit_of_full limit hback rfl
  · rw [guardHolds_iff, not_not]
    exact ⟨hback, rfl⟩

end Questionnaire
