/-
**What a failure of the store leaves behind.**

A request that is refused because the store cannot load or save has changed nothing, and can be
made again as if it had not been made.  It is otherwise with a removal: by then the session has
left the table.  Its end is reported as a failure, but the session is lost to the respondent, its
snapshot stays in the store, and making the request again finds no session.

Main definition:

* `Questionnaire.Service.Failure` — what a request that fails in the store leaves behind.

Main results:

* `Questionnaire.Service.failure_of_perform` — the description is complete;
* `Questionnaire.Service.store_failure_changes_nothing_iff` — **a failure changes nothing exactly
  when it is not that of a removal**.
-/

import Questionnaire.Proofs.Service.Request

set_option autoImplicit false

namespace Questionnaire

namespace Service

variable {outage : Outage} {service : Service} {request : Request} {failing : StoreCall}

/-- **What a request that fails in the store leaves behind**, by the call of the store that fails.
A removal fails only where the request would have succeeded with a store that works. -/
inductive Failure (service : Service) : Request → StoreCall → Service → Prop where
  | load {id : String} {call : Call} : Failure service (.call id call) .load service
  | save {request : Request} : Failure service request .save service
  | remove {id : String} {call : Call} {reply : Reply} (hlive : service.live.has id = true)
      (hreply : (service.answer .none id call).1 = .ok reply) :
      Failure service (.call id call) .remove (service.unlist id)

/-- An error of a session by itself is not a failure of the store. -/
theorem attempt_ne_store {session : Session} {limit : UInt32} {call : Call}
    {aftermath : Aftermath} :
    session.attempt limit call ≠ (.error (.store failing), aftermath) := by
  intro hattempt
  rcases Session.attempt_error hattempt with ⟨_, _, h, -⟩ | ⟨_, h, -⟩ <;> cases h

/-- The description of calls that fail in the store is complete. -/
theorem failure_of_answer {id : String} {call : Call}
    (h : (service.answer outage id call).1 = .error (.store failing)) :
    Failure service (.call id call) failing (service.answer outage id call).2 := by
  have hcases := answering outage service id call
  generalize service.answer outage id call = result at hcases h
  cases hcases with
  | absent | lost | terminated => cases h
  | unloaded =>
      cases h
      exact .load
  | unsaved =>
      cases h
      exact .save
  | stays _ hattempt | moves _ hattempt | ends _ hattempt =>
      dsimp only at h
      rw [h] at hattempt
      exact absurd hattempt attempt_ne_store
  | aborted _ hattempt =>
      cases h
      exact absurd hattempt attempt_ne_store
  | @unremoved _ _ reply hload hattempt =>
      cases h
      -- what was loaded now would be loaded by a store that works as well
      obtain ⟨-, graph, snapshot, hlive, hstore, hrestore⟩ := load_eq_ok_iff.1 hload
      have hload' : service.load .none id = .ok _ :=
        load_eq_ok_iff.2 ⟨rfl, graph, snapshot, hlive, hstore, hrestore⟩
      have hreply : (service.answer .none id call).1 = .ok reply := by
        rw [answer_of_works hload' rfl rfl, hattempt]
      exact .remove (Keyed.has_of_get? hlive) hreply
  | unterminated hlive =>
      cases h
      have hhas := Keyed.has_of_get? hlive
      have hreply : (service.answer .none id .terminate).1 = .ok .done := by
        rw [answer, terminate, if_pos hhas, discard_of_works rfl]
        rfl
      exact .remove hhas hreply

/-- **The description of requests that fail in the store is complete.** -/
theorem failure_of_perform (h : (service.perform outage request).1 = .error (.store failing)) :
    Failure service request failing (service.perform outage request).2 := by
  cases request with
  | register => cases h
  | start graphId freshId =>
      have hcases := starting outage service graphId freshId
      generalize service.perform outage (.start graphId freshId) = result at hcases h
      cases hcases with
      | unknown | refused | blockless | started => cases h
      | unsaved =>
          cases h
          exact .save
  | call id call => exact failure_of_answer h

/-- **A failure of the store changes nothing exactly when it is not that of a removal.**  If it is
none, whatever is requested next comes to what it would have come to without the failure.  If it is
one, the request would have succeeded with a store that works; instead the session has left the
table, and the request made again finds no session. -/
theorem store_failure_changes_nothing_iff
    (hfails : (service.perform outage request).1 = .error (.store failing)) :
    let left := (service.perform outage request).2
    ((left.live = service.live ∧ left.store = service.store) ↔ failing ≠ .remove) ∧
    (failing ≠ .remove → ∀ later next, left.perform later next = service.perform later next) ∧
    (failing = .remove → ∃ id call reply, request = .call id call ∧
      (service.perform .none request).1 = .ok reply ∧ left = service.unlist id ∧
      ∀ later, (left.perform later request).1 = .error (.unknownSession id)) := by
  have hfailure := failure_of_perform hfails
  generalize (service.perform outage request).2 = left at hfailure
  intro left'
  subst left'
  cases hfailure with
  | load | save => exact ⟨by simp, fun _ _ _ => rfl, by simp⟩
  | @remove id call reply hlive hreply =>
      have hgone := live_unlist_self service id
      refine ⟨?_, by simp, fun _ => ⟨id, call, reply, rfl, hreply, rfl, fun later => ?_⟩⟩
      · -- the table had the session, and has it no longer
        have hchanged : (service.unlist id).live ≠ service.live := by
          intro heq
          rw [Keyed.has, ← heq, hgone] at hlive
          cases hlive
        simp [hchanged]
      · rw [perform, answer_of_absent hgone]

/-- A session that is about to end. -/
def ending : Service :=
  (empty .standard).run [(.none, .register "survey" .retry), (.none, .start "survey" "s")]

/-- The answer that ends it. -/
def enough : Request := .call "s" (.submit "ask" (.text "enough"))

theorem store_failure_changes_nothing_iff_enough :
    (ending.perform ⟨false, false, true⟩ enough).1 = .error (.store .remove) ∧
    ∃ id call reply, enough = .call id call ∧ (ending.perform .none enough).1 = .ok reply ∧
      (ending.perform ⟨false, false, true⟩ enough).2 = ending.unlist id ∧
      ∀ later, ((ending.perform ⟨false, false, true⟩ enough).2.perform later enough).1 =
        .error (.unknownSession id) :=
  have hfails : (ending.perform ⟨false, false, true⟩ enough).1 = .error (.store .remove) := by rfl
  ⟨hfails, (store_failure_changes_nothing_iff hfails).2.2 rfl⟩

/-- **A failed removal is not undone**: the answer that would have completed the survey is refused
on account of the store, and refused again, since there is no such session any more. -/
theorem failed_removal_loses_session :
    (ending.perform .none enough).1 = .ok (.outcome ⟨none, ⟨1, 1⟩, true⟩) ∧
    (ending.perform ⟨false, false, true⟩ enough).1 = .error (.store .remove) ∧
    ending.live.has "s" = true ∧
    (ending.perform ⟨false, false, true⟩ enough).2.live.has "s" = false ∧
    ((ending.perform ⟨false, false, true⟩ enough).2.perform .none enough).1 =
      .error (.unknownSession "s") := by
  refine ⟨?_, ?_, ?_, ?_, ?_⟩ <;> rfl

end Service

end Questionnaire
