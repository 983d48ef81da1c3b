/-
**Requests to a service, one after another.**

A service is asked to register surveys, to start sessions and to carry on with them, in any order
and with a store of which any call may fail.  What a call does to a session is said twice here:
once for the session alone, without table and store, and once for the service, in terms of the
first.  The second is a complete list of what a call can come to, so that whatever is shown of a
service later is shown case by case along this list and not along the code.

Main definitions:

* `Questionnaire.Call`, `Questionnaire.Request`, `Questionnaire.Reply` — what is asked, and what
  is replied;
* `Questionnaire.Session.attempt` — **what a call does to a session by itself**;
* `Questionnaire.Service.perform`, `Questionnaire.Service.run` — one request, and many;
* `Questionnaire.Service.Answering`, `Questionnaire.Service.Starting` — **what a call and a start
  can come to**, under any failures of the store.

Main results:

* `Questionnaire.Service.answering`, `Questionnaire.Service.starting` — the lists of cases are
  complete;
* `Questionnaire.Service.answer_of_works` — with a store that works, the reply to a call is that of
  the session by itself;
* `Questionnaire.Service.run_induction` — what every request keeps, every run keeps.
-/

import Questionnaire.Proofs.Session.Standing
import Questionnaire.Service

set_option autoImplicit false

namespace Questionnaire

/-- What can be asked of a session. -/
inductive Call where
  | submit (block : String) (answer : Value)
  | back
  | terminate
  | session

/-- What can be asked of a service. -/
inductive Request where
  | register (graphId : String) (graph : Graph)
  | start (graphId freshId : String)
  | call (id : String) (call : Call)

/-- Whether a request is about a session: it starts it, or it is a call on it. -/
def Request.Concerns (id : String) : Request → Prop
  | .register _ _ => False
  | .start _ freshId => freshId = id
  | .call other _ => other = id

/-- What a request yields unless it is refused. -/
inductive Reply where
  | registered (report : Report)
  | started (id : String) (first : Block)
  | outcome (outcome : Outcome)
  | block (block : Block)
  | session (session : Session)
  | done

/-- What a call leaves of a session. -/
inductive Aftermath where
  | stays
  | moves (next : Session)
  | ends

namespace Session

variable {limit : UInt32} {session next : Session}

/-- **What a call does to a session by itself.**  An answer must name the current block; a session
ends when it reaches a final block, on a defect of its survey and on demand. -/
def attempt (limit : UInt32) (session : Session) : Call → Except ServiceError Reply × Aftermath
  | .submit block answer =>
    if session.current ≠ block then (.error (.staleBlock block session.current), .stays)
    else
      match session.submit limit answer with
      | .error e => (.error (.session e), if e.isDefect then .ends else .stays)
      | .ok next =>
        if next.isComplete then (.ok (.outcome ⟨none, next.progress, true⟩), .ends)
        else
          (.ok (.outcome ⟨next.graph.block? next.current, next.progress, false⟩), .moves next)
  | .back =>
    match session.back with
    | .error e => (.error (.session e), .stays)
    | .ok previous =>
      match previous.currentBlock with
      | .error e => (.error (.session e), .ends)
      | .ok block => (.ok (.block block), .moves previous)
  | .terminate => (.ok .done, .ends)
  | .session => (.ok (.session session), .stays)

/-- A session that has moved on stands at a block. -/
theorem exists_block_of_submit {answer : Value} (h : session.submit limit answer = .ok next) :
    ∃ block, next.graph.block? next.current = some block := by
  have hcases := submission limit session answer
  rw [h] at hcases
  cases hcases with
  | moved _ _ _ _ hhas => exact Option.isSome_iff_exists.1 hhas

/-- The only error of looking up a block is the defect that it is missing. -/
theorem isDefect_of_currentBlock {e : SessionError} (h : session.currentBlock = .error e) :
    e.isDefect = true := by
  rw [currentBlock] at h
  split at h
  · cases h
  · cases h
    rfl

/-- Going back is never refused on a defect. -/
theorem isDefect_of_back {e : SessionError} (h : session.back = .error e) :
    e.isDefect = false := by
  have hcases := returning session
  rw [h] at hcases
  cases hcases <;> rfl

/-- **A session refuses a call for being stale or for an error of its own**, and ends on an error
that is a defect; any other error leaves it as it was. -/
theorem attempt_error {call : Call} {error : ServiceError} {aftermath : Aftermath}
    (h : session.attempt limit call = (.error error, aftermath)) :
    (∃ submitted current, error = .staleBlock submitted current ∧ aftermath = .stays) ∨
      ∃ e, error = .session e ∧ aftermath = if e.isDefect then .ends else .stays := by
  cases call with
  | submit block answer =>
      rw [attempt] at h
      split at h
      · cases h
        exact .inl ⟨_, _, rfl, rfl⟩
      · split at h
        · cases h
          exact .inr ⟨_, rfl, rfl⟩
        · split at h <;> cases h
  | back =>
      rw [attempt] at h
      split at h
      · rename_i e hback
        have hdefect := isDefect_of_back hback
        cases h
        exact .inr ⟨e, rfl, by rw [hdefect]; rfl⟩
      · split at h
        · rename_i e hblock
          have hdefect := isDefect_of_currentBlock hblock
          cases h
          exact .inr ⟨e, rfl, by rw [hdefect]; rfl⟩
        · cases h
  | terminate => cases h
  | session => cases h

/-- **A call moves a session by a move**, if it moves it at all. -/
theorem exists_make_of_attempt {call : Call} {reply : Except ServiceError Reply}
    (h : session.attempt limit call = (reply, .moves next)) :
    ∃ move, session.make limit move = .ok next := by
  cases call with
  | submit block answer =>
      rw [attempt] at h
      split at h
      · cases h
      · split at h
        · split at h <;> cases h
        · rename_i hsubmit
          split at h
          · cases h
          · cases h
            exact ⟨.answer answer, hsubmit⟩
  | back =>
      rw [attempt] at h
      split at h
      · cases h
      · rename_i hback
        split at h
        · cases h
        · cases h
          exact ⟨.back, hback⟩
  | terminate => cases h
  | session => cases h

end Session

namespace Service

variable {outage : Outage} {service : Service} {id : String} {session : Session}

/-! ### Requests -/

/-- The reply of a request that yields something. -/
def yields {α : Type} (reply : α → Reply) (result : Except ServiceError α × Service) :
    Except ServiceError Reply × Service :=
  (result.1.map reply, result.2)

/-- Answers a call on a session. -/
def answer (outage : Outage) (service : Service) (id : String) :
    Call → Except ServiceError Reply × Service
  | .submit block value => yields .outcome (service.submit outage id block value)
  | .back => yields .block (service.back outage id)
  | .terminate => yields (fun _ => .done) (service.terminate outage id)
  | .session => yields .session (service.session outage id, service)

/-- Performs a request. -/
def perform (outage : Outage) (service : Service) : Request → Except ServiceError Reply × Service
  | .register graphId graph =>
    (.ok (.registered (service.register graphId graph).1), (service.register graphId graph).2)
  | .start graphId freshId => yields (.started freshId) (service.start outage graphId freshId)
  | .call id call => service.answer outage id call

/-- The service after many requests, each with the calls of the store that fail during it. -/
def run (service : Service) (requests : List (Outage × Request)) : Service :=
  requests.foldl (fun service request => (service.perform request.1 request.2).2) service

@[simp] theorem run_nil (service : Service) : service.run [] = service := rfl

@[simp] theorem run_cons (service : Service) (outage : Outage) (request : Request)
    (requests : List (Outage × Request)) :
    service.run ((outage, request) :: requests) =
      (service.perform outage request).2.run requests := rfl

/-- What every request keeps, every run keeps. -/
theorem run_induction {P : Service → Prop}
    (step : ∀ (service : Service) (outage : Outage) (request : Request), P service →
      P (service.perform outage request).2)
    (start : P service) (requests : List (Outage × Request)) : P (service.run requests) := by
  induction requests generalizing service with
  | nil => exact start
  | cons request requests ih => exact ih (step service request.1 request.2 start)

/-! ### Loading a session -/

/-- A session is loaded from its entry in the table and its snapshot in the store. -/
theorem load_eq_ok_iff : service.load outage id = .ok session ↔ outage.load = false ∧
    ∃ graph snapshot, service.live.get? id = some graph ∧
      service.store.get? id = some snapshot ∧ snapshot.restore graph = session := by
  unfold load
  cases service.live.get? id with
  | none => simp
  | some graph =>
      cases outage.load with
      | true => simp
      | false =>
          cases service.store.get? id with
          | none => simp
          | some snapshot => simp

/-- What is loaded does not depend on which calls of the store fail, as long as it is loaded. -/
theorem load_unique {outage' : Outage} {session' : Session}
    (hload : service.load outage id = .ok session)
    (hload' : service.load outage' id = .ok session') : session = session' := by
  obtain ⟨-, graph, snapshot, hlive, hstore, rfl⟩ := load_eq_ok_iff.1 hload
  obtain ⟨-, graph', snapshot', hlive', hstore', rfl⟩ := load_eq_ok_iff.1 hload'
  rw [hlive] at hlive'
  rw [hstore] at hstore'
  cases hlive'
  cases hstore'
  rfl

/-- What is loaded depends on the entries of the session only. -/
theorem load_congr {service' : Service}
    (hlive : service'.live.get? id = service.live.get? id)
    (hstore : service'.store.get? id = service.store.get? id) :
    service'.load outage id = service.load outage id := by
  unfold load
  rw [hlive, hstore]

/-! ### What a request can come to -/

/-- **What a call can come to**: the session may be unknown, the store may fail to load it, to save
it or to remove it, and otherwise the reply is that of the session by itself.  A session that ends
leaves the table even if the store cannot remove it, and a defect is reported even then. -/
inductive Answering (outage : Outage) (service : Service) (id : String) :
    Call → Except ServiceError Reply × Service → Prop where
  | absent {call : Call} (hlive : service.live.get? id = none) :
      Answering outage service id call (.error (.unknownSession id), service)
  | unloaded {call : Call} {graph : Graph} (hlive : service.live.get? id = some graph)
      (hfails : outage.load = true) :
      Answering outage service id call (.error (.store .load), service)
  | lost {call : Call} {graph : Graph} (hlive : service.live.get? id = some graph)
      (hstore : service.store.get? id = none) :
      Answering outage service id call (.error (.unknownSession id), service)
  | stays {call : Call} {session : Session} {reply : Except ServiceError Reply}
      (hload : service.load outage id = .ok session)
      (hattempt : session.attempt service.conduct.selfLoopLimit call = (reply, .stays)) :
      Answering outage service id call (reply, service)
  | unsaved {call : Call} {session next : Session} {reply : Except ServiceError Reply}
      (hload : service.load outage id = .ok session)
      (hattempt : session.attempt service.conduct.selfLoopLimit call = (reply, .moves next))
      (hfails : outage.save = true) :
      Answering outage service id call (.error (.store .save), service)
  | moves {call : Call} {session next : Session} {reply : Except ServiceError Reply}
      (hload : service.load outage id = .ok session)
      (hattempt : session.attempt service.conduct.selfLoopLimit call = (reply, .moves next))
      (hworks : outage.save = false) :
      Answering outage service id call (reply, service.putStored next)
  | ends {call : Call} {session : Session} {reply : Except ServiceError Reply}
      (hload : service.load outage id = .ok session)
      (hattempt : session.attempt service.conduct.selfLoopLimit call = (reply, .ends))
      (hworks : outage.remove = false) :
      Answering outage service id call (reply, (service.unlist id).dropStored id)
  | unremoved {call : Call} {session : Session} {reply : Reply}
      (hload : service.load outage id = .ok session)
      (hattempt : session.attempt service.conduct.selfLoopLimit call = (.ok reply, .ends))
      (hfails : outage.remove = true) :
      Answering outage service id call (.error (.store .remove), service.unlist id)
  | aborted {call : Call} {session : Session} {error : ServiceError}
      (hload : service.load outage id = .ok session)
      (hattempt : session.attempt service.conduct.selfLoopLimit call = (.error error, .ends))
      (hfails : outage.remove = true) :
      Answering outage service id call (.error error, service.unlist id)
  | terminated {graph : Graph} (hlive : service.live.get? id = some graph)
      (hworks : outage.remove = false) :
      Answering outage service id .terminate (.ok .done, (service.unlist id).dropStored id)
  | unterminated {graph : Graph} (hlive : service.live.get? id = some graph)
      (hfails : outage.remove = true) :
      Answering outage service id .terminate (.error (.store .remove), service.unlist id)

/-- **What a start can come to**: there may be no survey under the id, it may be unfit to be run,
and the store may fail to save the session; otherwise the session is saved first and entered into
the table after that. -/
inductive Starting (outage : Outage) (service : Service) (graphId freshId : String) :
    Except ServiceError Reply × Service → Prop where
  | unknown (hgraph : service.registrations.get? graphId = none) :
      Starting outage service graphId freshId (.error (.unknownGraph graphId), service)
  | refused {registration : Registration} {error : SessionError}
      (hgraph : service.registrations.get? graphId = some registration)
      (hstart : Session.startReviewed freshId registration.graph registration.report =
        .error error) :
      Starting outage service graphId freshId (.error (.session error), service)
  | blockless {registration : Registration} {session : Session} {error : SessionError}
      (hgraph : service.registrations.get? graphId = some registration)
      (hstart : Session.startReviewed freshId registration.graph registration.report =
        .ok session)
      (hblock : session.currentBlock = .error error) :
      Starting outage service graphId freshId (.error (.session error), service)
  | unsaved {registration : Registration} {session : Session} {block : Block}
      (hgraph : service.registrations.get? graphId = some registration)
      (hstart : Session.startReviewed freshId registration.graph registration.report =
        .ok session)
      (hblock : session.currentBlock = .ok block) (hfails : outage.save = true) :
      Starting outage service graphId freshId (.error (.store .save), service)
  | started {registration : Registration} {session : Session} {block : Block}
      (hgraph : service.registrations.get? graphId = some registration)
      (hstart : Session.startReviewed freshId registration.graph registration.report =
        .ok session)
      (hblock : session.currentBlock = .ok block) (hworks : outage.save = false) :
      Starting outage service graphId freshId
        (.ok (.started freshId block),
          (service.putStored session).enlist freshId registration.graph)

/-- The list of what a start can come to is complete. -/
theorem starting (outage : Outage) (service : Service) (graphId freshId : String) :
    Starting outage service graphId freshId
      (service.perform outage (.start graphId freshId)) := by
  rw [perform, start]
  cases hgraph : service.registrations.get? graphId with
  | none => exact .unknown hgraph
  | some registration =>
      simp only []
      cases hstart : Session.startReviewed freshId registration.graph registration.report with
      | error e => exact .refused hgraph hstart
      | ok session =>
          simp only []
          cases hblock : session.currentBlock with
          | error e => exact .blockless hgraph hstart hblock
          | ok block =>
              simp only [save]
              cases hsave : outage.save with
              | true => exact .unsaved hgraph hstart hblock hsave
              | false => exact .started hgraph hstart hblock hsave

theorem discard_of_works (hworks : outage.remove = false) (service : Service) (id : String) :
    service.discard outage id = (.ok (), (service.unlist id).dropStored id) := by
  simp [discard, hworks]

theorem discard_of_fails (hfails : outage.remove = true) (service : Service) (id : String) :
    service.discard outage id = (.error (.store .remove), service.unlist id) := by
  simp [discard, hfails]

/-- A call for which the session cannot be loaded changes nothing. -/
theorem answering_of_load_error {call : Call} {error : ServiceError}
    (hload : service.load outage id = .error error) :
    Answering outage service id call (.error error, service) := by
  unfold load at hload
  split at hload
  · rename_i hlive
    cases hload
    exact .absent hlive
  · rename_i graph hlive
    split at hload
    · rename_i hfails
      cases hload
      exact .unloaded hlive hfails
    · split at hload
      · rename_i hstore
        cases hload
        exact .lost hlive hstore
      · cases hload

/-- An error of the session is replied as it is, and the session ends if it is a defect. -/
theorem answering_of_refuse {α : Type} {call : Call} {error : SessionError} {reply : α → Reply}
    (hload : service.load outage id = .ok session)
    (hattempt : session.attempt service.conduct.selfLoopLimit call =
      (.error (.session error), if error.isDefect then .ends else .stays)) :
    Answering outage service id call (yields reply (service.refuse outage id error)) := by
  unfold refuse
  cases hdefect : error.isDefect with
  | false =>
      rw [hdefect] at hattempt
      exact .stays hload hattempt
  | true =>
      rw [hdefect] at hattempt
      cases hremove : outage.remove with
      | false =>
          rw [discard_of_works hremove]
          exact .ends hload hattempt hremove
      | true =>
          -- it is the defect that is replied, and not that the store has failed
          rw [discard_of_fails hremove]
          exact .aborted hload hattempt hremove

theorem answering_submit (outage : Outage) (service : Service) (id block : String)
    (value : Value) :
    Answering outage service id (.submit block value)
      (service.answer outage id (.submit block value)) := by
  rw [answer, submit]
  cases hload : service.load outage id with
  | error e => exact answering_of_load_error hload
  | ok session =>
      by_cases hstale : session.current ≠ block
      · have hattempt : session.attempt service.conduct.selfLoopLimit (.submit block value) =
            (.error (.staleBlock block session.current), .stays) := by
          rw [Session.attempt, if_pos hstale]
        simp only [if_pos hstale]
        exact .stays hload hattempt
      · simp only [if_neg hstale]
        cases hsubmit : session.submit service.conduct.selfLoopLimit value with
        | error e =>
            exact answering_of_refuse hload (by rw [Session.attempt, if_neg hstale, hsubmit])
        | ok next =>
            cases hcomplete : next.isComplete with
            | true =>
                have hattempt : session.attempt service.conduct.selfLoopLimit
                    (.submit block value) =
                    (.ok (.outcome ⟨none, next.progress, true⟩), .ends) := by
                  simp only [Session.attempt, if_neg hstale, hsubmit, hcomplete, if_true]
                simp only [hcomplete, if_true, finish]
                cases hremove : outage.remove with
                | false =>
                    rw [discard_of_works hremove]
                    exact .ends hload hattempt hremove
                | true =>
                    rw [discard_of_fails hremove]
                    exact .unremoved hload hattempt hremove
            | false =>
                -- looking up the next block cannot fail, since the answer led to it
                obtain ⟨first, hfirst⟩ := Session.exists_block_of_submit hsubmit
                have hattempt : session.attempt service.conduct.selfLoopLimit
                    (.submit block value) =
                    (.ok (.outcome ⟨some first, next.progress, false⟩), .moves next) := by
                  simp only [Session.attempt, if_neg hstale, hsubmit, hcomplete,
                    Bool.false_eq_true, if_false, hfirst]
                simp only [hcomplete, Bool.false_eq_true, if_false, settle, Session.currentBlock,
                  hfirst, save]
                cases hsave : outage.save with
                | true => exact .unsaved hload hattempt hsave
                | false => exact .moves hload hattempt hsave

theorem answering_back (outage : Outage) (service : Service) (id : String) :
    Answering outage service id .back (service.answer outage id .back) := by
  rw [answer, back]
  cases hload : service.load outage id with
  | error e => exact answering_of_load_error hload
  | ok session =>
      simp only []
      cases hback : session.back with
      | error e =>
          have hattempt : session.attempt service.conduct.selfLoopLimit .back =
              (.error (.session e), .stays) := by
            simp only [Session.attempt, hback]
          exact .stays hload hattempt
      | ok previous =>
          simp only [settle]
          cases hblock : previous.currentBlock with
          | error e =>
              have hdefect := Session.isDefect_of_currentBlock hblock
              have hattempt : session.attempt service.conduct.selfLoopLimit .back =
                  (.error (.session e), if e.isDefect then .ends else .stays) := by
                simp only [Session.attempt, hback, hblock, hdefect, if_true]
              exact answering_of_refuse hload hattempt
          | ok block =>
              have hattempt : session.attempt service.conduct.selfLoopLimit .back =
                  (.ok (.block block), .moves previous) := by
                simp only [Session.attempt, hback, hblock]
              simp only [save]
              cases hsave : outage.save with
              | true => exact .unsaved hload hattempt hsave
              | false => exact .moves hload hattempt hsave

theorem answering_terminate (outage : Outage) (service : Service) (id : String) :
    Answering outage service id .terminate (service.answer outage id .terminate) := by
  rw [answer, terminate, Keyed.has]
  cases hlive : service.live.get? id with
  | none => exact .absent hlive
  | some graph =>
      simp only [Option.isSome_some, if_true]
      cases hremove : outage.remove with
      | false =>
          rw [discard_of_works hremove]
          exact .terminated hlive hremove
      | true =>
          rw [discard_of_fails hremove]
          exact .unterminated hlive hremove

theorem answering_session (outage : Outage) (service : Service) (id : String) :
    Answering outage service id .session (service.answer outage id .session) := by
  rw [answer, Service.session]
  cases hload : service.load outage id with
  | error e => exact answering_of_load_error hload
  | ok session => exact .stays hload rfl

/-- **The list of what a call can come to is complete.** -/
theorem answering (outage : Outage) (service : Service) (id : String) (call : Call) :
    Answering outage service id call (service.answer outage id call) := by
  cases call with
  | submit block value => exact answering_submit outage service id block value
  | back => exact answering_back outage service id
  | terminate => exact answering_terminate outage service id
  | session => exact answering_session outage service id

/-! ### Two ways in which a call is settled -/

/-- What a service makes of what a call leaves of a session, with a store that works. -/
def settled (service : Service) (id : String) : Aftermath → Service
  | .stays => service
  | .moves next => service.putStored next
  | .ends => (service.unlist id).dropStored id

/-- **With a store that works the reply to a call is that of the session by itself**, and the table
and the store follow it. -/
theorem answer_of_works (hload : service.load outage id = .ok session)
    (hsave : outage.save = false) (hremove : outage.remove = false) (call : Call) :
    service.answer outage id call =
      ((session.attempt service.conduct.selfLoopLimit call).1,
        service.settled id (session.attempt service.conduct.selfLoopLimit call).2) := by
  obtain ⟨hworks, graph, snapshot, hlive, hstore, -⟩ := load_eq_ok_iff.1 hload
  have hcases := answering outage service id call
  generalize service.answer outage id call = result at hcases
  -- a session that is not found and a call of the store that fails contradict the hypotheses
  cases hcases with
  | absent hnone =>
      rw [hlive] at hnone
      cases hnone
  | unloaded _ hfails =>
      rw [hworks] at hfails
      cases hfails
  | lost _ hnone =>
      rw [hstore] at hnone
      cases hnone
  | stays hload' hattempt | moves hload' hattempt | ends hload' hattempt =>
      rw [hload] at hload'
      cases hload'
      rw [hattempt]
      rfl
  | unsaved _ _ hfails =>
      rw [hsave] at hfails
      cases hfails
  | unremoved _ _ hfails | aborted _ _ hfails | unterminated _ hfails =>
      rw [hremove] at hfails
      cases hfails
  | terminated => rfl

/-- A call on a session that the table does not have. -/
theorem answer_of_absent (hlive : service.live.get? id = none) (outage : Outage) (call : Call) :
    service.answer outage id call = (.error (.unknownSession id), service) := by
  have hload : service.load outage id = .error (.unknownSession id) := by rw [load, hlive]
  cases call with
  | submit block value => rw [answer, submit, hload]; rfl
  | back => rw [answer, back, hload]; rfl
  | terminate => rw [answer, terminate, Keyed.has, hlive]; rfl
  | session => rw [answer, Service.session, hload]; rfl

end Service

end Questionnaire
