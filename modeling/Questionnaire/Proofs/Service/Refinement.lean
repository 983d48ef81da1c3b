/-
**A session is served as if it were alone.**

A service conducts many sessions on many surveys, and requests about them come in any order.  With
a store that works none of this is seen from within a session: the replies to its calls are those
that the session by itself gives to these calls, on the survey that was registered when it started,
whatever is requested in between.

Main definitions:

* `Questionnaire.Session.begin`, `Questionnaire.Session.dialogue`, `Questionnaire.Session.rest` —
  **a session by itself**: how it begins, what it replies and what is left of it;
* `Questionnaire.Service.dialogue` — what a service replies to the calls on one session;
* `Questionnaire.Service.Holds` — **the simulation**: what a service has of a session;
* `Questionnaire.Service.ServedAlone` — what is replied about a session that is started once.

Main results:

* `Questionnaire.Service.Holds.start`, `Questionnaire.Service.Holds.answer`,
  `Questionnaire.Service.Holds.run` — the simulation, for a start, a call and many requests;
* `Questionnaire.Service.sessions_are_served_alone` — **every session is served as if it were
  alone**.
-/

import Questionnaire.Proofs.Service.Invariant

set_option autoImplicit false

namespace Questionnaire

/-! ### Requests about one session and one survey -/

/-- The call on a session that a request is, if it is one. -/
def Request.callOn? (id : String) : Request → Option Call
  | .call other asked => if other = id then some asked else none
  | _ => none

/-- The session that a request starts, if it starts one. -/
def Request.starts? : Request → Option String
  | .start _ freshId => some freshId
  | _ => none

/-- The survey under an id once a request was made. -/
def Request.revise (graphId : String) (revision : Option Graph) : Request → Option Graph
  | .register other graph => if other = graphId then some graph else revision
  | _ => revision

/-- The calls on a session among requests. -/
def callsOn (id : String) (requests : List Request) : List Call :=
  requests.filterMap (Request.callOn? id)

/-- The sessions that requests start. -/
def startedIds (requests : List Request) : List String := requests.filterMap Request.starts?

/-- The survey that was last registered under an id. -/
def revision? (graphId : String) (requests : List Request) : Option Graph :=
  requests.foldl (Request.revise graphId) none

/-- Whether a reply says that the session is over: on demand, at a final block, or on a defect of
its survey. -/
def isOver : Except ServiceError Reply → Bool
  | .ok .done => true
  | .ok (.outcome outcome) => outcome.completed
  | .error (.session e) => e.isDefect
  | _ => false

theorem Request.callOn?_eq_some_iff {id : String} {request : Request} {call : Call} :
    request.callOn? id = some call ↔ request = .call id call := by
  cases request with
  | register => simp [callOn?]
  | start => simp [callOn?]
  | call other call' =>
      by_cases hother : other = id
      · simp [callOn?, hother]
      · simp [callOn?, hother]

/-- A request that is no call on a session and does not start it does not concern it. -/
theorem Request.not_concerns {id : String} {request : Request}
    (hcall : request.callOn? id = none) (hstart : request.starts? ≠ some id) :
    ¬ request.Concerns id := by
  cases request with
  | register => exact not_false
  | start graphId freshId =>
      intro h
      exact hstart (congrArg some h)
  | call other call =>
      intro h
      rw [callOn?, if_pos (show other = id from h)] at hcall
      cases hcall

theorem callsOn_cons (id : String) (request : Request) (requests : List Request) :
    callsOn id (request :: requests) = (request.callOn? id).toList ++ callsOn id requests := by
  rw [callsOn, List.filterMap_cons]
  cases request.callOn? id <;> rfl

theorem notMem_startedIds_iff {id : String} {requests : List Request} :
    id ∉ startedIds requests ↔ ∀ request ∈ requests, request.starts? ≠ some id := by
  simp [startedIds]

namespace Session

variable {limit : UInt32} {session : Session}

/-! ### A session by itself -/

/-- What is left of a session after a call. -/
def remainder (session : Session) : Aftermath → Option Session
  | .stays => some session
  | .moves next => some next
  | .ends => none

/-- A call on what is left of a session: once nothing is left, it is unknown. -/
def serve (limit : UInt32) (id : String) :
    Option Session → Call → Except ServiceError Reply × Option Session
  | none, _ => (.error (.unknownSession id), none)
  | some session, call =>
    ((session.attempt limit call).1, session.remainder (session.attempt limit call).2)

/-- **What a session by itself replies to calls**, one after another. -/
def dialogue (limit : UInt32) (id : String) :
    Option Session → List Call → List (Call × Except ServiceError Reply)
  | _, [] => []
  | session?, call :: calls =>
    (call, (serve limit id session? call).1) ::
      dialogue limit id (serve limit id session? call).2 calls

/-- **What calls leave of a session.** -/
def rest (limit : UInt32) (id : String) (session? : Option Session) (calls : List Call) :
    Option Session :=
  calls.foldl (fun session? call => (serve limit id session? call).2) session?

/-- **How a session begins** on the survey that is registered under an id, if any. -/
def begin (conduct : Conduct) (graphId id : String) :
    Option Graph → Except ServiceError Reply × Option Session
  | none => (.error (.unknownGraph graphId), none)
  | some graph =>
    match Session.start conduct id graph with
    | .error e => (.error (.session e), none)
    | .ok session =>
      match session.currentBlock with
      | .error e => (.error (.session e), none)
      | .ok block => (.ok (.started id block), some session)

/-- Where there is no session, every call is refused as unknown. -/
theorem dialogue_none (limit : UInt32) (id : String) (calls : List Call) :
    dialogue limit id none calls = calls.map (·, .error (.unknownSession id)) := by
  induction calls with
  | nil => rfl
  | cons call calls ih => exact congrArg (_ :: ·) ih

theorem rest_none (limit : UInt32) (id : String) (calls : List Call) :
    rest limit id none calls = none := by
  induction calls with
  | nil => rfl
  | cons call calls ih => exact ih

/-- A session has ended once it has replied that it is over. -/
theorem ends_of_isOver {call : Call} {reply : Except ServiceError Reply}
    {aftermath : Aftermath} (h : session.attempt limit call = (reply, aftermath))
    (hover : isOver reply = true) : aftermath = .ends := by
  cases reply with
  | error error =>
      rcases attempt_error h with ⟨submitted, current, rfl, -⟩ | ⟨e, rfl, rfl⟩
      · cases hover
      · rw [show e.isDefect = true from hover]
        rfl
  | ok reply =>
      cases call with
      | submit block answer =>
          rw [attempt] at h
          split at h
          · cases h
          · split at h
            · cases h
            · split at h
              · cases h
                rfl
              · cases h
                cases hover
      | back =>
          rw [attempt] at h
          split at h
          · cases h
          · split at h
            · cases h
            · cases h
              cases hover
      | terminate =>
          cases h
          rfl
      | session =>
          cases h
          cases hover

/-- **An error by which a session is not over leaves it as it was.** -/
theorem stays_of_error {call : Call} {error : ServiceError} {aftermath : Aftermath}
    (h : session.attempt limit call = (.error error, aftermath))
    (hover : isOver (.error error) = false) : aftermath = .stays := by
  rcases attempt_error h with ⟨submitted, current, -, rfl⟩ | ⟨e, rfl, rfl⟩
  · rfl
  · rw [show e.isDefect = false from hover]
    rfl

end Session

namespace Service

variable {conduct : Conduct} {service : Service} {id graphId : String}
  {session? : Option Session}

/-! ### A session among others -/

/-- The service after many requests, with a store that works. -/
def serve (service : Service) (requests : List Request) : Service :=
  service.run (requests.map (Outage.none, ·))

/-- Requests to a service whose store works, each with its reply. -/
def replies (service : Service) : List Request → List (Request × Except ServiceError Reply)
  | [] => []
  | request :: requests =>
    (request, (service.perform .none request).1) ::
      replies (service.perform .none request).2 requests

/-- **What a service whose store works replies to the calls on a session**, among requests of any
kind. -/
def dialogue (service : Service) (id : String) (requests : List Request) :
    List (Call × Except ServiceError Reply) :=
  (service.replies requests).filterMap fun exchange =>
    (exchange.1.callOn? id).map (·, exchange.2)

/-- **What a service has of a session**: its survey in the table and its snapshot in the store, or
neither. -/
def Holds (service : Service) (id : String) : Option Session → Prop
  | none => service.live.get? id = none ∧ service.store.get? id = none
  | some session => service.live.get? id = some session.graph ∧
    service.store.get? id = some session.snapshot ∧ session.id = id

@[simp] theorem serve_nil (service : Service) : service.serve [] = service := rfl

@[simp] theorem serve_cons (service : Service) (request : Request) (requests : List Request) :
    service.serve (request :: requests) = (service.perform .none request).2.serve requests := rfl

theorem dialogue_cons (service : Service) (id : String) (request : Request)
    (requests : List Request) :
    service.dialogue id (request :: requests) =
      (request.callOn? id).toList.map (·, (service.perform .none request).1) ++
        (service.perform .none request).2.dialogue id requests := by
  rw [dialogue, replies, List.filterMap_cons]
  cases request.callOn? id <;> rfl

theorem Sound.serve (h : Sound conduct service) (requests : List Request) :
    Sound conduct (service.serve requests) :=
  run_induction (fun _ outage request h => h.perform outage request) h _

/-- A call on a session leaves the registered surveys alone. -/
theorem registrations_answer (service : Service) (outage : Outage) (id : String) (call : Call) :
    (service.answer outage id call).2.registrations = service.registrations := by
  have hcases := answering outage service id call
  generalize service.answer outage id call = result at hcases
  cases hcases <;> rfl

/-- A request revises the registered surveys, whatever fails during it. -/
theorem graph?_perform (service : Service) (outage : Outage) (request : Request)
    (graphId : String) :
    (service.perform outage request).2.graph? graphId =
      request.revise graphId (service.graph? graphId) := by
  cases request with
  | register other graph =>
      rw [perform, register, graph?, Keyed.get?_insert]
      by_cases hother : other = graphId
      · rw [if_pos hother, Request.revise, if_pos hother]
        rfl
      · rw [if_neg hother, Request.revise, if_neg hother]
        rfl
  | start other freshId =>
      have hcases := starting outage service other freshId
      generalize service.perform outage (.start other freshId) = result at hcases
      cases hcases <;> rfl
  | call other call =>
      rw [graph?, perform, registrations_answer]
      rfl

theorem graph?_serve (service : Service) (requests : List Request) (graphId : String) :
    (service.serve requests).graph? graphId =
      requests.foldl (Request.revise graphId) (service.graph? graphId) := by
  induction requests generalizing service with
  | nil => rfl
  | cons request requests ih => rw [serve_cons, ih, graph?_perform, List.foldl_cons]

namespace Holds

/-- A session that a service has can be loaded. -/
theorem load {session : Session} (h : service.Holds id (some session)) :
    service.load .none id = .ok session :=
  load_eq_ok_iff.2 ⟨rfl, session.graph, session.snapshot, h.1, h.2.1, session.restore_snapshot⟩

/-- What a service has of a session depends on its entries only. -/
theorem congr {service' : Service} (h : service.Holds id session?)
    (hlive : service'.live.get? id = service.live.get? id)
    (hstore : service'.store.get? id = service.store.get? id) : service'.Holds id session? := by
  cases session? with
  | none => exact ⟨hlive.trans h.1, hstore.trans h.2⟩
  | some session => exact ⟨hlive.trans h.1, hstore.trans h.2.1, h.2.2⟩

/-- A session is gone once it is taken out of the table and out of the store. -/
theorem none_of_dropStored (service : Service) (id : String) :
    ((service.unlist id).dropStored id).Holds id none :=
  ⟨live_unlist_self service id, store_dropStored_self (service.unlist id) id⟩

/-- **The simulation, for a call**: the reply is that of what is left of the session, and the
service has what the call leaves of it. -/
theorem answer (hsound : Sound conduct service) (h : service.Holds id session?) (call : Call) :
    (service.answer .none id call).1 = (Session.serve conduct.selfLoopLimit id session? call).1 ∧
      (service.answer .none id call).2.Holds id
        (Session.serve conduct.selfLoopLimit id session? call).2 := by
  cases session? with
  | none =>
      rw [answer_of_absent h.1]
      exact ⟨rfl, h⟩
  | some session =>
      rw [answer_of_works h.load rfl rfl, hsound.conduct_eq]
      refine ⟨rfl, ?_⟩
      rw [Session.serve]
      cases hattempt : session.attempt conduct.selfLoopLimit call with
      | mk reply aftermath =>
          cases aftermath with
          | stays => exact h
          | moves next =>
              -- a move changes neither the id nor the survey, so the entry of the table still fits
              obtain ⟨move, hmake⟩ := Session.exists_make_of_attempt hattempt
              obtain ⟨hid, hgraph, -⟩ := Session.make_keeps hmake
              have hid' : next.id = id := hid.trans h.2.2
              refine ⟨?_, ?_, hid'⟩
              · rw [hgraph]
                exact h.1
              · rw [← hid']
                exact store_putStored_self service next
          | ends => exact none_of_dropStored service id

/-- **The simulation, for a start.** -/
theorem start (hsound : Sound conduct service) (h : service.Holds id none) (graphId : String) :
    (service.perform .none (.start graphId id)).1 =
        (Session.begin conduct graphId id (service.graph? graphId)).1 ∧
      (service.perform .none (.start graphId id)).2.Holds id
        (Session.begin conduct graphId id (service.graph? graphId)).2 := by
  have hcases := starting .none service graphId id
  generalize service.perform .none (.start graphId id) = result at hcases
  cases hcases with
  | unknown hgraph =>
      rw [graph?, hgraph]
      exact ⟨rfl, h⟩
  | refused hgraph hstart =>
      rw [hsound.reviewed graphId _ hgraph] at hstart
      rw [graph?, hgraph, Option.map_some, Session.begin, Session.start, hstart]
      exact ⟨rfl, h⟩
  | blockless hgraph hstart hblock =>
      rw [hsound.reviewed graphId _ hgraph] at hstart
      rw [graph?, hgraph, Option.map_some, Session.begin, Session.start, hstart]
      simp only [hblock]
      exact ⟨trivial, h⟩
  | unsaved _ _ _ hfails => cases hfails
  | @started registration session block hgraph hstart hblock =>
      have hid := Session.id_of_startReviewed hstart
      rw [hsound.reviewed graphId _ hgraph] at hstart
      obtain ⟨-, hopening⟩ := Session.start_eq_ok_iff.1 hstart
      rw [graph?, hgraph, Option.map_some, Session.begin, Session.start, hstart]
      simp only [hblock]
      refine ⟨trivial, ?_, ?_, hid⟩
      · rw [enlist, Keyed.get?_insert_self, hopening]
        rfl
      · rw [← hid]
        exact store_putStored_self service session

/-- **The simulation, for many requests**: of those only the calls on the session matter. -/
theorem run (hsound : Sound conduct service) (h : service.Holds id session?)
    (requests : List Request) (hfresh : id ∉ startedIds requests) :
    service.dialogue id requests =
        Session.dialogue conduct.selfLoopLimit id session? (callsOn id requests) ∧
      (service.serve requests).Holds id
        (Session.rest conduct.selfLoopLimit id session? (callsOn id requests)) := by
  rw [notMem_startedIds_iff] at hfresh
  -- both the service and what is left of the session change along the requests
  induction requests generalizing service session? with
  | nil => exact ⟨rfl, h⟩
  | cons request requests ih =>
      obtain ⟨hstarts, hlater⟩ := List.forall_mem_cons.1 hfresh
      have hnext := hsound.perform .none request
      rw [dialogue_cons, callsOn_cons, serve_cons]
      cases hcall : request.callOn? id with
      | none =>
          obtain ⟨hlive, hstore⟩ :=
            perform_of_not_concerns hsound .none (Request.not_concerns hcall hstarts)
          exact ih hnext (h.congr hlive hstore) hlater
      | some call =>
          obtain rfl := Request.callOn?_eq_some_iff.1 hcall
          obtain ⟨hreply, hholds⟩ := h.answer hsound call
          obtain ⟨hdialogue, hrest⟩ := ih hnext hholds hlater
          refine ⟨?_, hrest⟩
          rw [perform, hreply]
          exact congrArg (_ :: ·) hdialogue

/-- Calls on a session that a service does not have are refused, whatever comes in between. -/
theorem dialogue_of_none (hsound : Sound conduct service) (h : service.Holds id none)
    (requests : List Request) (hfresh : id ∉ startedIds requests) :
    service.dialogue id requests =
      (callsOn id requests).map (·, .error (.unknownSession id)) := by
  rw [(h.run hsound requests hfresh).1, Session.dialogue_none]

/-- A service has nothing of a session once it has replied that it is over. -/
theorem of_isOver (h : service.Holds id session?) {call : Call}
    {reply : Except ServiceError Reply} {next : Service}
    (hanswer : service.answer .none id call = (reply, next)) (hover : isOver reply = true) :
    next.Holds id none := by
  cases session? with
  | none =>
      rw [answer_of_absent h.1] at hanswer
      cases hanswer
      cases hover
  | some session =>
      rw [answer_of_works h.load rfl rfl] at hanswer
      cases hattempt : session.attempt service.conduct.selfLoopLimit call with
      | mk reply' aftermath =>
          rw [hattempt] at hanswer
          cases hanswer
          rw [Session.ends_of_isOver hattempt hover]
          exact none_of_dropStored service id

/-- An error by which the session is not over changes nothing. -/
theorem of_error (h : service.Holds id session?) {call : Call} {error : ServiceError}
    {next : Service} (hanswer : service.answer .none id call = (.error error, next))
    (hover : isOver (.error error) = false) : next = service := by
  cases session? with
  | none =>
      rw [answer_of_absent h.1] at hanswer
      cases hanswer
      rfl
  | some session =>
      rw [answer_of_works h.load rfl rfl] at hanswer
      cases hattempt : session.attempt service.conduct.selfLoopLimit call with
      | mk reply aftermath =>
          rw [hattempt] at hanswer
          cases hanswer
          rw [Session.stays_of_error hattempt hover]
          rfl

end Holds

/-! ### One session -/

/-- The start of a session after other requests. -/
def launch (conduct : Conduct) (before : List Request) (graphId id : String) :
    Except ServiceError Reply × Service :=
  ((empty conduct).serve before).perform .none (.start graphId id)

/-- The service some requests after the start of a session. -/
def launched (conduct : Conduct) (before after : List Request) (graphId id : String) : Service :=
  (launch conduct before graphId id).2.serve after

/-- **What is replied about a session that is started once**, with a store that works, given what it
begins with by itself.  Nothing is known of it before.  Its calls are replied to as by the session
itself, which is what the service has in the table and in the store.  Once a reply says that it is
over, the service has nothing of it and knows of no later call; any other error changes nothing. -/
structure ServedAlone (conduct : Conduct) (before after : List Request) (graphId id : String)
    (first : Except ServiceError Reply × Option Session) : Prop where
  unknown : (empty conduct).dialogue id before =
    (callsOn id before).map (·, .error (.unknownSession id))
  started : (launch conduct before graphId id).1 = first.1
  replied : (launch conduct before graphId id).2.dialogue id after =
    Session.dialogue conduct.selfLoopLimit id first.2 (callsOn id after)
  held : (launched conduct before after graphId id).Holds id
    (Session.rest conduct.selfLoopLimit id first.2 (callsOn id after))
  ended : ∀ call reply next,
    (launched conduct before after graphId id).answer .none id call = (reply, next) →
    isOver reply = true → next.Holds id none ∧ ∀ later, id ∉ startedIds later →
      next.dialogue id later = (callsOn id later).map (·, .error (.unknownSession id))
  unchanged : ∀ call error next,
    (launched conduct before after graphId id).answer .none id call = (.error error, next) →
    isOver (.error error) = false → next = launched conduct before after graphId id

/-- **Every session is served as if it were alone**, after and among any requests about other
sessions and other surveys, and about the registration of its own. -/
theorem sessions_are_served_alone (conduct : Conduct) (before after : List Request)
    (graphId id : String) (hbefore : id ∉ startedIds before) (hafter : id ∉ startedIds after) :
    ServedAlone conduct before after graphId id
      (Session.begin conduct graphId id (revision? graphId before)) := by
  have hempty : (empty conduct).Holds id none := ⟨rfl, rfl⟩
  have hsound : Sound conduct ((empty conduct).serve before) := (Sound.empty conduct).serve before
  have hnone : ((empty conduct).serve before).Holds id none := by
    have hrest := (hempty.run (.empty conduct) before hbefore).2
    rwa [Session.rest_none] at hrest
  have hlaunch : Sound conduct (launch conduct before graphId id).2 :=
    hsound.perform .none (.start graphId id)
  have hlaunched : Sound conduct (launched conduct before after graphId id) := hlaunch.serve after
  -- the survey on which it starts is the one that the requests before have left registered
  obtain ⟨hreply, hfirst⟩ := hnone.start hsound graphId
  rw [graph?_serve] at hreply hfirst
  obtain ⟨hdialogue, hrest⟩ := hfirst.run hlaunch after hafter
  exact {
    unknown := hempty.dialogue_of_none (.empty conduct) before hbefore
    started := hreply
    replied := hdialogue
    held := hrest
    ended := by
      intro call reply next hanswer hover
      have hgone : next.Holds id none := hrest.of_isOver hanswer hover
      have hnext : Sound conduct next := by
        have h := hlaunched.answer .none id call
        rwa [hanswer] at h
      exact ⟨hgone, fun later hlater => hgone.dialogue_of_none hnext later hlater⟩
    unchanged := fun _ _ _ hanswer hover => hrest.of_error hanswer hover }

/-- Requests before a session starts. -/
def earlier : List Request := [
  .register "survey" .retry,
  .call "s" .session,
  .start "survey" "other",
  .register "another" { Graph.retry with start := "end" }]

/-- Requests after it has started, among them another survey in place of its own. -/
def later : List Request := [
  .register "survey" { Graph.retry with start := "end" },
  .call "other" .terminate,
  .call "s" (.submit "ask" (.text "again")),
  .start "survey" "late",
  .call "s" (.submit "end" (.text "enough")),
  .call "late" .back,
  .call "s" .back,
  .call "s" (.submit "ask" (.text "enough")),
  .call "s" .session]

theorem sessions_are_served_alone_later :
    ("s" ∉ startedIds earlier ∧ "s" ∉ startedIds later) ∧
      ServedAlone .standard earlier later "survey" "s"
        (Session.begin .standard "survey" "s" (revision? "survey" earlier)) :=
  have hearlier : "s" ∉ startedIds earlier := by decide
  have hlater : "s" ∉ startedIds later := by decide
  ⟨⟨hearlier, hlater⟩,
    sessions_are_served_alone .standard earlier later "survey" "s" hearlier hlater⟩

end Service

end Questionnaire
