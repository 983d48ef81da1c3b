/-
**Serving sessions.**

A service keeps registered surveys, a table of live sessions with the survey that each was started
on, and a store of snapshots.  Every call of the store may fail; a call that fails leaves the store
as it was.  A session ends when it reaches a final block, when it is terminated, or on a defect of
its survey; then it is taken out of the table first and out of the store second.

Main definitions:

* `Questionnaire.Service` — registered surveys, live sessions and stored snapshots;
* `Questionnaire.Outage` — the calls of the store that fail;
* `Questionnaire.ServiceError` — why a request is refused;
* `Questionnaire.Service.enlist`, `Questionnaire.Service.unlist`, `Questionnaire.Service.putStored`,
  `Questionnaire.Service.dropStored` — what is done to the table and to the store;
* `Questionnaire.Service.register`, `Questionnaire.Service.start`, `Questionnaire.Service.submit`,
  `Questionnaire.Service.back`, `Questionnaire.Service.terminate`,
  `Questionnaire.Service.session` — the requests.
-/

import Questionnaire.Snapshot

set_option autoImplicit false

namespace Questionnaire

/-- The calls that a store takes. -/
inductive StoreCall where
  | load
  | save
  | remove
  deriving DecidableEq

/-- The calls of the store that fail during a request. -/
structure Outage where
  load : Bool
  save : Bool
  remove : Bool

/-- A store on which every call succeeds. -/
def Outage.none : Outage := ⟨false, false, false⟩

/-- Why a request is refused. -/
inductive ServiceError where
  | unknownGraph (id : String)
  | unknownSession (id : String)
  | staleBlock (submitted current : String)
  | session (error : SessionError)
  | store (call : StoreCall)

namespace ServiceError

/-- Why a request is refused, in words. -/
def message : ServiceError → String
  | .unknownGraph id => s!"No survey graph registered under id '{id}'"
  | .unknownSession id => s!"No live session with id '{id}'"
  | .staleBlock submitted current =>
    s!"Answer targets block '{submitted}', but the session is at block '{current}'"
  | .session error => error.message
  | .store .load => "Session store failure: load failed"
  | .store .save => "Session store failure: save failed"
  | .store .remove => "Session store failure: remove failed"

/-- Whether the respondent can go on from the current block. -/
def isRecoverable : ServiceError → Bool
  | .staleBlock .. => true
  | .session error => error.isRecoverable
  | _ => false

end ServiceError

/-- A registered survey with its review. -/
structure Registration where
  graph : Graph
  report : Report

/-- A service: what its sessions are conducted by, the registered surveys, the surveys of the live
sessions by their ids, and the stored snapshots. -/
structure Service where
  conduct : Conduct
  registrations : Keyed Registration
  live : Keyed Graph
  store : Keyed Snapshot

/-- What an accepted answer leads to: the next block unless the survey is over. -/
structure Outcome where
  next : Option Block
  progress : Progress
  completed : Bool

namespace Service

/-- A service without surveys and sessions. -/
def empty (conduct : Conduct) : Service := ⟨conduct, [], [], []⟩

/-- Reviews and registers a survey, in place of an earlier one with its id. -/
def register (service : Service) (id : String) (graph : Graph) : Report × Service :=
  let report := graph.review service.conduct.review
  (report, { service with registrations := service.registrations.insert id ⟨graph, report⟩ })

/-- The survey that is registered under an id. -/
def graph? (service : Service) (id : String) : Option Graph :=
  (service.registrations.get? id).map Registration.graph

/-! ### The table and the store -/

/-- Enters a session into the table. -/
def enlist (service : Service) (id : String) (graph : Graph) : Service :=
  { service with live := service.live.insert id graph }

/-- Takes a session out of the table. -/
def unlist (service : Service) (id : String) : Service :=
  { service with live := service.live.erase id }

/-- Puts the snapshot of a session into the store, under the id of the session. -/
def putStored (service : Service) (session : Session) : Service :=
  { service with store := service.store.insert session.id session.snapshot }

/-- Takes a snapshot out of the store. -/
def dropStored (service : Service) (id : String) : Service :=
  { service with store := service.store.erase id }

@[simp] theorem live_unlist_self (service : Service) (id : String) :
    (service.unlist id).live.get? id = none := by
  rw [unlist, Keyed.get?_erase, if_pos rfl]

@[simp] theorem store_dropStored_self (service : Service) (id : String) :
    (service.dropStored id).store.get? id = none := by
  rw [dropStored, Keyed.get?_erase, if_pos rfl]

@[simp] theorem store_putStored_self (service : Service) (session : Session) :
    (service.putStored session).store.get? session.id = some session.snapshot := by
  rw [putStored, Keyed.get?_insert_self]

/-- Saves a session, if the store can. -/
def save (outage : Outage) (service : Service) (session : Session) :
    Except ServiceError Service :=
  if outage.save then .error (.store .save) else .ok (service.putStored session)

/-- Loads a live session onto the survey that it was started on, if the store can. -/
def load (outage : Outage) (service : Service) (id : String) : Except ServiceError Session :=
  match service.live.get? id with
  | none => .error (.unknownSession id)
  | some graph =>
    if outage.load then .error (.store .load)
    else
      match service.store.get? id with
      | none => .error (.unknownSession id)
      | some snapshot => .ok (snapshot.restore graph)

/-- Ends a session: it leaves the table even if the store cannot remove it. -/
def discard (outage : Outage) (service : Service) (id : String) :
    Except ServiceError Unit × Service :=
  let service := service.unlist id
  if outage.remove then (.error (.store .remove), service) else (.ok (), service.dropStored id)

/-- Refuses a request on account of an error of the session, which a defect ends. -/
def refuse {α : Type} (outage : Outage) (service : Service) (id : String) (error : SessionError) :
    Except ServiceError α × Service :=
  let service := if error.isDefect then (service.discard outage id).2 else service
  (.error (.session error), service)

/-! ### Requests -/

/-- Starts a session with a fresh id on a registered survey and yields its first block. -/
def start (outage : Outage) (service : Service) (graphId freshId : String) :
    Except ServiceError Block × Service :=
  match service.registrations.get? graphId with
  | none => (.error (.unknownGraph graphId), service)
  | some registration =>
    match Session.startReviewed freshId registration.graph registration.report with
    | .error e => (.error (.session e), service)
    | .ok session =>
      match session.currentBlock with
      | .error e => (.error (.session e), service)
      | .ok block =>
        match service.save outage session with
        | .error e => (.error e, service)
        | .ok saved => (.ok block, saved.enlist freshId registration.graph)

/-- Saves a session that has moved and yields the block at which it now stands. -/
def settle (outage : Outage) (service : Service) (id : String) (session : Session) :
    Except ServiceError Block × Service :=
  match session.currentBlock with
  | .error e => service.refuse outage id e
  | .ok block =>
    match service.save outage session with
    | .error e => (.error e, service)
    | .ok saved => (.ok block, saved)

/-- Ends a session that has reached a final block. -/
def finish (outage : Outage) (service : Service) (id : String) (session : Session) :
    Except ServiceError Outcome × Service :=
  match service.discard outage id with
  | (.error e, service) => (.error e, service)
  | (.ok (), service) => (.ok ⟨none, session.progress, true⟩, service)

/-- **Answers the current block of a session**, which the answer must name. -/
def submit (outage : Outage) (service : Service) (id block : String) (answer : Value) :
    Except ServiceError Outcome × Service :=
  match service.load outage id with
  | .error e => (.error e, service)
  | .ok session =>
    if session.current ≠ block then (.error (.staleBlock block session.current), service)
    else
      match session.submit service.conduct.selfLoopLimit answer with
      | .error e => service.refuse outage id e
      | .ok advanced =>
        if advanced.isComplete then service.finish outage id advanced
        else
          match service.settle outage id advanced with
          | (.error e, service) => (.error e, service)
          | (.ok next, service) => (.ok ⟨some next, advanced.progress, false⟩, service)

/-- Takes a session back by one block and yields that block. -/
def back (outage : Outage) (service : Service) (id : String) :
    Except ServiceError Block × Service :=
  match service.load outage id with
  | .error e => (.error e, service)
  | .ok session =>
    match session.back with
    | .error e => (.error (.session e), service)
    | .ok previous => service.settle outage id previous

/-- Ends a session at the respondent's wish. -/
def terminate (outage : Outage) (service : Service) (id : String) :
    Except ServiceError Unit × Service :=
  if service.live.has id then service.discard outage id
  else (.error (.unknownSession id), service)

/-- A live session as it stands. -/
def session (outage : Outage) (service : Service) (id : String) : Except ServiceError Session :=
  service.load outage id

end Service

end Questionnaire
