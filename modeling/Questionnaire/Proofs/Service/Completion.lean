/-
**Sessions at a final block.**

A session leaves the table when an answer takes it to a final block, and going back never leads to
one.  A start does not look: on a survey whose first block is final it enters a session into the
table that is over already, takes no answer and does not go back, and stays until it is terminated.
There is no other way for a session at a final block to be in the table.

Main definitions:

* `Questionnaire.Graph.startsAtEnd` — the first block of a survey is final;
* `Questionnaire.Service.OverFromStart` — **the invariant**: live sessions that are over were so
  from the start;
* `Questionnaire.Service.Stocked` — all surveys of a service, registered or live, are of one kind.

Main results:

* `Questionnaire.Service.Sound.load_answer_or_open`, `Questionnaire.Service.Sound.load_start` — a
  session that a call has moved does not stand at a final block, and one that was started stands at
  its first;
* `Questionnaire.Service.live_session_isComplete_iff` — a live session is over exactly when its
  survey starts at its end, whatever calls of the store have failed;
* `Questionnaire.Service.completed_sessions_leave_iff` — **no session at a final block is ever live
  exactly when no survey that can be started starts at its end**;
* `Questionnaire.Service.session_started_at_end_is_live` — there is such a survey.
-/

import Questionnaire.Proofs.Service.Refinement
import Questionnaire.Proofs.Session.Path

set_option autoImplicit false

namespace Questionnaire

/-- Whether the first block of a survey is final. -/
def Graph.startsAtEnd (graph : Graph) : Bool := (graph.block? graph.start).any Block.isFinal

namespace Session

variable {conduct : Conduct} {graph : Graph} {limit : UInt32} {session next : Session}

theorem isComplete_opening (id : String) (graph : Graph) :
    (opening id graph).isComplete = graph.startsAtEnd := rfl

/-- A session on a survey that starts at its end stays there. -/
theorem Reached.eq_opening (h : Reached conduct graph session) (hend : graph.startsAtEnd = true) :
    session = opening session.id graph := by
  refine h.induction (P := fun session => session = opening session.id graph)
    (fun _ _ => rfl) ?_
  intro session next move hopening hmake
  have hopen := isComplete_of_make hmake
  rw [hopening, isComplete_opening, hend] at hopen
  cases hopen

/-- Going back leads to a block that was answered, which is not final. -/
theorem isComplete_of_back (h : Walking graph session) (hback : session.back = .ok next) :
    next.isComplete = false := by
  have hcases := returning session
  rw [hback] at hcases
  cases hcases with
  | @returned earlier previous _ hhistory =>
      obtain ⟨block, hblock, hopen⟩ := h.open_history previous (by simp [hhistory])
      rw [isComplete, returnTo, h.graph_eq, hblock]
      exact hopen

/-- A call that moves a session does not move it to a final block. -/
theorem isComplete_of_attempt (h : Walking graph session) {call : Call}
    {reply : Except ServiceError Reply}
    (hattempt : session.attempt limit call = (reply, .moves next)) : next.isComplete = false := by
  cases call with
  | submit block answer =>
      rw [attempt] at hattempt
      split at hattempt
      · cases hattempt
      · split at hattempt
        · split at hattempt <;> cases hattempt
        · split at hattempt
          · cases hattempt
          · rename_i hopen
            cases hattempt
            exact Bool.eq_false_iff.2 hopen
  | back =>
      rw [attempt] at hattempt
      split at hattempt
      · cases hattempt
      · rename_i hback
        split at hattempt
        · cases hattempt
        · cases hattempt
          exact isComplete_of_back h hback
  | terminate => cases hattempt
  | session => cases hattempt

end Session

namespace Service

variable {conduct : Conduct} {outage : Outage} {service : Service} {id : String}
  {session next : Session}

/-! ### What a request leaves of a session -/

/-- **What a call leaves of its session** was there before, or does not stand at a final block. -/
theorem Sound.load_answer_or_open (h : Sound conduct service) (call : Call)
    (hafter : (service.answer outage id call).2.load .none id = .ok next) :
    service.load .none id = .ok next ∨ next.isComplete = false := by
  rcases h.attempt_of_load_answer call hafter with hload | ⟨session, reply, hload, hattempt⟩
  · exact .inl hload
  · obtain ⟨-, -, hreached⟩ := h.of_load hload
    exact .inr (Session.isComplete_of_attempt hreached.walking hattempt)

/-- **What a start leaves of its session** was there before, or stands at the first block. -/
theorem Sound.load_start (h : Sound conduct service) {graphId : String}
    (hafter : (service.perform outage (.start graphId id)).2.load .none id = .ok session) :
    service.load .none id = .ok session ∨ session = .opening id session.graph := by
  have hcases := starting outage service graphId id
  generalize service.perform outage (.start graphId id) = result at hcases hafter
  cases hcases with
  | unknown | refused | blockless | unsaved => exact .inl hafter
  | @started registration _ _ hgraph hstart =>
      rw [h.reviewed graphId registration hgraph] at hstart
      obtain ⟨-, rfl⟩ := Session.start_eq_ok_iff.1 hstart
      obtain ⟨-, graph, snapshot, hlive, hstore, rfl⟩ := load_eq_ok_iff.1 hafter
      have hsaved := store_putStored_self service (.opening id registration.graph)
      rw [enlist, Keyed.get?_insert_self] at hlive
      cases hlive
      cases hsaved.symm.trans hstore
      exact .inr rfl

/-- **Live sessions that are over were so from the start.** -/
def OverFromStart (service : Service) : Prop :=
  ∀ id session, service.load .none id = .ok session → session.isComplete = true →
    session.graph.startsAtEnd = true

/-- **Every request keeps the invariant**, whatever fails during it. -/
theorem OverFromStart.perform (h : service.OverFromStart) (hsound : Sound conduct service)
    (outage : Outage) (request : Request) : (service.perform outage request).2.OverFromStart := by
  intro id session hafter hcomplete
  by_cases hconcerns : request.Concerns id
  · cases request with
    | register => cases hconcerns
    | start graphId freshId =>
        obtain rfl : freshId = id := hconcerns
        rcases hsound.load_start hafter with hbefore | hopening
        · exact h _ session hbefore hcomplete
        · rwa [hopening, Session.isComplete_opening] at hcomplete
    | call other call =>
        obtain rfl : other = id := hconcerns
        rcases hsound.load_answer_or_open call hafter with hbefore | hopen
        · exact h _ session hbefore hcomplete
        · rw [hopen] at hcomplete
          cases hcomplete
  · obtain ⟨hlive, hstore⟩ := perform_of_not_concerns hsound outage hconcerns
    rw [load_congr hlive hstore] at hafter
    exact h id session hafter hcomplete

/-- **A live session is over exactly when its survey starts at its end**, and then it still stands
where it was started, after any requests during each of which any calls of the store may fail. -/
theorem live_session_isComplete_iff (conduct : Conduct) (requests : List (Outage × Request))
    (hlive : ((empty conduct).run requests).session .none id = .ok session) :
    (session.isComplete = true ↔ session.graph.startsAtEnd = true) ∧
      (session.isComplete = true → session = .opening id session.graph) := by
  have hkept := run_induction (P := fun service => Sound conduct service ∧ service.OverFromStart)
    (fun _ outage request h => ⟨h.1.perform outage request, h.2.perform h.1 outage request⟩)
    ⟨.empty conduct, by intro id session h; cases h⟩ requests
  obtain ⟨hid, -, hreached⟩ := hkept.1.of_load hlive
  have hstays (hend : session.graph.startsAtEnd = true) : session = .opening id session.graph := by
    rw [← hid]
    exact hreached.eq_opening hend
  have hstarted := hkept.2 id session hlive
  refine ⟨⟨hstarted, fun hend => ?_⟩, fun hcomplete => hstays (hstarted hcomplete)⟩
  rw [hstays hend, Session.isComplete_opening]
  exact hend

/-! ### Which surveys a service runs -/

variable {surveys : Graph → Prop}

/-- All surveys of a service, registered ones and those of live sessions, are of one kind. -/
structure Stocked (surveys : Graph → Prop) (service : Service) : Prop where
  registered : ∀ graphId graph, service.graph? graphId = some graph → surveys graph
  live : ∀ id graph, service.live.get? id = some graph → surveys graph

/-- A call puts no survey into the table. -/
theorem live_of_live_answer {graph : Graph} {other : String} {call : Call}
    (h : (service.answer outage id call).2.live.get? other = some graph) :
    service.live.get? other = some graph := by
  have hcases := answering outage service id call
  generalize service.answer outage id call = result at hcases h
  cases hcases with
  | absent | unloaded | lost | stays | unsaved | moves => exact h
  | ends | terminated | unremoved | aborted | unterminated =>
      have hlive : (service.unlist id).live.get? other = some graph := h
      rw [unlist, Keyed.get?_erase] at hlive
      split at hlive
      · cases hlive
      · exact hlive

namespace Stocked

theorem empty (surveys : Graph → Prop) (conduct : Conduct) :
    Stocked surveys (Service.empty conduct) where
  registered := by
    intro graphId graph h
    cases h
  live := by
    intro id graph h
    cases h

/-- A request keeps to the surveys of a kind unless it registers another. -/
theorem perform (h : Stocked surveys service) (outage : Outage) {request : Request}
    (hrequest : ∀ graphId graph, request = .register graphId graph → surveys graph) :
    Stocked surveys (service.perform outage request).2 where
  registered := by
    intro graphId graph hgraph
    rw [graph?_perform] at hgraph
    cases request with
    | register other revision =>
        rw [Request.revise] at hgraph
        split at hgraph
        · cases hgraph
          exact hrequest other graph rfl
        · exact h.registered graphId graph hgraph
    | start | call => exact h.registered graphId graph hgraph
  live := by
    intro id graph hlive
    cases request with
    | register => exact h.live id graph hlive
    | call other call => exact h.live id graph (live_of_live_answer hlive)
    | start graphId freshId =>
        have hcases := starting outage service graphId freshId
        generalize service.perform outage (.start graphId freshId) = result at hcases hlive
        cases hcases with
        | unknown | refused | blockless | unsaved => exact h.live id graph hlive
        | @started registration _ _ hgraph =>
            rw [enlist, Keyed.get?_insert] at hlive
            split at hlive
            · cases hlive
              exact h.registered graphId _ (by rw [graph?, hgraph]; rfl)
            · exact h.live id graph hlive

/-- Requests keep to the surveys that they register. -/
theorem serve (h : Stocked surveys service) (requests : List Request)
    (hrequests : ∀ graphId graph, .register graphId graph ∈ requests → surveys graph) :
    Stocked surveys (service.serve requests) := by
  induction requests generalizing service with
  | nil => exact h
  | cons request requests ih =>
      refine ih (h.perform .none ?_) fun graphId graph hmem =>
        hrequests graphId graph (List.mem_cons_of_mem _ hmem)
      rintro graphId graph rfl
      exact hrequests graphId graph List.mem_cons_self

end Stocked

/-- A service that registers a survey without faults and starts a session on it has the session at
its opening. -/
theorem session_serve_start {graph : Graph} (hfaults : graph.faults = []) (conduct : Conduct)
    (graphId id : String) :
    ((empty conduct).serve [.register graphId graph, .start graphId id]).session .none id =
      .ok (.opening id graph) := by
  have hsound : Sound conduct ((empty conduct).perform .none (.register graphId graph)).2 :=
    (Sound.empty conduct).perform .none _
  have hnone : ((empty conduct).perform .none (.register graphId graph)).2.Holds id none :=
    ⟨rfl, rfl⟩
  have hholds := (hnone.start hsound graphId).2
  have hclosed := Graph.closed_of_faults_eq_nil hfaults
  obtain ⟨block, hblock⟩ := (Session.Standing.of_opening hclosed id).exists_currentBlock
  have hbegin : Session.begin conduct graphId id (some graph) =
      (.ok (.started id block), some (.opening id graph)) := by
    simp only [Session.begin, Session.start_of_faults_eq_nil hfaults, hblock]
  rw [graph?_perform, Request.revise, if_pos rfl, hbegin] at hholds
  exact hholds.load

/-- **No session at a final block is ever live exactly when no survey that can be started starts at
its end.**  The surveys that requests may register are left open; with a store that works, the
sessions of the table are all unfinished after any requests if and only if each of these surveys
that has no faults starts at a block that is not final. -/
theorem completed_sessions_leave_iff (conduct : Conduct) (surveys : Graph → Prop) :
    (∀ requests : List Request,
      (∀ graphId graph, .register graphId graph ∈ requests → surveys graph) →
      ∀ id session, ((empty conduct).serve requests).session .none id = .ok session →
        session.isComplete = false) ↔
    ∀ graph, surveys graph → graph.faults = [] → graph.startsAtEnd = false := by
  constructor
  · intro hleave graph hsurvey hfaults
    have hregisters : ∀ graphId other,
        .register graphId other ∈ [Request.register "survey" graph, .start "survey" "s"] →
          surveys other := by
      intro graphId other hmem
      simp only [List.mem_cons, Request.register.injEq, reduceCtorEq, List.not_mem_nil, or_false]
        at hmem
      exact hmem.2 ▸ hsurvey
    exact hleave _ hregisters "s" _ (session_serve_start hfaults conduct "survey" "s")
  · intro hstarts requests hrequests id session hlive
    have hsound : Sound conduct ((empty conduct).serve requests) :=
      (Sound.empty conduct).serve requests
    have hstocked := (Stocked.empty surveys conduct).serve requests hrequests
    obtain ⟨-, hgraph, hreached⟩ := hsound.of_load hlive
    have hfirst := hstarts session.graph (hstocked.live id session.graph hgraph) hreached.keeps.1
    have hiff := (live_session_isComplete_iff conduct _ hlive).1
    rw [hfirst] at hiff
    simpa using hiff

/-- The survey `Graph.retry` started at its end, with a question that cannot be reached. -/
def surveyFromEnd : Graph := { Graph.retry with start := "end" }

/-- **A survey without faults may start at its end**, and a session on it is live at a final block:
it takes no answer and does not go back, and is live all the same after both were refused. -/
theorem session_started_at_end_is_live :
    (surveyFromEnd.review .standard).isValid = true ∧
    let service := (empty .standard).serve [.register "survey" surveyFromEnd, .start "survey" "s",
      .call "s" (.submit "end" .null), .call "s" .back]
    service.live.has "s" = true ∧
      ∃ session, service.session .none "s" = .ok session ∧ session.isComplete = true ∧
        (service.perform .none (.call "s" (.submit "end" .null))).1 =
          .error (.session (.completed "s")) ∧
        (service.perform .none (.call "s" .back)).1 = .error (.session (.completed "s")) := by
  refine ⟨by decide +kernel, rfl, _, rfl, rfl, rfl, rfl⟩

end Service

end Questionnaire
