/-
**What a service keeps while its store fails.**

A request touches the table of live sessions and the store in an order of its own, and each call of
the store may fail.  The two stay consistent nevertheless: a session is saved before it is entered
into the table and leaves the table before it is removed from the store, so that at every time the
store holds at least the sessions of the table, and holds each as the respondent's moves have left
it.

Main definitions:

* `Questionnaire.Service.Sound` — **the invariant**: the table, the store and the sessions that
  runs lead to agree;
* `Questionnaire.Service.Kept` — what this comes to for a live session.

Main results:

* `Questionnaire.Service.Sound.perform` — every request keeps the invariant, whatever fails;
* `Questionnaire.Service.perform_of_not_concerns` — a request leaves alone all sessions but its own;
* `Questionnaire.Service.Sound.load_perform` — a request leaves of a session what was there or what a
  move makes of it;
* `Questionnaire.Service.live_sessions_are_kept` — **a live session is never lost and never half
  moved**.
-/

import Questionnaire.Proofs.Reach
import Questionnaire.Proofs.Service.Request

set_option autoImplicit false

namespace Questionnaire

namespace Service

variable {conduct : Conduct} {outage : Outage} {service : Service} {id : String}
  {session : Session}

/-- **The table, the store and the sessions that runs lead to agree**: the registered surveys carry
their own reviews, every snapshot carries the id under which it is stored, and every session of the
table has a snapshot, which runs on its survey lead to. -/
structure Sound (conduct : Conduct) (service : Service) : Prop where
  conduct_eq : service.conduct = conduct
  reviewed : ∀ graphId registration, service.registrations.get? graphId = some registration →
    registration.report = registration.graph.review conduct.review
  labelled : ∀ id snapshot, service.store.get? id = some snapshot → snapshot.session = id
  live : ∀ id graph, service.live.get? id = some graph → ∃ snapshot,
    service.store.get? id = some snapshot ∧ Session.Reached conduct graph (snapshot.restore graph)

namespace Sound

theorem empty (conduct : Conduct) : Sound conduct (Service.empty conduct) where
  conduct_eq := rfl
  reviewed := by
    intro graphId registration h
    cases h
  labelled := by
    intro id snapshot h
    cases h
  live := by
    intro id graph h
    cases h

/-- A session that is loaded carries its own id, and runs on its survey lead to it. -/
theorem of_load (h : Sound conduct service) (hload : service.load outage id = .ok session) :
    session.id = id ∧ service.live.get? id = some session.graph ∧
      Session.Reached conduct session.graph session := by
  obtain ⟨-, graph, snapshot, hlive, hstore, rfl⟩ := load_eq_ok_iff.1 hload
  obtain ⟨snapshot', hstore', hreached⟩ := h.live id graph hlive
  rw [hstore] at hstore'
  cases hstore'
  exact ⟨h.labelled id snapshot hstore, hlive, hreached⟩

theorem unlist (h : Sound conduct service) (id : String) : Sound conduct (service.unlist id) where
  conduct_eq := h.conduct_eq
  reviewed := h.reviewed
  labelled := h.labelled
  live := by
    intro other graph hlive
    rw [Service.unlist, Keyed.get?_erase] at hlive
    split at hlive
    · cases hlive
    · exact h.live other graph hlive

/-- A snapshot may leave the store once its session has left the table. -/
theorem dropStored (h : Sound conduct service) (hlive : service.live.get? id = none) :
    Sound conduct (service.dropStored id) where
  conduct_eq := h.conduct_eq
  reviewed := h.reviewed
  labelled := by
    intro other snapshot hstore
    rw [Service.dropStored, Keyed.get?_erase] at hstore
    split at hstore
    · cases hstore
    · exact h.labelled other snapshot hstore
  live := by
    intro other graph hother
    obtain ⟨snapshot, hstore, hreached⟩ := h.live other graph hother
    refine ⟨snapshot, ?_, hreached⟩
    rw [Service.dropStored, Keyed.get?_erase, if_neg, hstore]
    rintro rfl
    rw [show service.live.get? id = some graph from hother] at hlive
    cases hlive

/-- A session is saved under its own id. -/
theorem labelled_putStored (h : Sound conduct service) (session : Session) (id : String)
    (snapshot : Snapshot) (hstore : (service.putStored session).store.get? id = some snapshot) :
    snapshot.session = id := by
  rw [Service.putStored, Keyed.get?_insert] at hstore
  split at hstore
  · rename_i heq
    cases hstore
    exact heq
  · exact h.labelled id snapshot hstore

/-- A session may be saved if runs lead to it on the survey that the table has for it, if any. -/
theorem putStored (h : Sound conduct service)
    (hreached : ∀ graph, service.live.get? session.id = some graph →
      session.graph = graph ∧ Session.Reached conduct graph session) :
    Sound conduct (service.putStored session) where
  conduct_eq := h.conduct_eq
  reviewed := h.reviewed
  labelled := h.labelled_putStored session
  live := by
    intro other graph hlive
    rw [Service.putStored, Keyed.get?_insert]
    split
    · rename_i heq
      subst heq
      obtain ⟨rfl, hsession⟩ := hreached graph hlive
      exact ⟨session.snapshot, rfl, hsession⟩
    · exact h.live other graph hlive

/-- A session that runs lead to may be saved and entered into the table, even in place of another. -/
theorem enter (h : Sound conduct service)
    (hreached : Session.Reached conduct session.graph session) :
    Sound conduct ((service.putStored session).enlist session.id session.graph) where
  conduct_eq := h.conduct_eq
  reviewed := h.reviewed
  labelled := h.labelled_putStored session
  live := by
    intro other graph hlive
    rw [enlist, Keyed.get?_insert] at hlive
    rw [enlist, Service.putStored, Keyed.get?_insert]
    -- the session is saved under the very id under which it enters the table
    by_cases heq : session.id = other
    · rw [if_pos heq] at hlive ⊢
      cases hlive
      exact ⟨session.snapshot, rfl, hreached⟩
    · rw [if_neg heq] at hlive ⊢
      exact h.live other graph hlive

/-- **A call keeps the invariant**, whatever fails during it. -/
theorem answer (h : Sound conduct service) (outage : Outage) (id : String) (call : Call) :
    Sound conduct (service.answer outage id call).2 := by
  have hcases := answering outage service id call
  generalize service.answer outage id call = result at hcases
  cases hcases with
  | absent | unloaded | lost | stays | unsaved => exact h
  | moves hload hattempt =>
      rw [h.conduct_eq] at hattempt
      obtain ⟨hid, hlive, hreached⟩ := h.of_load hload
      obtain ⟨move, hmake⟩ := Session.exists_make_of_attempt hattempt
      obtain ⟨hid', hgraph, -⟩ := Session.make_keeps hmake
      refine h.putStored fun graph hgraph' => ?_
      rw [hid', hid, hlive] at hgraph'
      cases hgraph'
      exact ⟨hgraph, hreached.of_make hmake⟩
  | ends | terminated => exact (h.unlist id).dropStored (live_unlist_self service id)
  | unremoved | aborted | unterminated => exact h.unlist id

/-- **A start keeps the invariant**, whether or not the session can be saved. -/
theorem start (h : Sound conduct service) (outage : Outage) (graphId freshId : String) :
    Sound conduct (service.perform outage (.start graphId freshId)).2 := by
  have hcases := starting outage service graphId freshId
  generalize service.perform outage (.start graphId freshId) = result at hcases
  cases hcases with
  | unknown | refused | blockless | unsaved => exact h
  | @started registration session block hgraph hstart hblock hworks =>
      rw [h.reviewed graphId registration hgraph] at hstart
      have hreached : Session.Reached conduct registration.graph session := .of_start hstart
      obtain ⟨-, rfl⟩ := Session.start_eq_ok_iff.1 hstart
      exact h.enter hreached

/-- **Every request keeps the invariant**, whatever fails during it. -/
theorem perform (h : Sound conduct service) (outage : Outage) (request : Request) :
    Sound conduct (service.perform outage request).2 := by
  cases request with
  | register graphId graph =>
      exact {
        conduct_eq := h.conduct_eq
        reviewed := by
          intro other registration hregistered
          rw [Service.perform, register, Keyed.get?_insert] at hregistered
          split at hregistered
          · cases hregistered
            rw [h.conduct_eq]
          · exact h.reviewed other registration hregistered
        labelled := h.labelled
        live := h.live }
  | start graphId freshId => exact h.start outage graphId freshId
  | call id call => exact h.answer outage id call

/-- The invariant holds after any requests under any failures. -/
theorem run (conduct : Conduct) (requests : List (Outage × Request)) :
    Sound conduct ((Service.empty conduct).run requests) :=
  run_induction (fun _ outage request h => h.perform outage request) (empty conduct) requests

end Sound

/-! ### What a request leaves alone -/

/-- A call on one session leaves the entries of all others alone. -/
theorem answer_of_ne (h : Sound conduct service) {other : String} (hne : other ≠ id)
    (outage : Outage) (call : Call) :
    (service.answer outage other call).2.live.get? id = service.live.get? id ∧
      (service.answer outage other call).2.store.get? id = service.store.get? id := by
  have hcases := answering outage service other call
  generalize service.answer outage other call = result at hcases
  cases hcases with
  | absent | unloaded | lost | stays | unsaved => exact ⟨rfl, rfl⟩
  | moves hload hattempt =>
      obtain ⟨move, hmake⟩ := Session.exists_make_of_attempt hattempt
      have hid := (Session.make_keeps hmake).1.trans (h.of_load hload).1
      exact ⟨rfl, by rw [putStored, Keyed.get?_insert, hid, if_neg hne]⟩
  | ends | terminated =>
      simp only [unlist, dropStored, Keyed.get?_erase, if_neg hne, and_self]
  | unremoved | aborted | unterminated =>
      simp only [unlist, Keyed.get?_erase, if_neg hne, and_self]

/-- A start leaves the entries of all sessions but the new one alone. -/
theorem start_of_ne {freshId : String} (hne : freshId ≠ id) (service : Service) (outage : Outage)
    (graphId : String) :
    (service.perform outage (.start graphId freshId)).2.live.get? id = service.live.get? id ∧
      (service.perform outage (.start graphId freshId)).2.store.get? id =
        service.store.get? id := by
  have hcases := starting outage service graphId freshId
  generalize service.perform outage (.start graphId freshId) = result at hcases
  cases hcases with
  | unknown | refused | blockless | unsaved => exact ⟨rfl, rfl⟩
  | started _ hstart =>
      have hid := Session.id_of_startReviewed hstart
      simp only [enlist, putStored, Keyed.get?_insert, hid, if_neg hne, and_self]

/-- **A request leaves alone the entries of all sessions that it does not concern.** -/
theorem perform_of_not_concerns (h : Sound conduct service) (outage : Outage) {request : Request}
    (hother : ¬ request.Concerns id) :
    (service.perform outage request).2.live.get? id = service.live.get? id ∧
      (service.perform outage request).2.store.get? id = service.store.get? id := by
  cases request with
  | register => exact ⟨rfl, rfl⟩
  | start graphId freshId => exact start_of_ne hother service outage graphId
  | call other call => exact answer_of_ne h hother outage call

/-! ### Live sessions -/

/-- With a store that can load, the sessions of the table are the ones that can be loaded. -/
theorem Sound.exists_load (h : Sound conduct service) (hlive : service.live.has id = true)
    (hworks : outage.load = false) : ∃ session, service.load outage id = .ok session := by
  obtain ⟨graph, hgraph⟩ := Option.isSome_iff_exists.1 hlive
  obtain ⟨snapshot, hstore, -⟩ := h.live id graph hgraph
  exact ⟨snapshot.restore graph, load_eq_ok_iff.2 ⟨hworks, graph, snapshot, hgraph, hstore, rfl⟩⟩

/-- A live session that can be loaded is not unknown to any call. -/
theorem Sound.answer_ne_unknownSession (h : Sound conduct service)
    (hlive : service.live.has id = true) (hworks : outage.load = false) (call : Call)
    (other : String) : (service.answer outage id call).1 ≠ .error (.unknownSession other) := by
  obtain ⟨session, hload⟩ := h.exists_load hlive hworks
  have hfound := load_eq_ok_iff.1 hload
  obtain ⟨-, graph, snapshot, hgraph, hstore, -⟩ := hfound
  -- a session by itself does not know of ids that are unknown
  have hattempt_ne {session : Session} {aftermath : Aftermath} :
      session.attempt service.conduct.selfLoopLimit call ≠
        (.error (.unknownSession other), aftermath) := by
    intro hattempt
    rcases Session.attempt_error hattempt with ⟨_, _, h, -⟩ | ⟨_, h, -⟩ <;> cases h
  have hcases := answering outage service id call
  generalize service.answer outage id call = result at hcases
  intro hunknown
  cases hcases with
  | absent hlive' =>
      rw [hgraph] at hlive'
      cases hlive'
  | lost _ hstore' =>
      rw [hstore] at hstore'
      cases hstore'
  | unloaded | unsaved | unremoved | terminated | unterminated => cases hunknown
  | stays _ hattempt | moves _ hattempt | ends _ hattempt =>
      dsimp only at hunknown
      rw [hunknown] at hattempt
      exact hattempt_ne hattempt
  | aborted _ hattempt =>
      cases hunknown
      exact hattempt_ne hattempt

/-- A call on a session leaves of it, while it lives, what was there or what the session moved
to. -/
theorem Sound.attempt_of_load_answer (h : Sound conduct service) {next : Session} (call : Call)
    (hafter : (service.answer outage id call).2.load .none id = .ok next) :
    service.load .none id = .ok next ∨ ∃ session reply, service.load .none id = .ok session ∧
      session.attempt service.conduct.selfLoopLimit call = (reply, .moves next) := by
  have hcases := answering outage service id call
  generalize service.answer outage id call = result at hcases hafter
  cases hcases with
  | absent | unloaded | lost | stays | unsaved => exact .inl hafter
  | @moves _ session moved reply hload hattempt =>
      obtain ⟨-, hbefore⟩ := load_eq_ok_iff.1 hload
      obtain ⟨move, hmake⟩ := Session.exists_make_of_attempt hattempt
      obtain ⟨hid, hgraph, -⟩ := Session.make_keeps hmake
      obtain ⟨hid', hlive, -⟩ := h.of_load hload
      obtain ⟨-, graph, snapshot, hlive', hstore, rfl⟩ := load_eq_ok_iff.1 hafter
      -- what is loaded now is the snapshot that was just saved, on the survey of before
      rw [Service.putStored, Keyed.get?_insert, if_pos (hid.trans hid')] at hstore
      rw [Service.putStored, hlive, ← hgraph] at hlive'
      cases hlive'
      cases hstore
      exact .inr ⟨session, reply, load_eq_ok_iff.2 ⟨rfl, hbefore⟩, hattempt⟩
  | ends | terminated | unremoved | aborted | unterminated =>
      obtain ⟨-, graph, snapshot, hlive, -⟩ := load_eq_ok_iff.1 hafter
      have hgone := live_unlist_self service id
      rw [show (service.unlist id).live.get? id = some graph from hlive] at hgone
      cases hgone

/-- A call on a session leaves of it, while it lives, what was there or what a move makes of it. -/
theorem Sound.load_answer (h : Sound conduct service) {next : Session} (call : Call)
    (hbefore : service.load .none id = .ok session)
    (hafter : (service.answer outage id call).2.load .none id = .ok next) :
    next = session ∨ ∃ move, session.make conduct.selfLoopLimit move = .ok next := by
  rcases h.attempt_of_load_answer call hafter with hload | ⟨other, reply, hload, hattempt⟩
  · exact .inl (load_unique hload hbefore)
  · cases load_unique hload hbefore
    obtain ⟨move, hmake⟩ := Session.exists_make_of_attempt hattempt
    exact .inr ⟨move, h.conduct_eq ▸ hmake⟩

/-- **A request leaves of a session, while it lives, what was there or what a move makes of it.** -/
theorem Sound.load_perform (h : Sound conduct service) {request : Request} {next : Session}
    (hstart : ∀ graphId, request ≠ .start graphId id)
    (hbefore : service.load .none id = .ok session)
    (hafter : (service.perform outage request).2.load .none id = .ok next) :
    next = session ∨ ∃ move, session.make conduct.selfLoopLimit move = .ok next := by
  by_cases hconcerns : request.Concerns id
  · cases request with
    | register => cases hconcerns
    | start graphId freshId =>
        cases hconcerns
        exact absurd rfl (hstart graphId)
    | call other call =>
        cases hconcerns
        exact h.load_answer call hbefore hafter
  · obtain ⟨hlive, hstore⟩ := perform_of_not_concerns h outage hconcerns
    rw [load_congr hlive hstore] at hafter
    exact .inl (load_unique hafter hbefore)

/-- **What a service keeps of a live session.**  Its survey has no faults, the store has a snapshot
of its own for it, runs on the survey lead to the session, and the session counts the blocks that
can be visited.  While the store can load, the session is shown and known to every call; and what
is shown after one more request is what was shown before or what one move makes of it. -/
structure Kept (conduct : Conduct) (service : Service) (id : String) (graph : Graph) : Prop where
  faults_eq_nil : graph.faults = []
  stored : ∃ snapshot, service.store.get? id = some snapshot ∧ snapshot.session = id ∧
    Session.Reached conduct graph (snapshot.restore graph) ∧
    snapshot.reachableBlocks = {id | graph.Visitable id}.ncard
  shown : ∀ outage : Outage, outage.load = false →
    ∃ session, service.session outage id = .ok session ∧ Session.Reached conduct graph session
  known : ∀ outage : Outage, outage.load = false → ∀ call other,
    (service.answer outage id call).1 ≠ .error (.unknownSession other)
  whole : ∀ outage request session next, (∀ graphId, request ≠ .start graphId id) →
    service.session .none id = .ok session →
    (service.perform outage request).2.session .none id = .ok next →
    next = session ∨ ∃ move, session.make conduct.selfLoopLimit move = .ok next

/-- **A live session is never lost and never half moved**, after any requests during each of which
any calls of the store may fail. -/
theorem live_sessions_are_kept (conduct : Conduct) (requests : List (Outage × Request))
    {id : String} {graph : Graph}
    (hlive : ((Service.empty conduct).run requests).live.get? id = some graph) :
    Kept conduct ((Service.empty conduct).run requests) id graph := by
  have hsound : Sound conduct ((Service.empty conduct).run requests) := .run conduct requests
  obtain ⟨snapshot, hstore, hreached⟩ := hsound.live id graph hlive
  obtain ⟨hfaults, -, hcount⟩ := hreached.keeps
  exact {
    faults_eq_nil := hfaults
    stored := by
      refine ⟨snapshot, hstore, hsound.labelled id snapshot hstore, hreached, ?_⟩
      rw [← Graph.length_reachable, ← hcount]
      rfl
    shown := fun outage hworks =>
      ⟨_, load_eq_ok_iff.2 ⟨hworks, graph, snapshot, hlive, hstore, rfl⟩, hreached⟩
    known := by
      intro outage hworks
      exact hsound.answer_ne_unknownSession (Keyed.has_of_get? hlive) hworks
    whole := fun _ _ _ _ hstart hbefore hafter => hsound.load_perform hstart hbefore hafter }

/-- A session survives a start that is not saved, an answer that is not saved, and the end of
another session that is not removed. -/
def failures : List (Outage × Request) := [
  (.none, .register "survey" .retry),
  (⟨false, true, false⟩, .start "survey" "unsaved"),
  (.none, .start "survey" "ended"),
  (.none, .start "survey" "kept"),
  (.none, .call "kept" (.submit "ask" (.text "again"))),
  (⟨false, true, false⟩, .call "kept" .back),
  (⟨false, false, true⟩, .call "ended" (.submit "ask" (.text "enough")))]

theorem live_sessions_are_kept_failures :
    ((Service.empty .standard).run failures).live.get? "kept" = some .retry ∧
      Kept .standard ((Service.empty .standard).run failures) "kept" .retry :=
  have hlive : ((Service.empty .standard).run failures).live.get? "kept" = some .retry := by rfl
  ⟨hlive, live_sessions_are_kept .standard failures hlive⟩

end Service

end Questionnaire
