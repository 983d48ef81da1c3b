/-
**What the count of self-loops counts.**

A session keeps one number against blocks that lead to themselves for ever: it goes up by one when
an answer leads back to the current block, and to zero when an answer leads elsewhere or the
respondent goes back.  Here the number is read off what has happened, the record of the moves that
were not refused: it is how many of the answers since the last return led, one after another up to
the last of them, from a block to itself.  From this it follows when exactly an answer is refused
for leading to the current block once too often, and that the number never overflows.

Main definitions:

* `Questionnaire.Step`, `Questionnaire.Session.steps` — **the record of a run**: the moves that were
  not refused, each with the blocks between which it led;
* `Questionnaire.answersSinceReturn`, `Questionnaire.trailingLoops` — the answers of a record since
  the last return, and how many self-loops stand at their end;
* `Questionnaire.Session.LeadsBack` — an answer leads from the current block back to it;
* `Questionnaire.Session.Counting`, `Questionnaire.Session.Guarded` — the invariant, and what it
  comes to for a session.

Main results:

* `Questionnaire.Session.steps_induction` — what every successful move keeps of the record and the
  session, every run keeps;
* `Questionnaire.Session.toNat_add_one_iff` — only the greatest word cannot go up by one;
* `Questionnaire.Session.Counting.of_make` — every successful move keeps the invariant;
* `Questionnaire.Session.submit_of_leadsBack` — what an answer that leads back comes to;
* `Questionnaire.Session.endlessLoop_iff` — when an answer is refused for leading back once too
  often;
* `Questionnaire.Session.selfLoops_are_counted_along_runs` — **along every run the count is exact
  and the guard fires exactly at its limit**.
-/

import Mathlib.Data.List.DropRight
import Questionnaire.Proofs.Session.Path

set_option autoImplicit false

namespace Questionnaire

/-! ### The record of a run -/

/-- A move that was not refused, with the block at which it was made and the one to which it led. -/
structure Step where
  move : Move
  source : String
  target : String

/-- Whether a step leads from a block to itself. -/
def Step.isLoop (step : Step) : Bool := step.source == step.target

/-- The answers at the end of a record, as far back as the last return. -/
def answersSinceReturn (steps : List Step) : List Step :=
  steps.rtakeWhile fun step => step.move.isAnswer

/-- **How many self-loops stand at the end** of the answers since the last return. -/
def trailingLoops (steps : List Step) : Nat :=
  ((answersSinceReturn steps).rtakeWhile Step.isLoop).length

@[simp] theorem trailingLoops_nil : trailingLoops [] = 0 := rfl

/-- A return leaves no self-loops behind it. -/
theorem trailingLoops_concat_of_back (steps : List Step) {step : Step}
    (hback : step.move.isAnswer = false) : trailingLoops (steps ++ [step]) = 0 := by
  have hnone : answersSinceReturn (steps ++ [step]) = [] :=
    List.rtakeWhile_concat_neg _ steps step (by simp [hback])
  simp [trailingLoops, hnone]

/-- An answer adds to the self-loops at the end, or ends them. -/
theorem trailingLoops_concat_of_answer (steps : List Step) {step : Step}
    (hanswer : step.move.isAnswer = true) :
    trailingLoops (steps ++ [step]) = if step.isLoop then trailingLoops steps + 1 else 0 := by
  have hsince : answersSinceReturn (steps ++ [step]) = answersSinceReturn steps ++ [step] :=
    List.rtakeWhile_concat_pos _ steps step hanswer
  rw [trailingLoops, hsince, List.rtakeWhile_concat]
  split
  · rw [List.length_append, List.length_singleton, trailingLoops]
  · rfl

namespace Session

variable {graph : Graph} {limit : UInt32} {session next : Session} {answer : Value}

/-- **The record of a run**: its moves that were not refused, in order. -/
def steps (limit : UInt32) (session : Session) : List Move → List Step
  | [] => []
  | move :: moves =>
    match session.make limit move with
    | .ok next => ⟨move, session.current, next.current⟩ :: steps limit next moves
    | .error _ => steps limit session moves

theorem steps_of_ok {move : Move} (h : session.make limit move = .ok next) (moves : List Move) :
    session.steps limit (move :: moves) =
      ⟨move, session.current, next.current⟩ :: next.steps limit moves := by
  rw [steps, h]

theorem steps_of_error {move : Move} {error : SessionError}
    (h : session.make limit move = .error error) (moves : List Move) :
    session.steps limit (move :: moves) = session.steps limit moves := by
  rw [steps, h]

/-- The moves of a record are those that were not refused. -/
theorem map_move_steps (limit : UInt32) (session : Session) (moves : List Move) :
    (session.steps limit moves).map Step.move = session.taken limit moves := by
  induction moves generalizing session with
  | nil => rfl
  | cons move moves ih =>
      cases hmake : session.make limit move with
      | ok next => rw [steps_of_ok hmake, taken_of_ok hmake, List.map_cons, ih next]
      | error error => rw [steps_of_error hmake, taken_of_error hmake, ih session]

/-- **What every successful move keeps of the record and the session, every run keeps.** -/
theorem steps_induction {P : List Step → Session → Prop}
    (step : ∀ {steps : List Step} {session next : Session} {move : Move}, P steps session →
      session.make limit move = .ok next →
      P (steps ++ [⟨move, session.current, next.current⟩]) next)
    (start : P [] session) (moves : List Move) :
    P (session.steps limit moves) (session.run limit moves) := by
  -- the record grows at its end while the moves are taken from the front
  suffices h : ∀ before, P before session →
      P (before ++ session.steps limit moves) (session.run limit moves) from h [] start
  clear start
  induction moves generalizing session with
  | nil =>
      intro before h
      simpa [steps] using h
  | cons move moves ih =>
      intro before h
      rw [run_cons]
      cases hmake : session.make limit move with
      | ok next =>
          rw [after_of_make hmake, steps_of_ok hmake, List.append_cons]
          exact ih _ (step h hmake)
      | error error =>
          rw [after, hmake, steps_of_error hmake]
          exact ih before h

/-! ### The count -/

/-- **Only the greatest word cannot go up by one.** -/
theorem toNat_add_one_iff (count : UInt32) :
    (count + 1).toNat = count.toNat + 1 ↔ count ≠ 4294967295 := by
  have hmax : (4294967295 : UInt32).toNat = 4294967295 := rfl
  constructor
  · rintro hsucc rfl
    exact absurd hsucc (by decide)
  · intro hne
    have hsize : count.toNat < 4294967296 := count.toNat_lt
    have hbelow : count.toNat ≠ 4294967295 := by
      intro heq
      exact hne (UInt32.toNat_inj.1 (heq.trans hmax.symm))
    rw [UInt32.toNat_add, UInt32.toNat_one]
    exact Nat.mod_eq_of_lt (by omega)

/-- A count that is at most the limit can go up by one, unless the limit is the greatest number. -/
theorem toNat_add_one {count : UInt32} (hlimit : limit < 4294967295) (hle : count ≤ limit) :
    (count + 1).toNat = count.toNat + 1 := by
  refine (toNat_add_one_iff count).2 ?_
  rintro rfl
  exact absurd hlimit (UInt32.not_lt.2 hle)

/-- No successful move leaves a count above the limit. -/
theorem selfLoops_le_of_make {move : Move} (h : session.make limit move = .ok next) :
    next.selfLoops ≤ limit := by
  cases made h with
  | moved _ _ _ _ _ hloops => exact UInt32.not_lt.1 hloops
  | returned => exact UInt32.zero_le

/-- The count after an accepted answer: one more if the answer led back to the current block. -/
theorem toNat_selfLoops_of_submit (hlimit : limit < 4294967295) (hle : session.selfLoops ≤ limit)
    (h : session.submit limit answer = .ok next) :
    next.selfLoops.toNat =
      if next.current = session.current then session.selfLoops.toNat + 1 else 0 := by
  have hcases := submission limit session answer
  rw [h] at hcases
  cases hcases with
  | moved hblock =>
      have hid := (Graph.mem_of_block? hblock).2
      simp only [moveTo, selfLoopsAt, hid]
      split
      · exact toNat_add_one hlimit hle
      · rfl

/-- Going back sets the count to zero. -/
theorem selfLoops_of_back (h : session.back = .ok next) : next.selfLoops = 0 := by
  have hcases := returning session
  rw [h] at hcases
  cases hcases with
  | returned => rfl

/-- The count of a reached session is within the limit. -/
theorem Reached.selfLoops_le {conduct : Conduct} (h : Reached conduct graph session) :
    session.selfLoops ≤ conduct.selfLoopLimit :=
  h.induction (fun _ _ => UInt32.zero_le)
    (fun _ hmake => selfLoops_le_of_make hmake)

/-- **The count is the number of self-loops at the end of the record**, and it is within the
limit. -/
structure Counting (limit : UInt32) (steps : List Step) (session : Session) : Prop where
  count_eq : session.selfLoops.toNat = trailingLoops steps
  le_limit : session.selfLoops ≤ limit

namespace Counting

theorem of_opening (limit : UInt32) (id : String) (graph : Graph) :
    Counting limit [] (opening id graph) where
  count_eq := rfl
  le_limit := UInt32.zero_le

/-- **Every successful move keeps the invariant.** -/
theorem of_make {steps : List Step} (h : Counting limit steps session)
    (hlimit : limit < 4294967295) {move : Move} (hmake : session.make limit move = .ok next) :
    Counting limit (steps ++ [⟨move, session.current, next.current⟩]) next := by
  refine ⟨?_, selfLoops_le_of_make hmake⟩
  cases move with
  | answer value =>
      rw [trailingLoops_concat_of_answer steps rfl,
        toNat_selfLoops_of_submit hlimit h.le_limit hmake, h.count_eq]
      simp only [Step.isLoop, beq_iff_eq, eq_comm (a := session.current)]
  | back =>
      rw [trailingLoops_concat_of_back steps rfl, selfLoops_of_back hmake]
      rfl

end Counting

/-! ### The guard -/

/-- An answer is accepted by the current block, which is not final and then leads back to itself. -/
def LeadsBack (session : Session) (answer : Value) : Prop :=
  ∃ block stored transition, session.graph.block? session.current = some block ∧
    block.isFinal = false ∧ block.kind.accept answer = .ok stored ∧
    block.next = some transition ∧
    (transition.decide (storeAnswer session.bindings block stored)).target = session.current

/-- **What an answer that leads back comes to**: it is refused if the count would go above the
limit, else the session stands at the same block with the count gone up. -/
theorem submit_of_leadsBack (limit : UInt32) (h : session.LeadsBack answer) :
    (limit < session.selfLoops + 1 ∧ session.submit limit answer =
      .error (.endlessLoop session.current (session.selfLoops + 1))) ∨
    (¬ limit < session.selfLoops + 1 ∧ ∃ next, session.submit limit answer = .ok next ∧
      next.graph = session.graph ∧ next.current = session.current ∧
      next.selfLoops = session.selfLoops + 1) := by
  obtain ⟨block, stored, transition, hblock, hopen, haccept, hnext, htarget⟩ := h
  have hid : block.id = session.current := (Graph.mem_of_block? hblock).2
  have hback : session.destination block stored transition = block.id := htarget.trans hid.symm
  have hhas : session.graph.has (session.destination block stored transition) = true := by
    rw [hback, hid, Graph.has, hblock]
    rfl
  have hcount : session.selfLoopsAt block (session.destination block stored transition) =
      session.selfLoops + 1 := if_pos hback
  rw [submit_eq_arrive hblock hopen haccept hnext, arrive, if_pos hhas, hcount]
  by_cases hover : limit < session.selfLoops + 1
  · rw [if_pos hover, hid]
    exact .inl ⟨hover, rfl⟩
  · rw [if_neg hover]
    exact .inr ⟨hover, _, rfl, rfl, htarget, hcount⟩

/-- Only an answer that leads back is refused for leading back. -/
theorem leadsBack_of_endlessLoop {id : String} {loops : UInt32}
    (h : session.submit limit answer = .error (.endlessLoop id loops)) :
    session.LeadsBack answer := by
  have hcases := submission limit session answer
  rw [h] at hcases
  cases hcases with
  | @looping block stored transition hblock hopen haccept hnext _ hloops =>
      have hid : block.id = session.current := (Graph.mem_of_block? hblock).2
      refine ⟨block, stored, transition, hblock, hopen, haccept, hnext, ?_⟩
      by_cases htarget : session.destination block stored transition = block.id
      · exact htarget.trans hid
      · -- a count of zero is above no limit
        rw [selfLoopsAt, if_neg htarget] at hloops
        exact absurd hloops UInt32.not_lt_zero

/-- **When an answer is refused for leading back once too often**: it leads back, and the count has
reached the limit. -/
theorem endlessLoop_iff (hlimit : limit < 4294967295) (hle : session.selfLoops ≤ limit)
    {id : String} {loops : UInt32} :
    session.submit limit answer = .error (.endlessLoop id loops) ↔
      session.LeadsBack answer ∧ session.selfLoops = limit ∧ id = session.current ∧
        loops = limit + 1 := by
  have hsucc := toNat_add_one hlimit hle
  constructor
  · intro hrefused
    have hback := leadsBack_of_endlessLoop hrefused
    rcases submit_of_leadsBack limit hback with ⟨hover, hsubmit⟩ | ⟨-, next, hsubmit, -⟩
    · rw [hsubmit] at hrefused
      cases hrefused
      have hfull : session.selfLoops = limit := by
        rw [UInt32.lt_iff_toNat_lt, hsucc] at hover
        rw [UInt32.le_iff_toNat_le] at hle
        exact UInt32.toNat_inj.1 (by omega)
      exact ⟨hback, hfull, rfl, by rw [hfull]⟩
    · rw [hsubmit] at hrefused
      cases hrefused
  · rintro ⟨hback, hfull, rfl, rfl⟩
    have hover : limit < session.selfLoops + 1 := by
      rw [UInt32.lt_iff_toNat_lt, hsucc, hfull]
      exact Nat.lt_succ_self _
    rcases submit_of_leadsBack limit hback with ⟨-, hsubmit⟩ | ⟨hunder, -⟩
    · rw [hsubmit, hfull]
    · exact absurd hover hunder

/-- **What the count and the guard of a session come to**, given the record of the run that led to
it: the count is the number of self-loops at the end of the record, it is within the limit and can
go up by one, and an answer is refused for leading back once too often exactly when it leads back
and the count is the limit. -/
structure Guarded (limit : UInt32) (steps : List Step) (session : Session) : Prop
    extends Counting limit steps session where
  no_overflow : (session.selfLoops + 1).toNat = session.selfLoops.toNat + 1
  refuses_iff : ∀ answer block loops,
    session.submit limit answer = .error (.endlessLoop block loops) ↔
      (session.LeadsBack answer ∧ session.selfLoops = limit) ∧ block = session.current ∧
        loops.toNat = limit.toNat + 1

theorem Counting.guarded {steps : List Step} (h : Counting limit steps session)
    (hlimit : limit < 4294967295) : Guarded limit steps session where
  toCounting := h
  no_overflow := toNat_add_one hlimit h.le_limit
  refuses_iff := by
    intro answer block loops
    have hloops : loops.toNat = limit.toNat + 1 ↔ loops = limit + 1 := by
      rw [← toNat_add_one hlimit (UInt32.le_refl limit), UInt32.toNat_inj]
    rw [endlessLoop_iff hlimit h.le_limit, hloops, and_assoc]

/-- **Along every run the count of self-loops is exact and the guard fires exactly at its limit**,
on a survey that passes a review and with any limit but the greatest number. -/
theorem selfLoops_are_counted_along_runs {settings : ReviewSettings}
    (hvalid : (graph.review settings).isValid = true) (conduct : Conduct)
    (hlimit : conduct.selfLoopLimit < 4294967295) (id : String) :
    ∃ first, Session.start conduct id graph = .ok first ∧ ∀ moves : List Move,
      Guarded conduct.selfLoopLimit (first.steps conduct.selfLoopLimit moves)
        (first.run conduct.selfLoopLimit moves) := by
  refine ⟨opening id graph, (Reached.exists_start hvalid conduct id).1, fun moves => ?_⟩
  have hcounting := steps_induction (P := Counting conduct.selfLoopLimit)
    (fun h hmake => h.of_make hlimit hmake) (.of_opening _ id graph) moves
  exact hcounting.guarded hlimit

/-- In the survey `Graph.retry`, whose question leads to itself on one answer, the count is exact
and the guard fires exactly at the limit of one. -/
theorem selfLoops_are_counted_along_runs_retry :
    ((Graph.retry.review .standard).isValid = true ∧
      Conduct.standard.selfLoopLimit < 4294967295) ∧
    ∃ first, Session.start .standard "s" Graph.retry = .ok first ∧ ∀ moves : List Move,
      Guarded Conduct.standard.selfLoopLimit (first.steps Conduct.standard.selfLoopLimit moves)
        (first.run Conduct.standard.selfLoopLimit moves) :=
  have hvalid := Graph.isValid_review_iff.2 Graph.faults_retry
  have hlimit : Conduct.standard.selfLoopLimit < 4294967295 := by decide
  ⟨⟨hvalid, hlimit⟩, selfLoops_are_counted_along_runs hvalid .standard hlimit "s"⟩

/-- The second answer in a row that leads back is one too many at the limit of one. -/
example : ((opening "s" Graph.retry).run 1 [.answer (.text "again")]).submit 1 (.text "again") =
    .error (.endlessLoop "ask" 2) := rfl

end Session

end Questionnaire
