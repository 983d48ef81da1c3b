/-
**How many self-loops a path holds in a row.**

The count of self-loops keeps a respondent from answering a block for ever, and it is set to zero
when the respondent goes back.  The path keeps what it held before, so that the self-loops that were
recorded before a return and those that are recorded after it may stand in it in a row, more of them
than the limit.  What holds is that no more than the limit are recorded in a row between one return
and the next, and that every return can add as many to them once more.

Main definitions:

* `Questionnaire.LoopsAtMost` — **a path holds at most so many self-loops in a row**;
* `Questionnaire.LoopsWithin` — the same with a bound of its own for the end of the path, which is
  the invariant;
* `Questionnaire.Session.Recording`, `Questionnaire.Session.Stretching` — the invariant for the
  whole path, and for what answers alone have added to it.

Main results:

* `Questionnaire.LoopsWithin.concat`, `Questionnaire.LoopsWithin.of_cut` — what an answer and a
  return do to the bounds;
* `Questionnaire.Session.recorded_loops_are_bounded_along_runs` — **between returns no more
  self-loops than the limit are recorded in a row, and each return allows as many again**;
* `Questionnaire.Session.undone_loops_stay_recorded` — the limit itself does not bound the path.
-/

import Questionnaire.Proofs.Session.SelfLoops

set_option autoImplicit false

namespace Questionnaire

/-! ### Self-loops of a path -/

section Path

variable {base limit loops more : Nat} {path : List String} {block last target : String}

/-- **A path holds at most so many self-loops in a row**: where a block stands in it several times
in a row, each time but the first is a self-loop. -/
def LoopsAtMost (bound : Nat) (path : List String) : Prop :=
  ∀ block count, List.replicate (count + 1) block <:+: path → count ≤ bound

/-- **The self-loops of a path, of which some may be older**: `base` bounds the older ones, `limit`
those in a row that may have come to them, and `loops` those that have come to them at the end. -/
structure LoopsWithin (base limit loops : Nat) (path : List String) : Prop where
  loopsAtMost : LoopsAtMost (base + limit) path
  at_end : ∀ block count, List.replicate (count + 1) block <:+ path → count ≤ base + loops

theorem replicate_suffix_concat_iff {count : Nat} :
    List.replicate (count + 1) block <:+ path ++ [last] ↔
      block = last ∧ List.replicate count block <:+ path := by
  rw [List.replicate_succ', List.suffix_concat_iff]
  constructor
  · rintro (h | ⟨others, h, hsuffix⟩)
    · simp at h
    · obtain ⟨rfl, heq⟩ := List.append_inj' h rfl
      exact ⟨List.singleton_inj.1 heq, hsuffix⟩
  · rintro ⟨rfl, hsuffix⟩
    exact .inr ⟨_, rfl, hsuffix⟩

namespace LoopsWithin

/-- A single block is no self-loop. -/
theorem singleton (limit loops : Nat) (block : String) : LoopsWithin 0 limit loops [block] := by
  have hzero {other : String} {count : Nat} (h : List.replicate (count + 1) other <:+: [block]) :
      count = 0 := by
    simpa using h.length_le
  refine ⟨fun other count h => ?_, fun other count h => ?_⟩
  · rw [hzero h]
    exact Nat.zero_le _
  · rw [hzero h.isInfix]
    exact Nat.zero_le _

/-- **A path goes on to a block**, and if it is the last block once more, there is one self-loop
more at the end. -/
theorem concat (h : LoopsWithin base limit loops (path ++ [last])) (hmore : more ≤ limit)
    (hloop : target = last → more = loops + 1) :
    LoopsWithin base limit more (path ++ [last] ++ [target]) := by
  have hend : ∀ block count, List.replicate (count + 1) block <:+ path ++ [last] ++ [target] →
      count ≤ base + more := by
    intro block count hsuffix
    obtain ⟨htarget, hshorter⟩ := replicate_suffix_concat_iff.1 hsuffix
    cases count with
    | zero => exact Nat.zero_le _
    | succ count =>
        -- the block stood at the end before, one time less
        obtain ⟨hlast, -⟩ := replicate_suffix_concat_iff.1 hshorter
        have hbefore := h.at_end block count hshorter
        have hstep := hloop (htarget.symm.trans hlast)
        omega
  refine ⟨?_, hend⟩
  intro block count hwithin
  rcases List.infix_concat_iff.1 hwithin with hsuffix | hwithin
  · have hbound := hend block count hsuffix
    omega
  · exact h.loopsAtMost block count hwithin

/-- **A path is cut back**, and all self-loops that it holds are older ones from then on. -/
theorem of_cut (h : LoopsWithin base limit loops path) {shorter : List String}
    (hcut : shorter <+: path) : LoopsWithin (base + limit) limit 0 shorter where
  loopsAtMost := by
    intro block count hwithin
    have hbound := h.loopsAtMost block count (hwithin.trans hcut.isInfix)
    omega
  at_end := fun block count hsuffix =>
    h.loopsAtMost block count (hsuffix.isInfix.trans hcut.isInfix)

end LoopsWithin

end Path

namespace Session

variable {graph : Graph} {limit : UInt32} {session next : Session} {answer : Value}

/-! ### Self-loops along a run -/

/-- An answer lets a stretch of the path that ends at the current block go on. -/
theorem loopsWithin_of_submit {base : Nat} {stretch : List String} (hlimit : limit < 4294967295)
    (hle : session.selfLoops ≤ limit)
    (h : LoopsWithin base limit.toNat session.selfLoops.toNat (stretch ++ [session.current]))
    (hsubmit : session.submit limit answer = .ok next) :
    LoopsWithin base limit.toNat next.selfLoops.toNat
      (stretch ++ [session.current] ++ [next.current]) := by
  have hmake : session.make limit (.answer answer) = .ok next := hsubmit
  refine h.concat (UInt32.le_iff_toNat_le.1 (selfLoops_le_of_make hmake)) fun hloop => ?_
  rw [toNat_selfLoops_of_submit hlimit hle hsubmit, if_pos hloop]

/-- **The self-loops of the whole path**: those that it held at a return are older ones. -/
structure Recording (limit : UInt32) (steps : List Step) (session : Session) : Prop where
  loops : LoopsWithin (limit.toNat * steps.countP fun step => step.move.isBack) limit.toNat
    session.selfLoops.toNat session.path
  le_limit : session.selfLoops ≤ limit

namespace Recording

theorem of_opening (limit : UInt32) (id : String) (graph : Graph) :
    Recording limit [] (opening id graph) where
  loops := .singleton limit.toNat 0 graph.start
  le_limit := UInt32.zero_le

theorem of_make {steps : List Step} (h : Recording limit steps session)
    (hlimit : limit < 4294967295) {move : Move} (hmake : session.make limit move = .ok next) :
    Recording limit (steps ++ [⟨move, session.current, next.current⟩]) next := by
  refine ⟨?_, selfLoops_le_of_make hmake⟩
  rw [List.countP_append, List.countP_singleton]
  cases move with
  | answer value =>
      rw [path, history_of_submit hmake]
      exact loopsWithin_of_submit hlimit h.le_limit h.loops hmake
  | back =>
      have hcut : next.path <+: session.path := by
        rw [path_of_back hmake]
        exact List.prefix_append _ _
      rw [selfLoops_of_back hmake]
      exact h.loops.of_cut hcut

end Recording

/-- **What answers have added to the path** since a session: the block at which it stood and those
that followed, with a bound on their self-loops that knows of no older ones. -/
structure Stretching (limit : UInt32) (first : Session) (stretch : List String)
    (session : Session) : Prop where
  history_eq : session.history = first.history ++ stretch
  begins : (stretch ++ [session.current]).head? = some first.current
  loops : LoopsWithin 0 limit.toNat session.selfLoops.toNat (stretch ++ [session.current])
  le_limit : session.selfLoops ≤ limit

namespace Stretching

theorem refl (hle : session.selfLoops ≤ limit) : Stretching limit session [] session where
  history_eq := (List.append_nil _).symm
  begins := rfl
  loops := .singleton limit.toNat _ session.current
  le_limit := hle

theorem of_submit {first : Session} {stretch : List String}
    (h : Stretching limit first stretch session) (hlimit : limit < 4294967295)
    (hsubmit : session.submit limit answer = .ok next) :
    Stretching limit first (stretch ++ [session.current]) next where
  history_eq := by
    rw [history_of_submit hsubmit, path, h.history_eq, List.append_assoc]
  begins := by
    rw [List.head?_append_of_ne_nil _ (List.append_ne_nil_of_right_ne_nil _ (List.cons_ne_nil _ _))]
    exact h.begins
  loops := loopsWithin_of_submit hlimit h.le_limit h.loops hsubmit
  le_limit := by
    have hmake : session.make limit (.answer answer) = .ok next := hsubmit
    exact selfLoops_le_of_make hmake

/-- Moves of which only answers succeed add a stretch to the path. -/
theorem of_run (hlimit : limit < 4294967295) (hle : session.selfLoops ≤ limit) (moves : List Move)
    (hanswers : ∀ move ∈ session.taken limit moves, move.isAnswer = true) :
    ∃ stretch, Stretching limit session stretch (session.run limit moves) := by
  rw [← map_move_steps] at hanswers
  have hmoves := List.forall_mem_map.1 hanswers
  revert hmoves
  refine steps_induction (P := fun steps current =>
    (∀ step ∈ steps, step.move.isAnswer = true) →
      ∃ stretch, Stretching limit session stretch current) ?_ (fun _ => ⟨[], refl hle⟩) moves
  intro steps current next move ih hmake hsteps
  obtain ⟨stretch, hstretch⟩ := ih fun step hstep => hsteps step (List.mem_append_left _ hstep)
  cases move with
  | answer value => exact ⟨_, hstretch.of_submit hlimit hmake⟩
  | back =>
      have hback := hsteps ⟨.back, current.current, next.current⟩ (by simp)
      cases hback

end Stretching

/-- **Between returns no more self-loops than the limit are recorded in a row, and each return
allows as many again.**  The path of a session holds at most so many in a row as the limit says, for
the moves before the first return that succeeded and for those after each of them; and what answers
have recorded since any earlier point of the run, with no return among them, keeps to the limit
itself. -/
theorem recorded_loops_are_bounded_along_runs {settings : ReviewSettings}
    (hvalid : (graph.review settings).isValid = true) (conduct : Conduct)
    (hlimit : conduct.selfLoopLimit < 4294967295) (id : String) :
    ∃ first, Session.start conduct id graph = .ok first ∧
      (∀ moves : List Move,
        LoopsAtMost
          (conduct.selfLoopLimit.toNat *
            ((first.taken conduct.selfLoopLimit moves).countP Move.isBack + 1))
          (first.run conduct.selfLoopLimit moves).path) ∧
      ∀ earlier later : List Move,
        (∀ move ∈ (first.run conduct.selfLoopLimit earlier).taken conduct.selfLoopLimit later,
          move.isAnswer = true) →
        ∃ recorded, (first.run conduct.selfLoopLimit (earlier ++ later)).path =
            (first.run conduct.selfLoopLimit earlier).history ++ recorded ∧
          recorded.head? = some (first.run conduct.selfLoopLimit earlier).current ∧
          LoopsAtMost conduct.selfLoopLimit.toNat recorded := by
  obtain ⟨hstart, hreached⟩ := Reached.exists_start hvalid conduct id
  refine ⟨opening id graph, hstart, fun moves => ?_, fun earlier later hanswers => ?_⟩
  · have hrecording := steps_induction (P := Recording conduct.selfLoopLimit)
      (fun h hmake => h.of_make hlimit hmake) (.of_opening _ id graph) moves
    rw [← map_move_steps, List.countP_map, Nat.mul_succ]
    exact hrecording.loops.loopsAtMost
  · have hle := (hreached earlier).selfLoops_le
    obtain ⟨stretch, hstretch⟩ := Stretching.of_run hlimit hle later hanswers
    rw [← run_append] at hstretch
    refine ⟨_, ?_, hstretch.begins, ?_⟩
    · rw [path, hstretch.history_eq, List.append_assoc]
    · simpa using hstretch.loops.loopsAtMost

/-- In the survey `Graph.retry` the path of a run with one return holds at most two self-loops in a
row, at the limit of one. -/
theorem recorded_loops_are_bounded_along_runs_retry :
    ((Graph.retry.review .standard).isValid = true ∧
      Conduct.standard.selfLoopLimit < 4294967295) ∧
    ∃ first, Session.start .standard "s" Graph.retry = .ok first ∧
      (∀ moves : List Move,
        LoopsAtMost ((1 : UInt32).toNat * ((first.taken 1 moves).countP Move.isBack + 1))
          (first.run 1 moves).path) ∧
      ∀ earlier later : List Move,
        (∀ move ∈ (first.run 1 earlier).taken 1 later, move.isAnswer = true) →
        ∃ recorded, (first.run 1 (earlier ++ later)).path =
            (first.run 1 earlier).history ++ recorded ∧
          recorded.head? = some (first.run 1 earlier).current ∧
          LoopsAtMost (1 : UInt32).toNat recorded :=
  have hvalid := Graph.isValid_review_iff.2 Graph.faults_retry
  have hlimit : Conduct.standard.selfLoopLimit < 4294967295 := by decide
  ⟨⟨hvalid, hlimit⟩, recorded_loops_are_bounded_along_runs hvalid .standard hlimit "s"⟩

/-! ### More self-loops than the limit -/

/-- The answer on which the survey `Graph.retry` asks its question once more. -/
def again : Move := .answer (.text "again")

/-- The answer "again" leads back to the question of `Graph.retry`, whatever the count. -/
theorem leadsBack_again (hgraph : session.graph = Graph.retry)
    (hcurrent : session.current = "ask") : session.LeadsBack (.text "again") := by
  obtain ⟨block, hblock⟩ : ∃ block, block = Graph.retry.blocks.head Graph.retry.blocks_ne_nil :=
    ⟨_, rfl⟩
  have hfound : session.graph.block? session.current = some block := by
    rw [hgraph, hcurrent, hblock]
    rfl
  have hopen : block.isFinal = false := by rw [hblock]; rfl
  have haccept : block.kind.accept (.text "again") = .ok (some (.text "again")) := by
    rw [hblock]; rfl
  have hnext : block.next =
      some (.conditional [⟨⟨"reply", .equals (.text "again")⟩, "ask"⟩] "end") := by rw [hblock]; rfl
  refine ⟨block, _, _, hfound, hopen, haccept, hnext, ?_⟩
  -- the condition of the rule reads the answer that was just stored
  have hstored : storeAnswer session.bindings block (some (.text "again")) =
      session.bindings.insert "reply" (.text "again") := by rw [hblock]; rfl
  simp [hstored, hcurrent, Transition.decide, Transition.decideFrom, Condition.holds,
    Predicate.holdsOf, Decision.target]

/-- No count is above the greatest number, so that with this limit the question of `Graph.retry` is
asked once more whatever the count. -/
theorem exists_submit_again (hgraph : session.graph = Graph.retry)
    (hcurrent : session.current = "ask") :
    ∃ next, session.submit 4294967295 (.text "again") = .ok next ∧ next.graph = Graph.retry ∧
      next.current = "ask" := by
  rcases submit_of_leadsBack 4294967295 (leadsBack_again hgraph hcurrent) with
    ⟨hover, -⟩ | ⟨-, next, hsubmit, hgraph', hcurrent', -⟩
  · have hle : session.selfLoops + 1 ≤ 4294967295 :=
      UInt32.le_iff_toNat_le.2 (Nat.le_of_lt_succ (session.selfLoops + 1).toNat_lt)
    exact absurd hover (UInt32.not_lt.2 hle)
  · exact ⟨next, hsubmit, hgraph'.trans hgraph, hcurrent'.trans hcurrent⟩

/-- With the greatest number for a limit every answer of a row of answers "again" is recorded. -/
theorem path_run_again (count : Nat) (hgraph : session.graph = Graph.retry)
    (hcurrent : session.current = "ask") :
    (session.run 4294967295 (List.replicate count again)).path =
      session.path ++ List.replicate count "ask" := by
  induction count generalizing session with
  | zero => simp
  | succ count ih =>
      obtain ⟨next, hsubmit, hgraph', hcurrent'⟩ := exists_submit_again hgraph hcurrent
      have hmake : session.make 4294967295 again = .ok next := hsubmit
      have hpath : next.path = session.path ++ ["ask"] := by
        rw [path, history_of_submit hsubmit, hcurrent']
      rw [List.replicate_succ, run_cons, after_of_make hmake, ih hgraph' hcurrent', hpath,
        List.replicate_succ, List.append_assoc, List.singleton_append]

/-- **The limit itself does not bound the path.**  With a limit of two, the question of
`Graph.retry` is recorded four times in a row when the second of two self-loops is taken back and two
more follow.  With the greatest number for a limit no return is needed, since the count starts again
from zero. -/
theorem undone_loops_stay_recorded :
    (Graph.retry.review .standard).isValid = true ∧
    (∀ limit, Session.start ⟨.standard, limit⟩ "s" Graph.retry = .ok (opening "s" Graph.retry)) ∧
    ¬ LoopsAtMost (2 : UInt32).toNat
      ((opening "s" Graph.retry).run 2 [again, again, .back, again, again]).path ∧
    ¬ LoopsAtMost (4294967295 : UInt32).toNat
      ((opening "s" Graph.retry).run 4294967295 (List.replicate 4294967296 again)).path := by
  refine ⟨Graph.isValid_review_iff.2 Graph.faults_retry,
    fun limit => start_of_faults_eq_nil Graph.faults_retry _ "s", fun h => ?_, fun h => ?_⟩
  · have hpath : ((opening "s" Graph.retry).run 2 [again, again, .back, again, again]).path =
        List.replicate (3 + 1) "ask" := by rfl
    rw [hpath] at h
    exact absurd (h "ask" 3 (List.infix_refl _)) (by decide)
  · have hpath := @path_run_again (opening "s" Graph.retry) 4294967296 rfl rfl
    rw [hpath] at h
    exact absurd (h "ask" 4294967296 (List.infix_refl _)) (by decide)

end Session

end Questionnaire
