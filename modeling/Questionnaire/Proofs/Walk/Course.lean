/-
**The course of a scripted walk.**

A walk whose answers come from a script needs nobody at the terminal, so one turn of it is a
function of the walk alone: either it is the last, because the walk is finished or fails, or it
takes the walk through the current block and leaves a visit behind it, with the answer that the
script supplied.  This module says once what a turn that goes on consists of, and that the run of a
walk is its course, turn by turn.

Main definitions:

* `Questionnaire.Script.give?` — what a script gives to a block, which is nothing for a message;
* `Questionnaire.Visit` — a block that a scripted walk went through, with the answer it was given;
* `Questionnaire.Walk.Turn` — **what a turn that goes on consists of**;
* `Questionnaire.Walk.turn?`, `Questionnaire.Walk.course` — one turn, and as many as there are up to
  a number;
* `Questionnaire.Walk.visits`, `Questionnaire.Walk.after` — the blocks that they go through, and
  where the walk stands behind them.

Main results:

* `Questionnaire.Walk.turn?_eq_some_iff` — the description of a turn is complete;
* `Questionnaire.Walk.visits_add`, `Questionnaire.Walk.after_add` — a course goes on where it was
  left;
* `Questionnaire.Walk.run_eq_cutShort_iff`, `Questionnaire.Walk.run_eq_finished_iff` — **what a run
  comes to is read off its course**.
-/

import Questionnaire.CommandLine.Command
import Questionnaire.Proofs.Session.Run

set_option autoImplicit false

namespace Questionnaire

/-- What a script gives to a block, with the script that is left: nothing for a message, and its
next answer for any other block. -/
def Script.give? (script : Script) (block : Block) : Option (Option Json × Script) :=
  match block.kind with
  | .message => some (none, script)
  | _ => (script.next? block.id).map fun taken => (some taken.1, taken.2)

theorem Script.give?_of_message (script : Script) {block : Block} (h : block.kind = .message) :
    script.give? block = some (none, script) := by
  rw [Script.give?, h]

theorem Script.give?_of_asked (script : Script) {block : Block} (h : block.kind ≠ .message) :
    script.give? block =
      (script.next? block.id).map fun taken => (some taken.1, taken.2) := by
  unfold Script.give?
  split
  · rename_i hmessage
    exact absurd hmessage h
  · rfl

/-- A block that a scripted walk went through, with the answer that the script supplied, if the
block was not a message. -/
structure Visit where
  block : String
  supplied : Option Json

namespace Visit

/-- The answer that was submitted at a visit; a message is acknowledged with null. -/
def answer (visit : Visit) : Value := (visit.supplied.map Value.ofJson).getD .null

/-- What a visit shows of its answer. -/
def echo (visit : Visit) : String :=
  (visit.supplied.map fun answer => s!"  <- {answer.compact}\n").getD ""

/-- What a visit shows: the block, and the answer that was supplied. -/
def shown (graph : Graph) (visit : Visit) : String :=
  ((graph.block? visit.block).map Block.show).getD "" ++ visit.echo

end Visit

namespace Walk

variable {walk next : Walk} {visit : Visit} {script : Script}

/-! ### One turn -/

/-- **What a turn that goes on consists of**: the script has something to give to the current block,
and the session accepts it. -/
inductive Turn (walk : Walk) : Visit → Walk → Prop where
  | through {script rest : Script} {block : Block} {supplied : Option Json} {session : Session}
      (hscript : walk.answering = .scripted script)
      (hblock : walk.session.graph.block? walk.session.current = some block)
      (hgive : script.give? block = some (supplied, rest))
      (hsubmit : walk.session.submit walk.selfLoopLimit (Visit.answer ⟨block.id, supplied⟩) =
        .ok session) :
      Turn walk ⟨block.id, supplied⟩ { walk with session, answering := .scripted rest }

/-- One turn of a scripted walk, if it goes on: the visit, and the walk behind it. -/
def turn? (walk : Walk) : Option (Visit × Walk) :=
  match walk.answering, walk.session.graph.block? walk.session.current with
  | .scripted script, some block =>
    match script.give? block with
    | none => none
    | some (supplied, rest) =>
      match walk.session.submit walk.selfLoopLimit (Visit.answer ⟨block.id, supplied⟩) with
      | .error _ => none
      | .ok session =>
        some (⟨block.id, supplied⟩, { walk with session, answering := .scripted rest })
  | _, _ => none

/-- **The description of a turn is complete.** -/
theorem turn?_eq_some_iff : walk.turn? = some (visit, next) ↔ Turn walk visit next := by
  constructor
  · intro h
    unfold turn? at h
    split at h
    · rename_i script block hscript hblock
      split at h
      · cases h
      · rename_i supplied rest hgive
        split at h
        · cases h
        · rename_i session hsubmit
          cases h
          exact .through hscript hblock hgive hsubmit
    · cases h
  · rintro ⟨hscript, hblock, hgive, hsubmit⟩
    simp only [turn?, hscript, hblock, hgive, hsubmit]

/-- A visit is a visit of the block at which the walk stands. -/
theorem Turn.block_eq (h : Turn walk visit next) : visit.block = walk.session.current := by
  obtain ⟨-, hblock, -, -⟩ := h
  exact (Graph.mem_of_block? hblock).2

/-- A turn is a move of the session. -/
theorem Turn.make (h : Turn walk visit next) :
    walk.session.make walk.selfLoopLimit (.answer visit.answer) = .ok next.session := by
  obtain ⟨-, -, -, hsubmit⟩ := h
  exact hsubmit

/-- A turn leaves a scripted walk on the same survey, with the same limit. -/
theorem Turn.keeps (h : Turn walk visit next) :
    next.session.graph = walk.session.graph ∧ next.selfLoopLimit = walk.selfLoopLimit ∧
      ∃ script, next.answering = .scripted script := by
  obtain ⟨-, hgraph, -⟩ := Session.make_keeps h.make
  cases h with
  | through => exact ⟨hgraph, rfl, _, rfl⟩

/-- What a scripted walk takes for a block. -/
theorem take_eq (block : Block) (hscript : walk.answering = .scripted script)
    (line : Option String) :
    walk.take block line =
      match script.give? block with
      | none => .error (.noScriptedAnswer block.id)
      | some (supplied, rest) =>
        let visit : Visit := ⟨block.id, supplied⟩
        .ok ⟨visit.answer, visit.echo, .scripted rest⟩ := by
  unfold take
  rw [hscript]
  dsimp only
  split
  · rename_i hmessage
    rw [script.give?_of_message hmessage]
    rfl
  · rename_i hasked
    rw [script.give?_of_asked hasked]
    cases script.next? block.id <;> rfl

/-- What an answer comes to that a scripted walk has taken: the session accepts it, or the walk
fails. -/
theorem reply_of_take {block : Block} {line : Option String} {answer : Value} {shown : String}
    (htake : walk.take block line = .ok ⟨answer, shown, .scripted script⟩) :
    walk.reply block line =
      ⟨shown,
        match walk.session.submit walk.selfLoopLimit answer with
        | .ok session => .ok { walk with session, answering := .scripted script }
        | .error error => .error (.session error)⟩ := by
  simp only [reply, htake, isTyped]
  cases walk.session.submit walk.selfLoopLimit answer with
  | ok session => rfl
  | error error => cases error <;> rfl

/-- A scripted walk is asked no more than to show its block. -/
theorem question_eq {block : Block} (hscript : walk.answering = .scripted script)
    (hblock : walk.session.graph.block? walk.session.current = some block) :
    walk.question = .ok (block, block.show) := by
  simp [question, Session.currentBlock, hblock, isTyped, hscript]

/-- **A turn that goes on is the first turn of a run.** -/
theorem run_of_turn (h : Turn walk visit next) (turns : Nat) (lines : List String) :
    walk.run (turns + 1) lines =
      (visit.shown walk.session.graph ++ (next.run turns lines.tail).1,
        (next.run turns lines.tail).2) := by
  have hopen := Session.isComplete_of_make h.make
  obtain ⟨hscript, hblock, hgive, hsubmit⟩ := h
  rename_i script rest block supplied session
  have htake := take_eq block hscript lines.head?
  rw [hgive] at htake
  have hreply := reply_of_take htake
  rw [hsubmit] at hreply
  have hid : block.id = walk.session.current := (Graph.mem_of_block? hblock).2
  have hshown : Visit.shown walk.session.graph ⟨block.id, supplied⟩ =
      block.show ++ Visit.echo ⟨block.id, supplied⟩ := by
    simp [Visit.shown, hid, hblock]
  rw [run, hopen, question_eq hscript hblock, hshown]
  simp [hreply]

/-- **A walk that does not go on ends with its next turn**: it is finished if its session is
complete, and fails otherwise. -/
theorem run_of_turn?_eq_none (hscript : walk.answering = .scripted script)
    (h : walk.turn? = none) (turns : Nat) (lines : List String) :
    if walk.session.isComplete then walk.run (turns + 1) lines = (walk.summary, .finished)
    else ∃ error, (walk.run (turns + 1) lines).2 = .failed error := by
  split
  · rename_i hcomplete
    rw [run, if_pos hcomplete]
  · rename_i hopen
    rw [run, if_neg hopen]
    cases hblock : walk.session.graph.block? walk.session.current with
    | none =>
        simp only [question, Session.currentBlock, hblock]
        exact ⟨_, rfl⟩
    | some block =>
        have htake := take_eq block hscript lines.head?
        rw [question_eq hscript hblock]
        dsimp only
        cases hgive : script.give? block with
        | none =>
            rw [hgive] at htake
            simp only [reply, htake]
            exact ⟨_, rfl⟩
        | some given =>
            obtain ⟨supplied, rest⟩ := given
            rw [hgive] at htake
            rw [reply_of_take htake]
            cases hsubmit : walk.session.submit walk.selfLoopLimit
                (Visit.answer ⟨block.id, supplied⟩) with
            | error error => exact ⟨_, rfl⟩
            | ok session =>
                -- such an answer would have taken the walk on
                have hturn := turn?_eq_some_iff.2 (.through hscript hblock hgive hsubmit)
                rw [h] at hturn
                cases hturn

/-! ### Many turns -/

/-- **The course of a scripted walk** over at most so many turns: the visits, and the walk as it
stands behind them. -/
def course : Nat → Walk → List Visit × Walk
  | 0, walk => ([], walk)
  | turns + 1, walk =>
    match walk.turn? with
    | none => ([], walk)
    | some (visit, next) =>
      let (visits, last) := course turns next
      (visit :: visits, last)

/-- The blocks that a walk goes through in at most so many turns. -/
def visits (turns : Nat) (walk : Walk) : List Visit := (walk.course turns).1

/-- Where a walk stands after at most so many turns. -/
def after (turns : Nat) (walk : Walk) : Walk := (walk.course turns).2

@[simp] theorem visits_zero (walk : Walk) : walk.visits 0 = [] := rfl

@[simp] theorem after_zero (walk : Walk) : walk.after 0 = walk := rfl

theorem visits_of_turn?_eq_none (h : walk.turn? = none) (turns : Nat) : walk.visits turns = [] := by
  cases turns with
  | zero => rfl
  | succ turns => rw [visits, course, h]

theorem after_of_turn?_eq_none (h : walk.turn? = none) (turns : Nat) : walk.after turns = walk := by
  cases turns with
  | zero => rfl
  | succ turns => rw [after, course, h]

theorem visits_of_turn? (h : walk.turn? = some (visit, next)) (turns : Nat) :
    walk.visits (turns + 1) = visit :: next.visits turns := by
  rw [visits, course, h]
  rfl

theorem after_of_turn? (h : walk.turn? = some (visit, next)) (turns : Nat) :
    walk.after (turns + 1) = next.after turns := by
  rw [after, course, h]
  rfl

/-- **The visits of a course go on where they were left.** -/
theorem visits_add (turns more : Nat) (walk : Walk) :
    walk.visits (turns + more) = walk.visits turns ++ (walk.after turns).visits more := by
  induction turns generalizing walk with
  | zero => rw [Nat.zero_add, visits_zero, after_zero, List.nil_append]
  | succ turns ih =>
      cases hturn : walk.turn? with
      | none =>
          rw [visits_of_turn?_eq_none hturn, visits_of_turn?_eq_none hturn,
            after_of_turn?_eq_none hturn, visits_of_turn?_eq_none hturn, List.nil_append]
      | some went =>
          rw [Nat.add_right_comm, visits_of_turn? hturn, visits_of_turn? hturn,
            after_of_turn? hturn, ih, List.cons_append]

/-- **A course goes on where it was left.** -/
theorem after_add (turns more : Nat) (walk : Walk) :
    walk.after (turns + more) = (walk.after turns).after more := by
  induction turns generalizing walk with
  | zero => rw [Nat.zero_add, after_zero]
  | succ turns ih =>
      cases hturn : walk.turn? with
      | none =>
          rw [after_of_turn?_eq_none hturn, after_of_turn?_eq_none hturn,
            after_of_turn?_eq_none hturn]
      | some went => rw [Nat.add_right_comm, after_of_turn? hturn, after_of_turn? hturn, ih]

/-- **What every turn keeps of the visits and the walk, every course keeps.** -/
theorem course_induction {P : List Visit → Walk → Prop}
    (turn : ∀ {visits : List Visit} {walk next : Walk} {visit : Visit}, P visits walk →
      Turn walk visit next → P (visits ++ [visit]) next)
    (start : P [] walk) (turns : Nat) : P (walk.visits turns) (walk.after turns) := by
  -- the visits grow at their end while the turns are taken from the front
  suffices h : ∀ before, P before walk → P (before ++ walk.visits turns) (walk.after turns) from
    h [] start
  clear start
  induction turns generalizing walk with
  | zero =>
      intro before h
      rwa [visits_zero, after_zero, List.append_nil]
  | succ turns ih =>
      intro before h
      cases hturn : walk.turn? with
      | none =>
          rwa [visits_of_turn?_eq_none hturn, after_of_turn?_eq_none hturn, List.append_nil]
      | some went =>
          rw [visits_of_turn? hturn, after_of_turn? hturn, List.append_cons]
          exact ih _ (turn h (turn?_eq_some_iff.1 hturn))

theorem length_visits_le (turns : Nat) (walk : Walk) : (walk.visits turns).length ≤ turns := by
  induction turns generalizing walk with
  | zero => exact Nat.le_refl 0
  | succ turns ih =>
      cases hturn : walk.turn? with
      | none =>
          rw [visits_of_turn?_eq_none hturn]
          exact Nat.zero_le _
      | some went =>
          rw [visits_of_turn? hturn, List.length_cons]
          exact Nat.succ_le_succ (ih _)

/-! ### Runs -/

/-- **A walk is opened exactly on a survey without faults**, and begins with the opening of its
session. -/
theorem openWalk_eq_ok_iff {settings : Settings} {graph : Graph} {answering : Answering}
    {id : String} :
    openWalk settings graph answering id = .ok walk ↔
      graph.faults = [] ∧
        walk = ⟨Session.opening id graph, settings.conduct.selfLoopLimit, answering⟩ := by
  unfold openWalk
  cases hstart : Session.start settings.conduct id graph with
  | error error =>
      have hfaults : graph.faults ≠ [] := by
        intro hnil
        rw [Session.start_of_faults_eq_nil hnil] at hstart
        cases hstart
      simp [hfaults]
  | ok session =>
      obtain ⟨hfaults, rfl⟩ := Session.start_eq_ok_iff.1 hstart
      simp [hfaults, eq_comm]

/-- What a walk is opened with. -/
theorem of_openWalk {settings : Settings} {graph : Graph} {answering : Answering} {id : String}
    (hopen : openWalk settings graph answering id = .ok walk) :
    walk.session = Session.opening id graph ∧
      walk.selfLoopLimit = settings.conduct.selfLoopLimit ∧ walk.answering = answering := by
  obtain ⟨-, rfl⟩ := openWalk_eq_ok_iff.1 hopen
  exact ⟨rfl, rfl, rfl⟩

/-- **A run is cut short exactly if its walk goes on through all its turns.** -/
theorem run_eq_cutShort_iff (hscript : walk.answering = .scripted script) (turns : Nat)
    (lines : List String) :
    (walk.run turns lines).2 = .cutShort ↔ (walk.visits turns).length = turns := by
  induction turns generalizing walk script lines with
  | zero => simp [run]
  | succ turns ih =>
      cases hturn : walk.turn? with
      | none =>
          have hends := run_of_turn?_eq_none hscript hturn turns lines
          rw [visits_of_turn?_eq_none hturn]
          split at hends
          · simp [hends]
          · obtain ⟨error, hfailed⟩ := hends
            simp [hfailed]
      | some went =>
          obtain ⟨visit, next⟩ := went
          have h := turn?_eq_some_iff.1 hturn
          obtain ⟨-, -, rest, hrest⟩ := h.keeps
          rw [run_of_turn h, visits_of_turn? hturn, List.length_cons, Nat.succ_inj]
          exact ih hrest lines.tail

/-- **A run is finished exactly if its walk comes to a complete session with a turn to spare**, and
then it has shown the visits and a summary. -/
theorem run_eq_finished_iff (hscript : walk.answering = .scripted script) (turns : Nat)
    (lines : List String) (shown : String) :
    walk.run turns lines = (shown, .finished) ↔
      (walk.visits turns).length < turns ∧ (walk.after turns).session.isComplete = true ∧
        shown = String.join ((walk.visits turns).map (Visit.shown walk.session.graph)) ++
          (walk.after turns).summary := by
  induction turns generalizing walk script lines shown with
  | zero => simp [run]
  | succ turns ih =>
      cases hturn : walk.turn? with
      | none =>
          have hends := run_of_turn?_eq_none hscript hturn turns lines
          rw [visits_of_turn?_eq_none hturn, after_of_turn?_eq_none hturn]
          split at hends
          · rename_i hcomplete
            simp [hends, hcomplete, eq_comm]
          · rename_i hopen
            obtain ⟨error, hfailed⟩ := hends
            have hne : walk.run (turns + 1) lines ≠ (shown, .finished) := by
              intro h
              rw [h] at hfailed
              cases hfailed
            simp [hne, hopen]
      | some went =>
          obtain ⟨visit, next⟩ := went
          have h := turn?_eq_some_iff.1 hturn
          obtain ⟨hgraph, -, rest, hrest⟩ := h.keeps
          rw [run_of_turn h, visits_of_turn? hturn, after_of_turn? hturn, List.length_cons,
            Nat.succ_lt_succ_iff, List.map_cons, String.join_cons, ← hgraph]
          constructor
          · intro hrun
            obtain ⟨rfl, hending⟩ := Prod.mk.inj hrun
            obtain ⟨hlt, hcomplete, hshown⟩ :=
              (ih hrest lines.tail (next.run turns lines.tail).1).1 (Prod.ext rfl hending)
            refine ⟨hlt, hcomplete, ?_⟩
            rw [hshown, String.append_assoc]
          · rintro ⟨hlt, hcomplete, rfl⟩
            rw [(ih hrest lines.tail _).2 ⟨hlt, hcomplete, rfl⟩, String.append_assoc]

end Walk

end Questionnaire
