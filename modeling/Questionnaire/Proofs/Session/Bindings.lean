/-
**The last answer counts.**

An accepted answer is stored under the variable that its question declares.  Several questions may
declare one variable, a respondent may go back and answer again, and a message may declare a
variable although it stores nothing.  What stands under a variable is therefore a matter of the
whole run: it is what was stored last by an accepted answer to a question that declares it, whether
or not that answer was taken back later.

Main definitions:

* `Questionnaire.Block.declares` — whether a block is a question that declares a variable;
* `Questionnaire.Acceptance`, `Questionnaire.Session.accepted` — **the answers of a run that were
  accepted**, each with the block that asked;
* `Questionnaire.latest?` — the last of them that concerns a variable;
* `Questionnaire.Session.Grounded` — sessions in which everything stored was accepted from a block.

Main results:

* `Questionnaire.Kind.isSome_of_accept` — an accepted answer stores a value exactly at a question;
* `Questionnaire.Session.get?_bindings_after`, `Questionnaire.Session.get?_bindings_run` — what a
  variable holds after a move and after a run;
* `Questionnaire.Session.Reached.grounded` — every reached session is grounded;
* `Questionnaire.Session.last_answer_counts_along_runs` — **the last answer counts and none is
  lost**, along every run.
-/

import Mathlib.Data.List.Induction
import Questionnaire.Proofs.Basic
import Questionnaire.Proofs.Session.Run
import Questionnaire.Proofs.WellFormed

set_option autoImplicit false

namespace Questionnaire

/-! ### What an accepted answer stores -/

namespace Block

/-- Whether a block is a question that declares a variable. -/
def declares (block : Block) (name : String) : Bool :=
  block.kind.isQuestion && block.variableName == some name

theorem declares_iff {block : Block} {name : String} : block.declares name = true ↔
    block.kind.isQuestion = true ∧ block.variableName = some name := by
  rw [declares, Bool.and_eq_true, beq_iff_eq]

end Block

/-- **An accepted answer stores a value exactly at a question.** -/
theorem Kind.isSome_of_accept {kind : Kind} {answer : Value} {stored : Option Value}
    (h : kind.accept answer = .ok stored) : stored.isSome = kind.isQuestion := by
  cases kind with
  | message =>
      cases h
      rfl
  | final | unrecognized => cases h
  | textInput =>
      simp only [accept] at h
      split at h
      · cases h
      · split at h <;> cases h
        rfl
  | yesNo | video =>
      simp only [accept] at h
      split at h <;> cases h
      rfl
  | numberInput | singleChoice | multiChoice | scale | contactForm | demographics =>
      obtain ⟨_, -, rfl⟩ := map_eq_ok_iff.1 h
      rfl

/-! ### The accepted answers of a run -/

/-- An answer that was accepted, and the block that asked for it. -/
structure Acceptance where
  block : Block
  answer : Value

/-- What an accepted answer stores. -/
def Acceptance.stored? (acceptance : Acceptance) : Option Value :=
  match acceptance.block.kind.accept acceptance.answer with
  | .ok stored => stored
  | .error _ => none

theorem Acceptance.stored?_of_accept {block : Block} {answer : Value} {stored : Option Value}
    (h : block.kind.accept answer = .ok stored) : stored? ⟨block, answer⟩ = stored := by
  rw [stored?, h]

/-- **The last acceptance at a question that declares a variable.** -/
def latest? (acceptances : List Acceptance) (name : String) : Option Acceptance :=
  acceptances.reverse.find? fun acceptance => acceptance.block.declares name

theorem latest?_append (earlier later : List Acceptance) (name : String) :
    latest? (earlier ++ later) name = (latest? later name).or (latest? earlier name) := by
  rw [latest?, List.reverse_append, List.find?_append]
  rfl

theorem latest?_singleton (acceptance : Acceptance) (name : String) :
    latest? [acceptance] name =
      if acceptance.block.declares name then some acceptance else none := by
  rw [latest?, List.reverse_singleton, List.find?_singleton]

theorem mem_of_latest? {acceptances : List Acceptance} {name : String} {acceptance : Acceptance}
    (h : latest? acceptances name = some acceptance) :
    acceptance ∈ acceptances ∧ acceptance.block.declares name = true :=
  ⟨List.mem_reverse.1 (List.mem_of_find?_eq_some h), by simpa using List.find?_some h⟩

/-- There is a last acceptance for a variable as soon as there is one at all. -/
theorem isSome_latest?_iff {acceptances : List Acceptance} {name : String} :
    (latest? acceptances name).isSome = true ↔
      ∃ acceptance ∈ acceptances, acceptance.block.declares name = true := by
  simp only [latest?, List.find?_isSome, List.mem_reverse]

namespace Session

variable {graph : Graph} {limit : UInt32} {session next : Session}

/-- The acceptance that a move is, if it is an answer that leads on. -/
def acceptance? (limit : UInt32) (session : Session) : Move → Option Acceptance
  | .back => none
  | .answer value =>
    match session.submit limit value, session.graph.block? session.current with
    | .ok _, some block => some ⟨block, value⟩
    | _, _ => none

/-- **The answers of a run that were accepted**, in order, taken back later or not. -/
def accepted (limit : UInt32) (session : Session) : List Move → List Acceptance
  | [] => []
  | move :: moves =>
    (session.acceptance? limit move).toList ++ accepted limit (session.after limit move) moves

theorem accepted_concat (limit : UInt32) (session : Session) (moves : List Move) (move : Move) :
    session.accepted limit (moves ++ [move]) =
      session.accepted limit moves ++
        ((session.run limit moves).acceptance? limit move).toList := by
  induction moves generalizing session with
  | nil => simp [accepted]
  | cons first moves ih => simp only [List.cons_append, accepted, ih, run_cons, List.append_assoc]

/-- **A move is an acceptance** when it answers the block at which the session stands, the block
accepts the answer and the session moves on. -/
theorem acceptance?_eq_some_iff {move : Move} {acceptance : Acceptance} :
    session.acceptance? limit move = some acceptance ↔
      session.graph.block? session.current = some acceptance.block ∧
        move = .answer acceptance.answer ∧
        ∃ next, session.submit limit acceptance.answer = .ok next := by
  cases move with
  | back => simp [acceptance?]
  | answer value =>
      rw [acceptance?]
      constructor
      · intro h
        split at h
        · rename_i next block hsubmit hblock
          cases h
          exact ⟨hblock, rfl, next, hsubmit⟩
        · cases h
      · rintro ⟨hblock, hmove, next, hsubmit⟩
        cases hmove
        rw [hsubmit, hblock]

/-! ### What a variable holds -/

/-- **What an accepted answer leaves under a name**: what it stores, if the block is a question that
declares the name, and otherwise what was there. -/
theorem get?_storeAnswer {block : Block} {answer : Value} {stored : Option Value}
    (h : block.kind.accept answer = .ok stored) (bindings : Variables) (name : String) :
    (storeAnswer bindings block stored).get? name =
      if block.declares name then stored else bindings.get? name := by
  rw [Block.declares, ← Kind.isSome_of_accept h]
  cases stored with
  | none => cases hname : block.variableName <;> simp [storeAnswer, hname]
  | some value =>
      cases hname : block.variableName with
      | none => simp [storeAnswer, hname]
      | some own => simp [storeAnswer, hname, Keyed.get?_insert]

/-- The block of an acceptance accepted the answer, and the session stores what it accepted. -/
theorem accept_of_acceptance? {move : Move} {acceptance : Acceptance}
    (h : session.acceptance? limit move = some acceptance) :
    ∃ stored, acceptance.block.kind.accept acceptance.answer = .ok stored ∧
      (session.after limit move).bindings =
        storeAnswer session.bindings acceptance.block stored := by
  obtain ⟨hblock, rfl, next, hsubmit⟩ := acceptance?_eq_some_iff.1 h
  have hmake : session.make limit (.answer acceptance.answer) = .ok next := hsubmit
  rw [after_of_make hmake]
  cases made hmake with
  | @moved _ block stored transition hcurrent _ haccept _ _ _ =>
      -- both are the block at which the session stands
      obtain rfl : block = acceptance.block := Option.some.inj (hcurrent.symm.trans hblock)
      exact ⟨stored, haccept, rfl⟩

/-- **A move that is no acceptance changes no variable**: a refused one leaves the session as it
was, and going back keeps what was stored. -/
theorem bindings_after_of_acceptance?_eq_none {move : Move}
    (h : session.acceptance? limit move = none) :
    (session.after limit move).bindings = session.bindings := by
  cases hmake : session.make limit move with
  | error error => rw [after, hmake]
  | ok next =>
      rw [after_of_make hmake]
      cases made hmake with
      | @moved answer block _ _ hblock =>
          have haccepted : session.acceptance? limit (.answer answer) = some ⟨block, answer⟩ :=
            acceptance?_eq_some_iff.2 ⟨hblock, rfl, _, hmake⟩
          rw [h] at haccepted
          cases haccepted
      | returned => rfl

/-- **What a variable holds after a move**: what was stored, if the move is an acceptance at a
question that declares the variable, and otherwise what it held before. -/
theorem get?_bindings_after (limit : UInt32) (session : Session) (move : Move) (name : String) :
    (session.after limit move).bindings.get? name =
      match latest? (session.acceptance? limit move).toList name with
      | some acceptance => acceptance.stored?
      | none => session.bindings.get? name := by
  cases hmove : session.acceptance? limit move with
  | none => rw [bindings_after_of_acceptance?_eq_none hmove]; rfl
  | some acceptance =>
      obtain ⟨stored, haccept, hbindings⟩ := accept_of_acceptance? hmove
      rw [hbindings, get?_storeAnswer haccept, Option.toList_some, latest?_singleton,
        ← Acceptance.stored?_of_accept haccept]
      cases acceptance.block.declares name <;> rfl

/-- **A move that is no acceptance at a question changes no variable.** -/
theorem bindings_after_of_not_question {move : Move}
    (h : ∀ acceptance, session.acceptance? limit move = some acceptance →
      acceptance.block.kind.isQuestion = false) :
    (session.after limit move).bindings = session.bindings := by
  cases hmove : session.acceptance? limit move with
  | none => exact bindings_after_of_acceptance?_eq_none hmove
  | some acceptance =>
      obtain ⟨stored, haccept, hbindings⟩ := accept_of_acceptance? hmove
      -- a message is the only block that accepts an answer without being a question
      have hnone : stored = none := by
        have hsome := Kind.isSome_of_accept haccept
        rw [h _ hmove] at hsome
        exact Option.isNone_iff_eq_none.1 (Option.isSome_eq_false_iff.1 hsome)
      rw [hbindings, hnone]
      cases hname : acceptance.block.variableName <;> simp [storeAnswer, hname]

/-- **A move changes at most the variable of the current block**, which then is a question. -/
theorem declares_of_get?_after_ne {move : Move} {name : String}
    (h : (session.after limit move).bindings.get? name ≠ session.bindings.get? name) :
    ∃ block, session.graph.block? session.current = some block ∧ block.declares name = true := by
  cases hmove : session.acceptance? limit move with
  | none => exact absurd (by rw [bindings_after_of_acceptance?_eq_none hmove]) h
  | some acceptance =>
      refine ⟨acceptance.block, (acceptance?_eq_some_iff.1 hmove).1, ?_⟩
      by_contra hdeclares
      rw [get?_bindings_after, hmove, Option.toList_some, latest?_singleton, if_neg hdeclares] at h
      exact h rfl

/-- **What a variable holds after a run**: what the last acceptance at a question that declares it
stored, and without any what it held at first. -/
theorem get?_bindings_run (limit : UInt32) (session : Session) (moves : List Move) (name : String) :
    (session.run limit moves).bindings.get? name =
      match latest? (session.accepted limit moves) name with
      | some acceptance => acceptance.stored?
      | none => session.bindings.get? name := by
  -- the run is taken apart at its end, where the acceptance that counts is to be found first
  induction moves using List.reverseRecOn with
  | nil => rfl
  | append_singleton moves move ih =>
      rw [run_append, run_cons, run_nil, get?_bindings_after, accepted_concat, latest?_append]
      cases latest? ((session.run limit moves).acceptance? limit move).toList name with
      | none => exact ih
      | some acceptance => rfl

/-- No move changes the survey. -/
theorem after_graph (limit : UInt32) (session : Session) (move : Move) :
    (session.after limit move).graph = session.graph := by
  unfold after
  split
  · rename_i next hmake
    exact (make_keeps hmake).2.1
  · rfl

/-- **What was accepted along a run was accepted by a block of the survey.** -/
theorem accept_of_mem_accepted {moves : List Move} {acceptance : Acceptance}
    (h : acceptance ∈ session.accepted limit moves) :
    acceptance.block ∈ session.graph.blocks ∧
      ∃ stored, acceptance.block.kind.accept acceptance.answer = .ok stored := by
  induction moves generalizing session with
  | nil => cases h
  | cons move moves ih =>
      rcases List.mem_append.1 h with h | h
      · have hmove := Option.mem_toList.1 h
        obtain ⟨hblock, -, -⟩ := acceptance?_eq_some_iff.1 hmove
        obtain ⟨stored, haccept, -⟩ := accept_of_acceptance? hmove
        exact ⟨(Graph.mem_of_block? hblock).1, stored, haccept⟩
      · rw [← after_graph limit session move]
        exact ih h

/-- An acceptance at a question that declares a variable stores a value under it. -/
theorem accept_eq_some_of_mem_accepted {moves : List Move} {acceptance : Acceptance} {name : String}
    (h : acceptance ∈ session.accepted limit moves)
    (hdeclares : acceptance.block.declares name = true) :
    ∃ value, acceptance.block.kind.accept acceptance.answer = .ok (some value) := by
  obtain ⟨-, stored, haccept⟩ := accept_of_mem_accepted h
  have hsome : stored.isSome = true := by
    rw [Kind.isSome_of_accept haccept]
    exact (Block.declares_iff.1 hdeclares).1
  obtain ⟨value, rfl⟩ := Option.isSome_iff_exists.1 hsome
  exact ⟨value, haccept⟩

/-! ### Along runs from the start -/

/-- **Everything stored was accepted** from a block of the survey that declares its variable. -/
def Grounded (graph : Graph) (bindings : Variables) : Prop :=
  ∀ name value, bindings.get? name = some value →
    ∃ block ∈ graph.blocks, block.declares name = true ∧
      ∃ answer, block.kind.accept answer = .ok (some value)

/-- What the last acceptance for a variable stored is what the variable holds. -/
theorem get?_bindings_run_of_latest? {moves : List Move} {name : String} {acceptance : Acceptance}
    (h : latest? (session.accepted limit moves) name = some acceptance) :
    ∃ value, acceptance.block.kind.accept acceptance.answer = .ok (some value) ∧
      (session.run limit moves).bindings.get? name = some value := by
  obtain ⟨hmem, hdeclares⟩ := mem_of_latest? h
  obtain ⟨value, haccept⟩ := accept_eq_some_of_mem_accepted hmem hdeclares
  refine ⟨value, haccept, ?_⟩
  rw [get?_bindings_run, h]
  exact Acceptance.stored?_of_accept haccept

/-- From the start of a survey, what is stored comes from the last acceptance for its variable. -/
theorem exists_latest?_of_get? {id name : String} {value : Value} {moves : List Move}
    (h : ((opening id graph).run limit moves).bindings.get? name = some value) :
    ∃ acceptance, latest? ((opening id graph).accepted limit moves) name = some acceptance ∧
      acceptance.block.kind.accept acceptance.answer = .ok (some value) := by
  cases hlatest : latest? ((opening id graph).accepted limit moves) name with
  | none =>
      rw [get?_bindings_run, hlatest] at h
      cases h
  | some acceptance =>
      obtain ⟨other, haccept, hget⟩ := get?_bindings_run_of_latest? hlatest
      obtain rfl : other = value := Option.some.inj (hget.symm.trans h)
      exact ⟨acceptance, rfl, haccept⟩

/-- **Every reached session is grounded.** -/
theorem Reached.grounded {conduct : Conduct} (h : Reached conduct graph session) :
    Grounded graph session.bindings := by
  obtain ⟨id, first, moves, hstart, rfl⟩ := h
  obtain ⟨-, rfl⟩ := start_eq_ok_iff.1 hstart
  intro name value hget
  obtain ⟨acceptance, hlatest, haccept⟩ := exists_latest?_of_get? hget
  obtain ⟨hmem, hdeclares⟩ := mem_of_latest? hlatest
  exact ⟨acceptance.block, (accept_of_mem_accepted hmem).1, hdeclares, acceptance.answer, haccept⟩

/-- **The last answer counts and none is lost.**  Along every run on a survey that passes its
review:

* a variable holds something exactly when an answer was accepted at a question that declares it,
  whether or not it was taken back later;
* what it holds is what the last of these answers stored;
* every accepted answer to a question has a variable with a name to be stored under;
* a move that is no accepted answer to a question, such as an answer to a message, a refused answer
  or a move back, changes no variable, and an accepted answer changes at most the variable that the
  current block declares. -/
theorem last_answer_counts_along_runs {settings : ReviewSettings}
    (hvalid : (graph.review settings).isValid = true) (conduct : Conduct) (id : String) :
    ∃ first, Session.start conduct id graph = .ok first ∧
      ∀ moves session, first.run conduct.selfLoopLimit moves = session →
        (∀ name, (session.bindings.get? name).isSome = true ↔
          ∃ acceptance ∈ first.accepted conduct.selfLoopLimit moves,
            acceptance.block.declares name = true) ∧
        (∀ name acceptance,
          latest? (first.accepted conduct.selfLoopLimit moves) name = some acceptance →
          ∃ value, acceptance.block.kind.accept acceptance.answer = .ok (some value) ∧
            session.bindings.get? name = some value) ∧
        (∀ acceptance ∈ first.accepted conduct.selfLoopLimit moves,
          acceptance.block.kind.isQuestion = true →
          ∃ name, name ≠ "" ∧ acceptance.block.declares name = true) ∧
        ∀ move,
          ((∀ acceptance, session.acceptance? conduct.selfLoopLimit move = some acceptance →
              acceptance.block.kind.isQuestion = false) →
            (session.after conduct.selfLoopLimit move).bindings = session.bindings) ∧
          ∀ name, (session.after conduct.selfLoopLimit move).bindings.get? name ≠
              session.bindings.get? name →
            ∃ block, graph.block? session.current = some block ∧ block.declares name = true := by
  have hfaults := Graph.isValid_review_iff.1 hvalid
  have hwell := Graph.wellFormed_iff.2 hfaults
  refine ⟨opening id graph, start_of_faults_eq_nil hfaults conduct id, ?_⟩
  rintro moves _ rfl
  obtain ⟨-, hgraph, -⟩ := (Reached.of_run_opening hfaults conduct id moves).keeps
  refine ⟨fun name => ?_, fun name acceptance => get?_bindings_run_of_latest?, ?_,
    fun move => ⟨?_, ?_⟩⟩
  · rw [← isSome_latest?_iff]
    constructor
    · intro hsome
      obtain ⟨value, hget⟩ := Option.isSome_iff_exists.1 hsome
      obtain ⟨acceptance, hlatest, -⟩ := exists_latest?_of_get? hget
      rw [hlatest]
      rfl
    · intro hsome
      obtain ⟨acceptance, hlatest⟩ := Option.isSome_iff_exists.1 hsome
      obtain ⟨value, -, hget⟩ := get?_bindings_run_of_latest? hlatest
      rw [hget]
      rfl
  · intro acceptance hmem hquestion
    obtain ⟨hblock, -⟩ := accept_of_mem_accepted hmem
    obtain ⟨name, hname, hne⟩ := (hwell.wellFormed _ hblock).named hquestion
    exact ⟨name, hne, Block.declares_iff.2 ⟨hquestion, hname⟩⟩
  · exact bindings_after_of_not_question
  · intro name hchange
    have hdeclares := declares_of_get?_after_ne hchange
    rwa [hgraph] at hdeclares

end Session

/-- A round of two questions that declare one variable and a message that declares it as well. -/
def Graph.shared : Graph where
  start := "note"
  title := none
  expectedMinutes := none
  blocks := [
    { id := "note"
      kind := .message
      prompt := none
      variableName := some "reply"
      next := some (.direct "ask") },
    { id := "ask"
      kind := .textInput none
      prompt := none
      variableName := some "reply"
      next := some (.direct "confirm") },
    { id := "confirm"
      kind := .yesNo
      prompt := none
      variableName := some "reply"
      next := some (.direct "note") }]
  blocks_ne_nil := List.cons_ne_nil _ _
  nodup_ids := by decide +kernel

/-- A run through the survey `Graph.shared` in which both questions are answered, the answer to the
second is taken back, and another one is refused. -/
def Session.sharedMoves : List Move :=
  [.answer .null, .answer (.text "no"), .answer (.text "Yes"), .answer (.text "x"), .back, .back,
    .answer (.text "perhaps")]

/-- After the run `Session.sharedMoves` the variable still holds what the second question stored. -/
theorem Session.last_answer_counts_along_runs_shared :
    (Graph.shared.review .standard).isValid = true ∧
    ∃ first, Session.start .standard "s" Graph.shared = .ok first ∧
      ∃ (acceptance : Acceptance) (value : Value), acceptance.block.id = "confirm" ∧
        acceptance.answer.text? = some "Yes" ∧
        acceptance.block.kind.accept acceptance.answer = .ok (some value) ∧
        (first.run Conduct.standard.selfLoopLimit sharedMoves).bindings.get? "reply" =
          some value := by
  have hvalid : (Graph.shared.review .standard).isValid = true := by decide +kernel
  refine ⟨hvalid, ?_⟩
  obtain ⟨first, hstart, hruns⟩ := last_answer_counts_along_runs hvalid .standard "s"
  refine ⟨first, hstart, ?_⟩
  obtain ⟨-, rfl⟩ := start_eq_ok_iff.1 hstart
  obtain ⟨-, hlatest, -⟩ := hruns sharedMoves _ rfl
  have hlast : (latest? ((opening "s" Graph.shared).accepted 1 sharedMoves) "reply").map
      (fun acceptance => (acceptance.block.id, acceptance.answer.text?)) =
      some ("confirm", some "Yes") := by
    decide +kernel
  obtain ⟨acceptance, hfound, heq⟩ := Option.map_eq_some_iff.1 hlast
  obtain ⟨value, haccept, hget⟩ := hlatest _ _ hfound
  exact ⟨acceptance, value, (Prod.mk.inj heq).1, (Prod.mk.inj heq).2, haccept, hget⟩

end Questionnaire
