/-
**The two forms of a script.**

A script lists its answers in the order in which they are asked for, or keeps them by block.  What
counts for a walk is only which answer each block is given when its turn comes; so a script that
gives the same answers to the same blocks, one after another, takes the walk along the same course.
A list does so if it begins with these answers, a collection if it has each of them under its block.
Hence either form can be put in the place of the other where no block is asked twice.

Main definitions:

* `Questionnaire.asked` — the blocks of a course that were given an answer, with the answers;
* `Questionnaire.Script.Gives` — a script answers some blocks one after another;
* `Questionnaire.Walk.withScript` — a walk that goes on by another script;
* `Questionnaire.Walk.RunsAlike` — a script takes a walk from its start along the same course.

Main results:

* `Questionnaire.Script.gives_sequence_iff`, `Questionnaire.Script.gives_byBlock_iff` — what the two
  forms give;
* `Questionnaire.Walk.gives_asked` — a course is given its answers by its script;
* `Questionnaire.Walk.course_withScript` — **whatever gives the same answers leads along the same
  course**;
* `Questionnaire.Walk.script_forms_agree` — **the two forms of a script agree**.
-/

import Questionnaire.Proofs.Value.Ordered
import Questionnaire.Proofs.Session.Path
import Questionnaire.Proofs.Walk.Course

set_option autoImplicit false

namespace Questionnaire

/-- The block of a visit with the answer that it was given, if it was given one. -/
def Visit.question? (visit : Visit) : Option (String × Json) :=
  visit.supplied.map fun answer => (visit.block, answer)

/-- **The blocks of some visits that were given an answer**, with the answers. -/
def asked (visits : List Visit) : List (String × Json) := visits.filterMap Visit.question?

theorem asked_append (visits more : List Visit) :
    asked (visits ++ more) = asked visits ++ asked more := List.filterMap_append

/-- Whether a block is asked for an answer, which is every one but a message. -/
def Block.isAsked (block : Block) : Bool :=
  match block.kind with
  | .message => false
  | _ => true

theorem Block.isAsked_eq_false_iff {block : Block} :
    block.isAsked = false ↔ block.kind = .message := by
  unfold isAsked
  cases block.kind <;> simp

/-- Whether the block with an id is asked for an answer. -/
def Graph.isAsked (graph : Graph) (id : String) : Bool := (graph.block? id).any Block.isAsked

namespace Script

variable {script rest left : Script} {block : Block} {supplied : Option Json}
  {questions : List (String × Json)}

/-! ### What a script gives -/

/-- **A script answers some blocks one after another**, and then another script is left. -/
inductive Gives : Script → List (String × Json) → Script → Prop where
  | nothing (script : Script) : Gives script [] script
  | next {script rest left : Script} {block : String} {answer : Json}
      {questions : List (String × Json)} (hnext : script.next? block = some (answer, rest))
      (hrest : Gives rest questions left) : Gives script ((block, answer) :: questions) left

/-- **A list gives the answers with which it begins.** -/
theorem gives_sequence_iff {answers : List Json} :
    (sequence answers).Gives questions left ↔
      ∃ rest, left = .sequence rest ∧ answers = questions.map Prod.snd ++ rest := by
  induction questions generalizing answers with
  | nil =>
      constructor
      · rintro ⟨⟩
        exact ⟨answers, rfl, rfl⟩
      · rintro ⟨rest, rfl, rfl⟩
        exact .nothing _
  | cons question questions ih =>
      obtain ⟨block, answer⟩ := question
      constructor
      · rintro (_ | ⟨hnext, hrest⟩)
        cases answers with
        | nil => cases hnext
        | cons first answers =>
            cases hnext
            obtain ⟨rest, rfl, rfl⟩ := ih.1 hrest
            exact ⟨rest, rfl, rfl⟩
      · rintro ⟨rest, rfl, rfl⟩
        exact .next rfl (ih.2 ⟨rest, rfl, rfl⟩)

/-- **A collection gives what it has under each block**, and stays as it is. -/
theorem gives_byBlock_iff {answers : Keyed Json} :
    (byBlock answers).Gives questions left ↔
      left = .byBlock answers ∧
        ∀ question ∈ questions, answers.get? question.1 = some question.2 := by
  induction questions with
  | nil =>
      constructor
      · rintro ⟨⟩
        exact ⟨rfl, fun _ h => nomatch h⟩
      · rintro ⟨rfl, -⟩
        exact .nothing _
  | cons question questions ih =>
      obtain ⟨block, answer⟩ := question
      rw [List.forall_mem_cons]
      constructor
      · rintro (_ | ⟨hnext, hrest⟩)
        obtain ⟨found, hfound, htaken⟩ := Option.map_eq_some_iff.1 hnext
        cases htaken
        obtain ⟨hleft, hquestions⟩ := ih.1 hrest
        exact ⟨hleft, hfound, hquestions⟩
      · rintro ⟨hleft, hfound, hquestions⟩
        refine .next ?_ (ih.2 ⟨hleft, hquestions⟩)
        rw [next?, hfound, Option.map_some]

theorem Gives.append {more : List (String × Json)} {last : Script}
    (h : script.Gives questions left) (hmore : left.Gives more last) :
    script.Gives (questions ++ more) last := by
  induction h with
  | nothing => exact hmore
  | next hnext _ ih => exact .next hnext (ih hmore)

/-- What a script gives to a block is the answer to its question, if it is asked for one. -/
theorem gives_of_give? (h : script.give? block = some (supplied, rest)) :
    script.Gives (asked [⟨block.id, supplied⟩]) rest := by
  by_cases hkind : block.kind = .message
  · rw [script.give?_of_message hkind] at h
    cases h
    exact .nothing script
  · rw [script.give?_of_asked hkind] at h
    obtain ⟨taken, hnext, htaken⟩ := Option.map_eq_some_iff.1 h
    cases htaken
    exact .next hnext (.nothing _)

/-- A block is given an answer exactly if it is asked for one. -/
theorem isSome_supplied_of_give? (h : script.give? block = some (supplied, rest)) :
    supplied.isSome = block.isAsked := by
  by_cases hkind : block.kind = .message
  · rw [script.give?_of_message hkind] at h
    cases h
    exact (Block.isAsked_eq_false_iff.2 hkind).symm
  · rw [script.give?_of_asked hkind] at h
    obtain ⟨taken, -, htaken⟩ := Option.map_eq_some_iff.1 h
    cases htaken
    exact (Bool.of_not_eq_false fun hmessage => hkind (Block.isAsked_eq_false_iff.1 hmessage)).symm

/-- A script that gives the answers of some visits gives to the first block what that was given. -/
theorem give?_of_gives {visits : List Visit} {other : Script}
    (h : script.give? block = some (supplied, rest))
    (hgives : other.Gives (asked (⟨block.id, supplied⟩ :: visits)) left) :
    ∃ otherRest, other.give? block = some (supplied, otherRest) ∧
      otherRest.Gives (asked visits) left := by
  by_cases hkind : block.kind = .message
  · rw [script.give?_of_message hkind] at h
    cases h
    exact ⟨other, other.give?_of_message hkind, hgives⟩
  · rw [script.give?_of_asked hkind] at h
    obtain ⟨⟨answer, _⟩, -, htaken⟩ := Option.map_eq_some_iff.1 h
    cases htaken
    have hcons : other.Gives ((block.id, answer) :: asked visits) left := hgives
    cases hcons with
    | next hnext hrest =>
        refine ⟨_, ?_, hrest⟩
        rw [other.give?_of_asked hkind, hnext, Option.map_some]

end Script

namespace Walk

variable {walk next : Walk} {visit : Visit} {script other left : Script}

/-! ### What a course is given -/

/-- A walk that goes on by another script. -/
def withScript (walk : Walk) (script : Script) : Walk := { walk with answering := .scripted script }

/-- **A course is given its answers by its script**, and goes on by what is left of it. -/
theorem gives_asked (hscript : walk.answering = .scripted script) (turns : Nat) :
    ∃ left, script.Gives (asked (walk.visits turns)) left ∧
      (walk.after turns).answering = .scripted left := by
  refine course_induction (P := fun visits last => ∃ left, script.Gives (asked visits) left ∧
    last.answering = .scripted left) ?_ ⟨script, .nothing script, hscript⟩ turns
  rintro visits last next visit ⟨left, hgives, hleft⟩ ⟨hlast, -, hgive, -⟩
  rw [hleft] at hlast
  cases hlast
  rw [asked_append]
  exact ⟨_, hgives.append (Script.gives_of_give? hgive), rfl⟩

/-- **The history of a session is the blocks of the course**, behind what it was before. -/
theorem history_after (turns : Nat) (walk : Walk) :
    (walk.after turns).session.history =
      walk.session.history ++ (walk.visits turns).map Visit.block := by
  refine course_induction (P := fun visits last => last.session.history =
    walk.session.history ++ visits.map Visit.block) ?_ (List.append_nil _).symm turns
  rintro visits last next visit hhistory hturn
  rw [Session.history_of_submit hturn.make, Session.path, hhistory, List.map_append,
    List.append_assoc, ← hturn.block_eq]
  rfl

/-- **The blocks that were given an answer are those of the course that are asked for one.** -/
theorem map_fst_asked (turns : Nat) (walk : Walk) :
    (asked (walk.visits turns)).map Prod.fst =
      ((walk.visits turns).map Visit.block).filter walk.session.graph.isAsked := by
  suffices h : (walk.after turns).session.graph = walk.session.graph ∧
      (asked (walk.visits turns)).map Prod.fst =
        ((walk.visits turns).map Visit.block).filter walk.session.graph.isAsked from h.2
  refine course_induction (P := fun visits last => last.session.graph = walk.session.graph ∧
    (asked visits).map Prod.fst =
      (visits.map Visit.block).filter walk.session.graph.isAsked) ?_ ⟨rfl, rfl⟩ turns
  rintro visits last next visit ⟨hgraph, hasked⟩ hturn
  refine ⟨hturn.keeps.1.trans hgraph, ?_⟩
  obtain ⟨-, hblock, hgive, -⟩ := hturn
  rename_i block supplied _
  have hid : block.id = last.session.current := (Graph.mem_of_block? hblock).2
  have hisAsked : walk.session.graph.isAsked block.id = supplied.isSome := by
    rw [Script.isSome_supplied_of_give? hgive, Graph.isAsked, ← hgraph, hid, hblock]
    rfl
  rw [asked_append, List.map_append, List.map_append, List.filter_append, hasked]
  cases supplied <;> simp [asked, Visit.question?, hisAsked]

/-- No turn leads on from a complete session. -/
theorem turn?_of_isComplete (h : walk.session.isComplete = true) : walk.turn? = none := by
  cases hturn : walk.turn? with
  | none => rfl
  | some went =>
      rw [Session.isComplete_of_make (turn?_eq_some_iff.1 hturn).make] at h
      cases h

/-- **Whatever gives the same answers leads along the same course**, up to where a session is
complete. -/
theorem course_withScript (turns : Nat)
    (hcomplete : (walk.after turns).session.isComplete = true)
    (hgives : other.Gives (asked (walk.visits turns)) left) :
    (walk.withScript other).visits turns = walk.visits turns ∧
      (walk.withScript other).after turns = (walk.after turns).withScript left := by
  induction turns generalizing walk other with
  | zero =>
      cases hgives
      exact ⟨rfl, rfl⟩
  | succ turns ih =>
      cases hturn : walk.turn? with
      | none =>
          -- the course ends here, and by the other script as well
          rw [visits_of_turn?_eq_none hturn] at hgives ⊢
          rw [after_of_turn?_eq_none hturn] at hcomplete ⊢
          have hother : (walk.withScript other).turn? = none := turn?_of_isComplete hcomplete
          rw [visits_of_turn?_eq_none hother, after_of_turn?_eq_none hother]
          cases hgives
          exact ⟨rfl, rfl⟩
      | some went =>
          obtain ⟨visit, next⟩ := went
          rw [visits_of_turn? hturn] at hgives ⊢
          rw [after_of_turn? hturn] at hcomplete ⊢
          obtain ⟨-, hblock, hgive, hsubmit⟩ := turn?_eq_some_iff.1 hturn
          obtain ⟨otherRest, hotherGive, hotherGives⟩ := Script.give?_of_gives hgive hgives
          have hother := turn?_eq_some_iff.2
            (Turn.through (show (walk.withScript other).answering = .scripted other from rfl)
              hblock hotherGive hsubmit)
          obtain ⟨hvisits, hafter⟩ := ih hcomplete hotherGives
          rw [visits_of_turn? hother, after_of_turn? hother]
          exact ⟨congrArg _ hvisits, hafter⟩

/-! ### One form for the other -/

/-- **A script takes a walk from its start along the same course**: it goes through the same blocks
with the same answers and comes to the same session, and it shows the same. -/
def RunsAlike (settings : Settings) (graph : Graph) (id : String) (turns : Nat) (walk : Walk)
    (shown : String) (script : Script) : Prop :=
  ∃ again, openWalk settings graph (.scripted script) id = .ok again ∧
    (∀ lines, again.run turns lines = (shown, .finished)) ∧
    again.visits turns = walk.visits turns ∧
    (again.after turns).session = (walk.after turns).session

variable {settings : Settings} {graph : Graph} {id shown : String} {turns : Nat}
  {lines : List String}

/-- A script that gives the answers of a finished walk takes it along the same course. -/
theorem runsAlike_of_gives (hopen : openWalk settings graph (.scripted script) id = .ok walk)
    (hrun : walk.run turns lines = (shown, .finished))
    (hgives : other.Gives (asked (walk.visits turns)) left) :
    RunsAlike settings graph id turns walk shown other := by
  obtain ⟨hfaults, hwalk⟩ := openWalk_eq_ok_iff.1 hopen
  obtain ⟨-, -, hscript⟩ := of_openWalk hopen
  obtain ⟨hturns, hcomplete, hshown⟩ := (run_eq_finished_iff hscript turns lines shown).1 hrun
  obtain ⟨hvisits, hafter⟩ := course_withScript turns hcomplete hgives
  refine ⟨walk.withScript other, openWalk_eq_ok_iff.2 ⟨hfaults, by rw [hwalk]; rfl⟩, ?_, hvisits,
    by rw [hafter]; rfl⟩
  intro lines
  refine (run_eq_finished_iff rfl turns lines shown).2 ?_
  rw [hvisits, hafter]
  exact ⟨hturns, hcomplete, hshown⟩

/-- **The two forms of a script agree.**  A walk that is finished, whatever form its script has, has
asked the blocks of its history other than messages, in their order, and if its script was a list it
has given them the answers with which the list begins and is left with the others.  If it asked no
block twice, then the list of these answers takes a walk along the same course, whatever follows in
it, and so does the collection of the answers by block, whatever it has for other blocks. -/
theorem script_forms_agree (hopen : openWalk settings graph (.scripted script) id = .ok walk)
    (hrun : walk.run turns lines = (shown, .finished))
    (honce : ((asked (walk.visits turns)).map Prod.fst).Nodup) :
    (asked (walk.visits turns)).map Prod.fst =
      (walk.after turns).session.history.filter graph.isAsked ∧
    (∀ answers, script = .sequence answers → ∃ rest,
      answers = (asked (walk.visits turns)).map Prod.snd ++ rest ∧
      (walk.after turns).answering = .scripted (.sequence rest)) ∧
    (∀ more, RunsAlike settings graph id turns walk shown
      (.sequence ((asked (walk.visits turns)).map Prod.snd ++ more))) ∧
    (∀ others : List (String × Json),
      (∀ other ∈ others, other.1 ∉ (asked (walk.visits turns)).map Prod.fst) →
      RunsAlike settings graph id turns walk shown
        (.byBlock (Keyed.ofList (asked (walk.visits turns) ++ others)))) ∧
    ∀ answers : Keyed Json,
      (∀ question ∈ asked (walk.visits turns), answers.get? question.1 = some question.2) →
      RunsAlike settings graph id turns walk shown (.byBlock answers) := by
  obtain ⟨hsession, -, hscript⟩ := of_openWalk hopen
  have hkept : ∀ answers : Keyed Json,
      (∀ question ∈ asked (walk.visits turns), answers.get? question.1 = some question.2) →
      RunsAlike settings graph id turns walk shown (.byBlock answers) := fun answers hanswers =>
    runsAlike_of_gives hopen hrun (Script.gives_byBlock_iff.2 ⟨rfl, hanswers⟩)
  refine ⟨?_, ?_, ?_, ?_, hkept⟩
  · rw [map_fst_asked, history_after, hsession]
    rfl
  · rintro answers rfl
    obtain ⟨left, hgives, hleft⟩ := gives_asked hscript turns
    obtain ⟨rest, rfl, hanswers⟩ := Script.gives_sequence_iff.1 hgives
    exact ⟨rest, hanswers, hleft⟩
  · intro more
    exact runsAlike_of_gives hopen hrun (Script.gives_sequence_iff.2 ⟨more, rfl, rfl⟩)
  · intro others hothers
    refine hkept _ fun question hquestion => ?_
    refine Keyed.get?_ofList_append honce hquestion fun hmem => ?_
    obtain ⟨other, hother, hid⟩ := List.mem_map.1 hmem
    exact hothers other hother (hid ▸ List.mem_map_of_mem hquestion)

/-- A survey of two questions with a message between them, which ends at once if the first answer is
"no". -/
def outing : Graph where
  start := "join"
  title := none
  expectedMinutes := none
  blocks := [
    { id := "join"
      kind := .textInput none
      prompt := none
      variableName := some "join"
      next := some (.conditional [⟨⟨"join", .equals (.text "no")⟩, "end"⟩] "thanks") },
    { id := "thanks", kind := .message, prompt := none, variableName := none,
      next := some (.direct "place") },
    { id := "place", kind := .textInput none, prompt := none, variableName := some "place",
      next := some (.direct "end") },
    { id := "end", kind := .final, prompt := none, variableName := none, next := none }]
  blocks_ne_nil := List.cons_ne_nil _ _
  nodup_ids := by decide +kernel

/-- In the survey `outing` a list with one answer too many can be replaced by a collection with one
answer too many, and the message is given none. -/
theorem script_forms_agree_outing :
    ∃ walk shown,
      openWalk .standard outing
        (.scripted (.sequence [.string "yes", .string "park", .string "more"])) "s" = .ok walk ∧
      walk.run 4 [] = (shown, .finished) ∧
      asked (walk.visits 4) = [("join", .string "yes"), ("place", .string "park")] ∧
      (walk.after 4).session.history = ["join", "thanks", "place"] ∧
      (walk.after 4).answering = .scripted (.sequence [.string "more"]) ∧
      RunsAlike .standard outing "s" 4 walk shown (.byBlock (Keyed.ofList
        [("join", .string "yes"), ("place", .string "park"), ("thanks", .string "more")])) := by
  let walk : Walk := ⟨Session.opening "s" outing, Settings.standard.conduct.selfLoopLimit,
    .scripted (.sequence [.string "yes", .string "park", .string "more"])⟩
  have hopen : openWalk .standard outing walk.answering "s" = .ok walk :=
    openWalk_eq_ok_iff.2 ⟨by decide +kernel, rfl⟩
  have hasked : asked (walk.visits 4) = [("join", .string "yes"), ("place", .string "park")] := rfl
  have hrun : walk.run 4 [] = (String.join ((walk.visits 4).map (Visit.shown outing)) ++
      (walk.after 4).summary, .finished) :=
    (run_eq_finished_iff rfl 4 [] _).2 ⟨by decide +kernel, by decide +kernel, rfl⟩
  obtain ⟨-, hlist, -, hothers, -⟩ := script_forms_agree hopen hrun (by rw [hasked]; decide +kernel)
  obtain ⟨rest, hanswers, hrest⟩ := hlist _ rfl
  rw [hasked] at hanswers hothers
  cases hanswers
  exact ⟨walk, _, hopen, hrun, hasked, rfl, hrest, hothers [("thanks", .string "more")] (by simp)⟩

end Walk

end Questionnaire
