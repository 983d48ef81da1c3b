/-
**In how many ways a scripted walk can stand.**

Only the history of a walk grows without end, and nothing that the walk does depends on it.  All
else is confined: the walk stays on its survey, it is left with some of its script, its count of
self-loops is a word, and each of its variables holds what an answer of the script stores at a block
of the survey.  So there are finitely many ways in which a scripted walk can stand, its past left
aside.

Main definitions:

* `Questionnaire.Session.withoutPast`, `Questionnaire.Walk.withoutPast` — a session and a walk with
  their past left aside;
* `Questionnaire.Script.submissions`, `Questionnaire.Script.rests` — what a script can submit, and
  what can be left of it;
* `Questionnaire.Graph.writings` — what some answers can write on a survey;
* `Questionnaire.Walk.Confined` — **what does not grow while a walk goes on**.

Main results:

* `Questionnaire.Walk.Turn.congr` — **the past decides nothing**;
* `Questionnaire.Walk.Confined.of_turn` — every turn keeps the invariant;
* `Questionnaire.Walk.finite_confined` — **confined walks stand in finitely many ways**.
-/

import Mathlib.Data.List.Permutation
import Mathlib.Data.Set.Finite.List
import Questionnaire.Proofs.Session.Bindings
import Questionnaire.Proofs.Session.Trapped
import Questionnaire.Proofs.Value.Ordered
import Questionnaire.Proofs.Walk.Course

set_option autoImplicit false

namespace Questionnaire

/-! ### Variables -/

namespace Keyed

variable {α : Type} {m : Keyed α}

theorem Increasing.nodup (h : Increasing m) : m.Nodup :=
  h.imp fun hlt heq => ne_of_lt hlt (congrArg Prod.fst heq)

/-- **Of finitely many entries there are finitely many collections in order.** -/
theorem finite_increasing (entries : List (String × α)) :
    {m : Keyed α | Increasing m ∧ m ⊆ entries}.Finite := by
  refine (List.finite_toSet (entries.sublists.flatMap List.permutations)).subset ?_
  rintro m ⟨horder, hsubset⟩
  obtain ⟨kept, hperm, hkept⟩ := List.subperm_of_subset horder.nodup hsubset
  exact List.mem_flatMap.2
    ⟨kept, List.mem_sublists.2 hkept, List.mem_permutations.2 hperm.symm⟩

end Keyed

/-- What some answers can write on a survey: each that a block accepts, as it is stored, under the
variable of the block. -/
def Graph.writings (graph : Graph) (answers : List Value) : List (String × Value) :=
  graph.blocks.flatMap fun block => answers.filterMap fun answer =>
    block.variableName.bind fun name => (Acceptance.stored? ⟨block, answer⟩).map (Prod.mk name)

theorem Graph.mem_writings {graph : Graph} {answers : List Value} {block : Block} {answer : Value}
    {entry : String × Value} (hblock : block ∈ graph.blocks) (hanswer : answer ∈ answers)
    (haccept : block.kind.accept answer = .ok (some entry.2))
    (hname : block.variableName = some entry.1) : entry ∈ graph.writings answers := by
  refine List.mem_flatMap.2 ⟨block, hblock, List.mem_filterMap.2 ⟨answer, hanswer, ?_⟩⟩
  rw [hname, Option.bind_some, Acceptance.stored?_of_accept haccept, Option.map_some]

namespace Session

variable {limit : UInt32} {session next other : Session} {block : Block} {bindings : Variables}
  {stored : Option Value} {answer : Value}

/-- Storing an answer keeps the variables in the order of their names. -/
theorem increasing_storeAnswer (h : Keyed.Increasing bindings) :
    Keyed.Increasing (storeAnswer bindings block stored) := by
  unfold storeAnswer
  split
  · exact h.insert _ _
  · exact h

/-- After an answer was stored, an entry is the one that was stored or was there before. -/
theorem mem_storeAnswer {entry : String × Value} (h : entry ∈ storeAnswer bindings block stored) :
    block.variableName = some entry.1 ∧ stored = some entry.2 ∨ entry ∈ bindings := by
  unfold storeAnswer at h
  split at h
  · rename_i name value hname
    refine (Keyed.eq_or_mem_of_mem_insert h).imp_left ?_
    rintro rfl
    exact ⟨hname, rfl⟩
  · exact .inr h

/-! ### The past -/

/-- A session with its past left aside. -/
def withoutPast (session : Session) : Session := { session with history := [] }

/-- Sessions that differ in their past only are one another with another history. -/
theorem eq_of_withoutPast_eq (h : other.withoutPast = session.withoutPast) :
    other = { session with history := other.history } := by
  obtain ⟨_, _, _, _, past, _, _⟩ := other
  cases h
  rfl

/-- **The past decides nothing**: an answer is accepted whatever was answered before, and leads to
the same but for that. -/
theorem submit_of_withoutPast_eq (h : other.withoutPast = session.withoutPast)
    (hsubmit : session.submit limit answer = .ok next) :
    ∃ otherNext, other.submit limit answer = .ok otherNext ∧
      otherNext.withoutPast = next.withoutPast := by
  rw [eq_of_withoutPast_eq h]
  generalize other.history = past
  have hcases := submission limit session answer
  rw [hsubmit] at hcases
  cases hcases with
  | @moved block stored transition hblock hopen haccept hnext hhas hloops =>
      let twin : Session := { session with history := past }
      have hsame : twin.graph.block? twin.current = some block := hblock
      refine ⟨twin.moveTo block (storeAnswer session.bindings block stored)
        (session.destination block stored transition), ?_, rfl⟩
      exact (submit_eq_arrive hsame hopen haccept hnext).trans
        ((if_pos hhas).trans (if_neg hloops))

end Session

/-! ### Scripts -/

namespace Script

variable {script rest left : Script} {block : Block} {supplied : Option Json}

/-- The answers of a script. -/
def answers : Script → List Json
  | .sequence answers => answers
  | .byBlock answers => answers.map Prod.snd

/-- What a script can submit: its answers, and null for messages. -/
def submissions (script : Script) : List Value := .null :: script.answers.map Value.ofJson

/-- What can be left of a script. -/
def rests : Script → List Script
  | .sequence answers => answers.tails.map .sequence
  | .byBlock answers => [.byBlock answers]

theorem mem_rests_self (script : Script) : script ∈ script.rests := by
  cases script with
  | sequence answers => exact List.mem_map_of_mem ((List.mem_tails _ _).2 (List.suffix_refl _))
  | byBlock answers => exact List.mem_cons_self

/-- What is left of a script has some of its answers, and of that no more is left. -/
theorem mem_rests_of_next? {id : String} {answer : Json} (hrest : rest ∈ script.rests)
    (h : rest.next? id = some (answer, left)) : answer ∈ script.answers ∧ left ∈ script.rests := by
  cases script with
  | sequence answers =>
      obtain ⟨suffix, hsuffix, rfl⟩ := List.mem_map.1 hrest
      rw [List.mem_tails] at hsuffix
      cases suffix with
      | nil => cases h
      | cons first suffix =>
          cases h
          exact ⟨hsuffix.subset List.mem_cons_self,
            List.mem_map_of_mem ((List.mem_tails _ _).2 ((List.suffix_cons _ _).trans hsuffix))⟩
  | byBlock answers =>
      cases List.mem_singleton.1 hrest
      obtain ⟨found, hfound, htaken⟩ := Option.map_eq_some_iff.1 h
      cases htaken
      exact ⟨List.mem_map_of_mem (Keyed.mem_of_get? hfound), hrest⟩

/-- A script submits one of its answers, or null, and then some of it is left. -/
theorem mem_rests_of_give? (hrest : rest ∈ script.rests)
    (h : rest.give? block = some (supplied, left)) :
    Visit.answer ⟨block.id, supplied⟩ ∈ script.submissions ∧ left ∈ script.rests := by
  by_cases hkind : block.kind = .message
  · rw [rest.give?_of_message hkind] at h
    cases h
    exact ⟨List.mem_cons_self, hrest⟩
  · rw [rest.give?_of_asked hkind] at h
    obtain ⟨taken, hnext, htaken⟩ := Option.map_eq_some_iff.1 h
    cases htaken
    obtain ⟨hanswer, hleft⟩ := mem_rests_of_next? hrest hnext
    exact ⟨List.mem_cons_of_mem _ (List.mem_map_of_mem hanswer), hleft⟩

end Script

namespace Walk

variable {first walk next other : Walk} {visit : Visit} {script : Script}

/-- A walk with its past left aside. -/
def withoutPast (walk : Walk) : Walk := { walk with session := walk.session.withoutPast }

/-- Walks that differ in their past only stand at the same block, count the same self-loops and have
the same answers left. -/
theorem eq_of_withoutPast_eq (h : other.withoutPast = walk.withoutPast) :
    other.session.current = walk.session.current ∧
      other.session.selfLoops = walk.session.selfLoops ∧ other.answering = walk.answering := by
  obtain ⟨⟨_, _, _, _, _, _, _⟩, _, _⟩ := other
  cases h
  exact ⟨rfl, rfl, rfl⟩

/-- **The past decides nothing**: walks that differ in it only take the same turns. -/
theorem Turn.congr (h : other.withoutPast = walk.withoutPast) (hturn : Turn walk visit next) :
    ∃ otherNext, Turn other visit otherNext ∧ otherNext.withoutPast = next.withoutPast := by
  obtain ⟨session, limit, answering⟩ := walk
  obtain ⟨past, _, _⟩ := other
  obtain ⟨hpast, rfl, rfl⟩ := Walk.mk.inj h
  obtain ⟨hscript, hblock, hgive, hsubmit⟩ := hturn
  obtain ⟨otherSession, hother, hsession⟩ := Session.submit_of_withoutPast_eq hpast hsubmit
  refine ⟨_, .through hscript ?_ hgive hother, congrArg (Walk.mk · _ _) hsession⟩
  rw [Session.eq_of_withoutPast_eq hpast]
  exact hblock

/-- **What does not grow while a walk goes on** from where it was first, with its script. -/
structure Confined (first : Walk) (script : Script) (walk : Walk) : Prop where
  id_eq : walk.session.id = first.session.id
  graph_eq : walk.session.graph = first.session.graph
  reachableBlocks_eq : walk.session.reachableBlocks = first.session.reachableBlocks
  limit_eq : walk.selfLoopLimit = first.selfLoopLimit
  current_mem : walk.session.current ∈ first.session.graph.ids
  increasing : Keyed.Increasing walk.session.bindings
  written : walk.session.bindings ⊆ first.session.graph.writings script.submissions
  scripted : ∃ rest ∈ script.rests, walk.answering = .scripted rest

/-- A walk is confined when it is opened. -/
theorem Confined.of_openWalk {settings : Settings} {graph : Graph} {id : String}
    (hopen : openWalk settings graph (.scripted script) id = .ok walk) :
    Confined walk script walk := by
  obtain ⟨hfaults, rfl⟩ := openWalk_eq_ok_iff.1 hopen
  exact ⟨rfl, rfl, rfl, rfl, Graph.has_iff.1 (Graph.closed_of_faults_eq_nil hfaults).has_start,
    List.Pairwise.nil, List.nil_subset _, script, script.mem_rests_self, rfl⟩

/-- **Every turn keeps the invariant.** -/
theorem Confined.of_turn (h : Confined first script walk) (hturn : Turn walk visit next) :
    Confined first script next := by
  have hmake := hturn.make
  obtain ⟨hid, hgraph, hreachable⟩ := Session.make_keeps hmake
  have hcurrent := Graph.mem_ids_of_mem_successors (Session.mem_successors_of_submit hmake)
  obtain ⟨hscript, -, hgive, -⟩ := hturn
  obtain ⟨rest, hrest, hanswering⟩ := h.scripted
  cases hanswering.symm.trans hscript
  obtain ⟨hanswer, hleft⟩ := Script.mem_rests_of_give? hrest hgive
  rw [h.graph_eq] at hcurrent
  cases Session.made hmake with
  | moved hmoved _ haccept =>
      refine ⟨hid.trans h.id_eq, hgraph.trans h.graph_eq, hreachable.trans h.reachableBlocks_eq,
        h.limit_eq, hcurrent, Session.increasing_storeAnswer h.increasing, ?_, _, hleft, rfl⟩
      intro entry hentry
      rcases Session.mem_storeAnswer hentry with ⟨hname, rfl⟩ | hentry
      · rw [h.graph_eq] at hmoved
        exact Graph.mem_writings (Graph.mem_of_block? hmoved).1 hanswer haccept hname
      · exact h.written hentry

/-- A walk as it stands, its past left aside, given what can vary. -/
def standing (first : Walk) (place : String × Variables × UInt32 × Script) : Walk :=
  { first with
    session := { first.session with
      current := place.1
      bindings := place.2.1
      history := []
      selfLoops := place.2.2.1 }
    answering := .scripted place.2.2.2 }

/-- **Confined walks stand in finitely many ways.** -/
theorem finite_confined (first : Walk) (script : Script) :
    (withoutPast '' {walk | Confined first script walk}).Finite := by
  have hwords : Finite UInt32 := Finite.of_injective UInt32.toFin fun _ _ => UInt32.toFin_inj.1
  have hplaces := (List.finite_toSet first.session.graph.ids).prod
    ((Keyed.finite_increasing (first.session.graph.writings script.submissions)).prod
      ((Set.finite_univ (α := UInt32)).prod (List.finite_toSet script.rests)))
  refine (hplaces.image (standing first)).subset ?_
  rintro _ ⟨walk, h, rfl⟩
  obtain ⟨rest, hrest, hanswering⟩ := h.scripted
  refine ⟨(walk.session.current, walk.session.bindings, walk.session.selfLoops, rest),
    ⟨h.current_mem, ⟨h.increasing, h.written⟩, trivial, hrest⟩, ?_⟩
  rw [standing, withoutPast, Session.withoutPast, h.id_eq, h.graph_eq, h.reachableBlocks_eq,
    h.limit_eq, hanswering]

end Walk

end Questionnaire
