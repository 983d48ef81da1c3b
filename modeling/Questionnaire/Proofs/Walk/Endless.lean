/-
**Scripted walks without an end.**

A scripted walk goes on until it is finished or fails, and nothing counts its turns.  What keeps it
from going on for ever is that a list of answers is used up and that a block may lead to itself only
so often in a row.  Neither is in the way of messages that lead to one another, nor of questions
that do and are answered by block.  Since a walk can stand in finitely many ways only, going on for
ever is the same as coming round: to stand again as it stood before.

Main definitions:

* `Questionnaire.Graph.IsCircle` — blocks each of which leads to the next, and the last to the
  first;
* `Questionnaire.Walk.Ends` — **a walk is finished or fails** after some number of turns;
* `Questionnaire.Walk.ComesRound` — **a walk stands as it stood before**, with some visits between.

Main results:

* `Questionnaire.Walk.length_visits_of_comesRound` — a walk that comes round goes on for ever;
* `Questionnaire.Walk.exists_comesRound` — a walk that goes on for ever comes round;
* `Questionnaire.Walk.ends_iff_never_comesRound` — **a walk ends exactly if it never comes round**,
  which it can by different blocks only, and by messages only if it is given a list of answers.
-/

import Mathlib.Order.Preorder.Finite
import Questionnaire.Proofs.Session.SelfLoops
import Questionnaire.Proofs.Walk.Confined
import Questionnaire.Proofs.Walk.Scripts

set_option autoImplicit false

namespace Questionnaire

/-- **A circle of blocks**: each leads to the next, and the last to the first. -/
def Graph.IsCircle (graph : Graph) (ids : List String) : Prop :=
  ∃ id rest, ids = id :: rest ∧ (ids ++ [id]).IsChain graph.LeadsTo

/-- Every block of a circle leads to some block. -/
theorem Graph.IsCircle.leads {graph : Graph} {ids : List String} (h : graph.IsCircle ids) :
    ∀ id ∈ ids, ∃ target, graph.LeadsTo id target := by
  obtain ⟨last, rest, -, hchain⟩ := h
  intro id hid
  obtain ⟨before, behind, rfl⟩ := List.append_of_mem hid
  rw [List.append_assoc, List.cons_append] at hchain
  have hbehind := hchain.right_of_append
  cases behind with
  | nil => exact ⟨last, (List.isChain_cons_cons.1 hbehind).1⟩
  | cons next behind => exact ⟨next, (List.isChain_cons_cons.1 hbehind).1⟩

/-- The only circle of the survey `Graph.retry` is its question. -/
theorem Graph.eq_ask_of_isCircle_retry {ids : List String} (h : Graph.retry.IsCircle ids) :
    ∀ id ∈ ids, id = "ask" := by
  intro id hid
  obtain ⟨target, block, hblock, htarget⟩ := h.leads id hid
  obtain ⟨hmem, rfl⟩ := Graph.mem_of_block? hblock
  rcases List.mem_cons.1 hmem with rfl | hmem
  · rfl
  · cases List.mem_singleton.1 hmem
    cases htarget

namespace Walk

variable {walk other next : Walk} {visit : Visit} {circle : List Visit} {script : Script}

/-- **A walk ends** if its run is finished or fails within some number of turns. -/
def Ends (walk : Walk) : Prop :=
  ∃ turns, ∀ lines, (walk.run turns lines).2 = .finished ∨
    ∃ error, (walk.run turns lines).2 = .failed error

/-- A walk goes round by some visits, if these come next and behind them it stands as it does now,
its past left aside. -/
structure GoesRound (walk : Walk) (circle : List Visit) : Prop where
  ne_nil : circle ≠ []
  visits_eq : walk.visits circle.length = circle
  back_eq : (walk.after circle.length).withoutPast = walk.withoutPast

/-- **A walk comes round** by some visits, if it goes round by them somewhere on its course. -/
def ComesRound (walk : Walk) (circle : List Visit) : Prop :=
  ∃ turns, (walk.after turns).GoesRound circle

/-! ### Going on for ever -/

/-- A run that is not cut short is finished or has failed. -/
theorem ne_cutShort_iff {ending : Ending} :
    ending ≠ .cutShort ↔ ending = .finished ∨ ∃ error, ending = .failed error := by
  cases ending <;> simp

/-- A scripted walk ends exactly if it does not go on through all turns of some number. -/
theorem ends_iff (hscript : walk.answering = .scripted script) :
    walk.Ends ↔ ∃ turns, (walk.visits turns).length ≠ turns := by
  refine exists_congr fun turns => ?_
  simp only [← ne_cutShort_iff, ne_eq, run_eq_cutShort_iff hscript, forall_const]

/-- A walk that stopped goes through nothing more. -/
theorem visits_after_eq_nil {turns : Nat} (h : (walk.visits turns).length ≠ turns) (more : Nat) :
    (walk.after turns).visits more = [] := by
  induction turns generalizing walk with
  | zero => exact absurd rfl h
  | succ turns ih =>
      cases hturn : walk.turn? with
      | none => rw [after_of_turn?_eq_none hturn, visits_of_turn?_eq_none hturn]
      | some went =>
          rw [visits_of_turn? hturn, List.length_cons, ne_eq, Nat.succ_inj] at h
          rw [after_of_turn? hturn]
          exact ih h

/-- **Walks that differ in their past only take the same course.** -/
theorem course_congr (h : other.withoutPast = walk.withoutPast) (turns : Nat) :
    other.visits turns = walk.visits turns ∧
      (other.after turns).withoutPast = (walk.after turns).withoutPast := by
  induction turns generalizing walk other with
  | zero => exact ⟨rfl, h⟩
  | succ turns ih =>
      cases hturn : walk.turn? with
      | none =>
          have hother : other.turn? = none := by
            cases hother : other.turn? with
            | none => rfl
            | some went =>
                obtain ⟨next, hnext, -⟩ := (turn?_eq_some_iff.1 hother).congr h.symm
                rw [turn?_eq_some_iff.2 hnext] at hturn
                cases hturn
          rw [visits_of_turn?_eq_none hturn, visits_of_turn?_eq_none hother,
            after_of_turn?_eq_none hturn, after_of_turn?_eq_none hother]
          exact ⟨rfl, h⟩
      | some went =>
          obtain ⟨visit, next⟩ := went
          obtain ⟨otherNext, hotherTurn, hnext⟩ := (turn?_eq_some_iff.1 hturn).congr h
          have hother := turn?_eq_some_iff.2 hotherTurn
          obtain ⟨hvisits, hafter⟩ := ih hnext
          rw [visits_of_turn? hturn, visits_of_turn? hother, after_of_turn? hturn,
            after_of_turn? hother, hvisits]
          exact ⟨rfl, hafter⟩

/-- A walk that goes round goes on through any number of turns. -/
theorem GoesRound.length_visits (h : walk.GoesRound circle) (turns : Nat) :
    (walk.visits turns).length = turns := by
  induction turns using Nat.strong_induction_on with
  | _ turns ih =>
      rcases Nat.lt_or_ge turns circle.length with hlt | hge
      · -- within the circle, whose visits take a turn each
        by_contra hstopped
        have hsplit := visits_add turns (circle.length - turns) walk
        rw [Nat.add_sub_cancel' hlt.le, visits_after_eq_nil hstopped, List.append_nil,
          h.visits_eq] at hsplit
        have hle := length_visits_le turns walk
        rw [← hsplit] at hle
        exact absurd hle (Nat.not_le.2 hlt)
      · have hpos : 0 < circle.length := List.length_pos_of_ne_nil h.ne_nil
        have hsplit := visits_add circle.length (turns - circle.length) walk
        rw [Nat.add_sub_cancel' hge, h.visits_eq, (course_congr h.back_eq _).1] at hsplit
        rw [hsplit, List.length_append, ih _ (Nat.sub_lt_of_pos_le hpos hge),
          Nat.add_sub_cancel' hge]

/-- **A walk that comes round goes on for ever.** -/
theorem length_visits_of_comesRound (h : walk.ComesRound circle) (turns : Nat) :
    (walk.visits turns).length = turns := by
  obtain ⟨start, hround⟩ := h
  by_contra hstopped
  -- a walk that stopped has fewer visits than turns, but behind the start there are as many
  have hlength := hround.length_visits turns
  have hbehind := congrArg List.length (visits_add start turns walk)
  have hstop := congrArg List.length (visits_add turns start walk)
  have hle := length_visits_le turns walk
  rw [List.length_append, hlength] at hbehind
  rw [visits_after_eq_nil hstopped, List.append_nil, Nat.add_comm] at hstop
  omega

/-- A course is confined as its walk is. -/
theorem confined_after {first : Walk} (h : Confined first script walk) (turns : Nat) :
    Confined first script (walk.after turns) :=
  course_induction (P := fun _ last => Confined first script last)
    (fun h hturn => h.of_turn hturn) h turns

/-- **A walk that goes on for ever comes round**, since it can stand in finitely many ways only. -/
theorem exists_comesRound {first : Walk} (hconfined : Confined first script walk)
    (hendless : ∀ turns, (walk.visits turns).length = turns) :
    ∃ circle, walk.ComesRound circle := by
  have hstands : ∀ turns, (walk.after turns).withoutPast ∈
      withoutPast '' {walk | Confined first script walk} := fun turns =>
    ⟨_, confined_after hconfined turns, rfl⟩
  obtain ⟨start, stop, hlt, hsame⟩ :=
    Set.Finite.exists_lt_map_eq_of_forall_mem hstands (finite_confined first script)
  have hsplit : start + (stop - start) = stop := Nat.add_sub_cancel' hlt.le
  have hlength : ((walk.after start).visits (stop - start)).length = stop - start := by
    have h := congrArg List.length (visits_add start (stop - start) walk)
    rw [List.length_append, hsplit, hendless, hendless] at h
    omega
  refine ⟨(walk.after start).visits (stop - start), start, ?_, ?_, ?_⟩
  · exact List.ne_nil_of_length_pos (by omega)
  · rw [hlength]
  · rw [hlength, ← after_add, hsplit]
    exact hsame.symm

/-! ### What a walk comes round by -/

/-- The first visit of a course is one of the block at which the walk stands. -/
theorem block_of_visits_eq_cons {turns : Nat} {rest : List Visit}
    (h : walk.visits turns = visit :: rest) : visit.block = walk.session.current := by
  cases turns with
  | zero => cases h
  | succ turns =>
      cases hturn : walk.turn? with
      | none =>
          rw [visits_of_turn?_eq_none hturn] at h
          cases h
      | some went =>
          rw [visits_of_turn? hturn] at h
          cases h
          exact (turn?_eq_some_iff.1 hturn).block_eq

/-- The path of a session is a walk through its survey all along a course. -/
theorem walking_after {graph : Graph} (h : Session.Walking graph walk.session) (turns : Nat) :
    Session.Walking graph (walk.after turns).session := by
  refine course_induction (P := fun _ last => Session.Walking graph last.session) ?_ h turns
  exact fun hwalking hturn => hwalking.of_make hturn.make

/-- **A walk goes round by a circle of blocks.** -/
theorem GoesRound.isCircle {graph : Graph} (h : walk.GoesRound circle)
    (hwalking : Session.Walking graph walk.session) :
    graph.IsCircle (circle.map Visit.block) := by
  obtain ⟨visit, rest, rfl⟩ := List.exists_cons_of_ne_nil h.ne_nil
  obtain ⟨hcurrent, -, -⟩ := eq_of_withoutPast_eq h.back_eq
  have hpath := (walking_after hwalking (visit :: rest).length).walk.leads
  rw [Session.path, history_after, h.visits_eq, hcurrent, List.append_assoc,
    ← block_of_visits_eq_cons h.visits_eq] at hpath
  exact ⟨visit.block, rest.map Visit.block, rfl, hpath.right_of_append⟩

/-- **At one and the same block the count of self-loops goes up with every turn**, as long as it
cannot overflow; and it stays within the limit. -/
theorem selfLoops_after (hlimit : walk.selfLoopLimit < 4294967295)
    (hle : walk.session.selfLoops ≤ walk.selfLoopLimit) (id : String) (turns : Nat) :
    (walk.after turns).selfLoopLimit = walk.selfLoopLimit ∧
    (walk.after turns).session.selfLoops ≤ walk.selfLoopLimit ∧
    ((∀ visit ∈ walk.visits turns, visit.block = id) → (walk.after turns).session.current = id →
      (walk.after turns).session.selfLoops.toNat =
        walk.session.selfLoops.toNat + (walk.visits turns).length) := by
  refine course_induction (P := fun visits last => last.selfLoopLimit = walk.selfLoopLimit ∧
    last.session.selfLoops ≤ walk.selfLoopLimit ∧
    ((∀ visit ∈ visits, visit.block = id) → last.session.current = id →
      last.session.selfLoops.toNat = walk.session.selfLoops.toNat + visits.length)) ?_
    ⟨rfl, hle, fun _ _ => rfl⟩ turns
  rintro visits last next visit ⟨hsame, hwithin, hcount⟩ hturn
  obtain ⟨-, hkept, -⟩ := hturn.keeps
  have hmake := hturn.make
  rw [hsame] at hmake hkept
  refine ⟨hkept, Session.selfLoops_le_of_make hmake, fun hvisits hcurrent => ?_⟩
  have hlast : last.session.current = id :=
    hturn.block_eq.symm.trans (hvisits _ (List.mem_append_right _ List.mem_cons_self))
  rw [Session.toNat_selfLoops_of_submit hlimit hwithin hmake, if_pos (hcurrent.trans hlast.symm),
    hcount (fun visit hvisit => hvisits visit (List.mem_append_left _ hvisit)) hlast,
    List.length_append, List.length_singleton, Nat.add_assoc]

/-- **A walk goes round by different blocks**, as long as the count cannot overflow. -/
theorem GoesRound.exists_ne (h : walk.GoesRound circle) (hlimit : walk.selfLoopLimit < 4294967295)
    (hle : walk.session.selfLoops ≤ walk.selfLoopLimit) :
    ∃ a ∈ circle, ∃ b ∈ circle, a.block ≠ b.block := by
  by_contra hsame
  push Not at hsame
  obtain ⟨visit, rest, rfl⟩ := List.exists_cons_of_ne_nil h.ne_nil
  obtain ⟨hcurrent, hcount, -⟩ := eq_of_withoutPast_eq h.back_eq
  have hgrown := (selfLoops_after hlimit hle visit.block (visit :: rest).length).2.2
  rw [h.visits_eq, hcurrent, hcount] at hgrown
  have hcontra := hgrown (fun other hother => hsame other hother visit List.mem_cons_self)
    (block_of_visits_eq_cons h.visits_eq).symm
  rw [List.length_cons] at hcontra
  omega

/-- **With a list of answers a walk goes round by messages only**, since every other block uses up
an answer. -/
theorem GoesRound.isAsked_eq_false {answers : List Json} (h : walk.GoesRound circle)
    (hscript : walk.answering = .scripted (.sequence answers)) :
    ∀ visit ∈ circle, walk.session.graph.isAsked visit.block = false := by
  obtain ⟨left, hgives, hleft⟩ := gives_asked hscript circle.length
  obtain ⟨rest, rfl, hanswers⟩ := Script.gives_sequence_iff.1 hgives
  obtain ⟨-, -, hanswering⟩ := eq_of_withoutPast_eq h.back_eq
  have hrest : rest = answers := by
    rw [hleft, hscript] at hanswering
    cases hanswering
    rfl
  rw [hrest, h.visits_eq, List.self_eq_append_left, List.map_eq_nil_iff] at hanswers
  have hasked := map_fst_asked circle.length walk
  rw [h.visits_eq, hanswers, eq_comm, List.map_nil, List.filter_eq_nil_iff] at hasked
  intro visit hvisit
  exact Bool.eq_false_iff.2 (hasked visit.block (List.mem_map_of_mem hvisit))

/-! ### From the start of a survey -/

section

variable {settings : Settings} {graph : Graph} {id : String}

/-- A walk that was opened with a script ends exactly if it never comes round. -/
theorem ends_iff_not_comesRound (hopen : openWalk settings graph (.scripted script) id = .ok walk) :
    walk.Ends ↔ ∀ circle, ¬ walk.ComesRound circle := by
  obtain ⟨-, -, hscript⟩ := of_openWalk hopen
  rw [ends_iff hscript]
  constructor
  · rintro ⟨turns, hstopped⟩ circle hround
    exact hstopped (length_visits_of_comesRound hround turns)
  · intro hnever
    by_contra hendless
    push Not at hendless
    obtain ⟨circle, hround⟩ := exists_comesRound (Confined.of_openWalk hopen) hendless
    exact hnever circle hround

theorem ComesRound.isCircle (h : walk.ComesRound circle)
    (hopen : openWalk settings graph (.scripted script) id = .ok walk) :
    graph.IsCircle (circle.map Visit.block) := by
  obtain ⟨turns, hround⟩ := h
  obtain ⟨hfaults, rfl⟩ := openWalk_eq_ok_iff.1 hopen
  have hstart := (Graph.closed_of_faults_eq_nil hfaults).has_start
  exact hround.isCircle (walking_after (.of_opening hstart id) turns)

theorem ComesRound.exists_ne (h : walk.ComesRound circle)
    (hopen : openWalk settings graph (.scripted script) id = .ok walk)
    (hlimit : settings.conduct.selfLoopLimit < 4294967295) :
    ∃ a ∈ circle, ∃ b ∈ circle, a.block ≠ b.block := by
  obtain ⟨turns, hround⟩ := h
  obtain ⟨hsession, hsame, -⟩ := of_openWalk hopen
  have hnone : walk.session.selfLoops ≤ walk.selfLoopLimit := by
    rw [hsession]
    exact UInt32.zero_le
  rw [← hsame] at hlimit
  obtain ⟨hkept, hwithin, -⟩ := selfLoops_after hlimit hnone walk.session.current turns
  rw [← hkept] at hlimit hwithin
  exact hround.exists_ne hlimit hwithin

theorem ComesRound.isAsked_eq_false {answers : List Json} (h : walk.ComesRound circle)
    (hopen : openWalk settings graph (.scripted (.sequence answers)) id = .ok walk) :
    ∀ visit ∈ circle, graph.isAsked visit.block = false := by
  obtain ⟨turns, hround⟩ := h
  obtain ⟨hsession, -, hscript⟩ := of_openWalk hopen
  obtain ⟨left, hgives, hleft⟩ := gives_asked hscript turns
  obtain ⟨rest, rfl, -⟩ := Script.gives_sequence_iff.1 hgives
  have hmessages := hround.isAsked_eq_false hleft
  rw [(confined_after (Confined.of_openWalk hopen) turns).graph_eq, hsession] at hmessages
  exact hmessages

/-- **A scripted walk ends exactly if it never comes round**, to stand at a block as it stood there
before, with the same variables, the same count of self-loops and the same answers left.  If it
does, then by a circle of blocks; these are different blocks, unless the limit for self-loops is the
greatest number, and if the script is a list none of them is asked for an answer.  So it ends on
every survey on which no circle goes through different blocks, or whose circles through different
blocks all ask for an answer, if the script is a list. -/
theorem ends_iff_never_comesRound
    (hopen : openWalk settings graph (.scripted script) id = .ok walk) :
    (walk.Ends ↔ ∀ circle, ¬ walk.ComesRound circle) ∧
    (∀ circle, walk.ComesRound circle →
      graph.IsCircle (circle.map Visit.block) ∧
      (settings.conduct.selfLoopLimit < 4294967295 →
        ∃ a ∈ circle, ∃ b ∈ circle, a.block ≠ b.block) ∧
      ∀ answers, script = .sequence answers →
        ∀ visit ∈ circle, graph.isAsked visit.block = false) ∧
    (settings.conduct.selfLoopLimit < 4294967295 →
      (∀ ids, graph.IsCircle ids → (∃ a ∈ ids, ∃ b ∈ ids, a ≠ b) →
        ∃ answers, script = .sequence answers ∧ ∃ id ∈ ids, graph.isAsked id = true) →
      walk.Ends) := by
  have hends := ends_iff_not_comesRound hopen
  refine ⟨hends, fun circle hround => ⟨hround.isCircle hopen, hround.exists_ne hopen, ?_⟩,
    fun hlimit hcircles => hends.2 fun circle hround => ?_⟩
  · rintro answers rfl
    exact hround.isAsked_eq_false hopen
  · obtain ⟨a, ha, b, hb, hne⟩ := hround.exists_ne hopen hlimit
    obtain ⟨answers, rfl, stop, hmem, hasked⟩ := hcircles _ (hround.isCircle hopen)
      ⟨_, List.mem_map_of_mem ha, _, List.mem_map_of_mem hb, hne⟩
    obtain ⟨visit, hvisit, rfl⟩ := List.mem_map.1 hmem
    rw [hround.isAsked_eq_false hopen visit hvisit] at hasked
    cases hasked

end

/-- On the survey `Graph.snare` an answer "yes" makes a walk come round by the two messages. -/
theorem comesRound_snare
    (hscript : script ∈ [Script.sequence [.string "yes"], .byBlock [("join", .string "yes")]]) :
    ∃ walk, openWalk .standard Graph.snare (.scripted script) "s" = .ok walk ∧
      walk.answering = .scripted script ∧
      walk.ComesRound [⟨"left", none⟩, ⟨"right", none⟩] := by
  rw [List.mem_cons, List.mem_singleton] at hscript
  rcases hscript with rfl | rfl <;>
    exact ⟨_, openWalk_eq_ok_iff.2 ⟨by decide +kernel, rfl⟩, rfl, 1, List.cons_ne_nil _ _, rfl, rfl⟩

/-- On the survey `Graph.retry`, whose only circle is its question, every script takes a walk to its
end; on the survey `Graph.snare` an answer "yes", given by block, makes a walk come round by the two
messages. -/
theorem ends_iff_never_comesRound_retry_snare :
    (∀ script, ∃ walk, openWalk .standard Graph.retry (.scripted script) "s" = .ok walk ∧
      walk.Ends) ∧
    ∃ walk, openWalk .standard Graph.snare (.scripted (.byBlock [("join", .string "yes")])) "s" =
        .ok walk ∧
      walk.ComesRound [⟨"left", none⟩, ⟨"right", none⟩] ∧ ¬ walk.Ends := by
  constructor
  · intro script
    have hopen : openWalk .standard Graph.retry (.scripted script) "s" = .ok _ :=
      openWalk_eq_ok_iff.2 ⟨Graph.faults_retry, rfl⟩
    obtain ⟨-, -, hends⟩ := ends_iff_never_comesRound hopen
    refine ⟨_, hopen, hends (by decide) ?_⟩
    rintro ids hcircle ⟨a, ha, b, hb, hne⟩
    exact absurd ((Graph.eq_ask_of_isCircle_retry hcircle a ha).trans
      (Graph.eq_ask_of_isCircle_retry hcircle b hb).symm) hne
  · obtain ⟨walk, hopen, -, hround⟩ := comesRound_snare (List.mem_cons_of_mem _ List.mem_cons_self)
    exact ⟨walk, hopen, hround, fun hends => (ends_iff_never_comesRound hopen).1.1 hends _ hround⟩

/-- **A scripted walk need not end**: on the survey `Graph.snare`, which has no faults, neither form
of a script takes a walk to its end once the first answer is "yes". -/
theorem snare_is_endless :
    Graph.snare.faults = [] ∧
    ∀ script ∈ [Script.sequence [.string "yes"], .byBlock [("join", .string "yes")]],
      ∃ walk, openWalk .standard Graph.snare (.scripted script) "s" = .ok walk ∧
        ∀ turns lines, (walk.run turns lines).2 = .cutShort := by
  refine ⟨by decide +kernel, fun script hscript => ?_⟩
  obtain ⟨walk, hopen, hanswering, hround⟩ := comesRound_snare hscript
  refine ⟨walk, hopen, fun turns lines => ?_⟩
  exact (run_eq_cutShort_iff hanswering turns lines).2 (length_visits_of_comesRound hround turns)

end Walk

end Questionnaire
