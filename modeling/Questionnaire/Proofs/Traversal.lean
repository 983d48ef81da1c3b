/-
**The loop of a search.**

A search is a loop: it takes the first of the nodes that wait, and unless it has been there before,
it visits the node and lets those of its followers wait that were not visited yet.  The same node
may wait several times, and more nodes may wait after a turn than before it.  This module shows that
the loop ends all the same, and that what it has visited then is what `Reach.closure` yields,
whether the followers wait before the other nodes, as on a stack, or behind them, as in a queue.

Main definitions:

* `Questionnaire.Reach.Stage`, `Questionnaire.Reach.turn` — what the loop holds, and **one turn**;
* `Questionnaire.Reach.Turns` — the loop comes from one stage to another;
* `Questionnaire.Reach.effort` — the measure that every turn lowers;
* `Questionnaire.Reach.Searching` — **the invariant of the loop**.

Main results:

* `Questionnaire.Reach.Searching.of_turn`, `Questionnaire.Reach.Searching.effort_lt_of_turn` — every
  turn keeps the invariant and lowers the measure;
* `Questionnaire.Reach.exists_turns` — **the loop ends, with what the search yields**.
-/

import Questionnaire.Proofs.Reach

set_option autoImplicit false

namespace Questionnaire

namespace Reach

/-- What the loop of a search holds between two turns: the nodes that wait, the next one first, and
those that were visited. -/
structure Stage where
  waiting : List String
  visited : List String

/-- Where the followers of a node wait: before the other nodes, or behind them. -/
inductive Discipline where
  | stack
  | queue

/-- The nodes that wait once some followers were put among them. -/
def Discipline.put : Discipline → List String → List String → List String
  | .stack, followers, waiting => followers ++ waiting
  | .queue, followers, waiting => waiting ++ followers

/-- **One turn of the loop**, if a node waits.  A node that was visited before is passed over. -/
def turn (discipline : Discipline) (next : String → List String) : Stage → Option Stage
  | ⟨[], _⟩ => none
  | ⟨node :: waiting, visited⟩ =>
    if node ∈ visited then some ⟨waiting, visited⟩
    else
      let followers := (next node).filter fun follower => follower ∉ node :: visited
      some ⟨discipline.put followers waiting, node :: visited⟩

/-- Whether some number of turns take the loop from one stage to another. -/
def Turns (discipline : Discipline) (next : String → List String) : Stage → Stage → Prop :=
  Relation.ReflTransGen fun stage after => turn discipline next stage = some after

/-- How much is left to be done at most: the nodes that wait, and the followers that nodes which
were not visited can still let wait. -/
def effort (nodes : List String) (next : String → List String) (stage : Stage) : Nat :=
  stage.waiting.length + pending nodes next stage.visited

variable {discipline : Discipline} {nodes roots : List String} {next : String → List String}
  {stage after : Stage} {node : String}

theorem Discipline.mem_put {followers waiting : List String} :
    node ∈ discipline.put followers waiting ↔ node ∈ followers ∨ node ∈ waiting := by
  cases discipline with
  | stack => exact List.mem_append
  | queue => exact List.mem_append.trans or_comm

theorem Discipline.length_put (discipline : Discipline) (followers waiting : List String) :
    (discipline.put followers waiting).length = followers.length + waiting.length := by
  cases discipline with
  | stack => exact List.length_append
  | queue => exact List.length_append.trans (Nat.add_comm _ _)

/-- What a turn can come to. -/
inductive Turned (discipline : Discipline) (next : String → List String) : Stage → Stage → Prop
  | passed {node : String} {waiting visited : List String} (hseen : node ∈ visited) :
      Turned discipline next ⟨node :: waiting, visited⟩ ⟨waiting, visited⟩
  | visited {node : String} {waiting visited : List String} (hnew : node ∉ visited) :
      Turned discipline next ⟨node :: waiting, visited⟩
        ⟨discipline.put ((next node).filter fun follower => follower ∉ node :: visited) waiting,
          node :: visited⟩

theorem turned (h : turn discipline next stage = some after) :
    Turned discipline next stage after := by
  obtain ⟨_ | ⟨node, waiting⟩, visited⟩ := stage
  · cases h
  · rw [turn] at h
    split at h
    · rename_i hseen
      cases h
      exact .passed hseen
    · rename_i hnew
      cases h
      exact .visited hnew

/-- While a node waits, there is a turn. -/
theorem exists_turn (h : stage.waiting ≠ []) :
    ∃ after, turn discipline next stage = some after := by
  obtain ⟨_ | ⟨node, waiting⟩, visited⟩ := stage
  · exact absurd rfl h
  · rw [turn]
    split
    · exact ⟨_, rfl⟩
    · exact ⟨_, rfl⟩

/-- **The invariant of the loop**: the roots lead to every node that waits or was visited, every
root waits or was visited, the followers of a visited node wait or were visited, and no node was
visited twice. -/
structure Searching (next : String → List String) (roots : List String) (stage : Stage) : Prop where
  led : ∀ node, node ∈ stage.waiting ∨ node ∈ stage.visited →
    ∃ root ∈ roots, Relation.ReflTransGen (fun a b => b ∈ next a) root node
  rooted : ∀ root ∈ roots, root ∈ stage.visited ∨ root ∈ stage.waiting
  frontier : Frontier next stage.visited stage.waiting
  nodup : stage.visited.Nodup

namespace Searching

/-- The invariant holds before the first turn, when the roots wait. -/
theorem of_roots (next : String → List String) (roots : List String) :
    Searching next roots ⟨roots, []⟩ where
  led := by
    rintro node (hwaits | hvisited)
    · exact ⟨node, hwaits, .refl⟩
    · cases hvisited
  rooted := fun _ hroot => .inr hroot
  frontier := by
    intro a ha
    cases ha
  nodup := List.nodup_nil

/-- **Every turn keeps the invariant.** -/
theorem of_turn (h : Searching next roots stage)
    (hturn : turn discipline next stage = some after) : Searching next roots after := by
  cases turned hturn with
  | @passed top waiting visited hseen =>
      refine ⟨?_, ?_, h.frontier.skip hseen, h.nodup⟩
      · rintro node (hwaits | hvisited)
        · exact h.led node (.inl (List.mem_cons_of_mem _ hwaits))
        · exact h.led node (.inr hvisited)
      · intro root hroot
        rcases h.rooted root hroot with hvisited | hwaits
        · exact .inl hvisited
        · rcases List.mem_cons.1 hwaits with rfl | hwaits
          · exact .inl hseen
          · exact .inr hwaits
  | @visited top waiting visited hnew =>
      obtain ⟨origin, horigin, hleads⟩ := h.led top (.inl List.mem_cons_self)
      refine ⟨?_, ?_, ?_, List.nodup_cons.2 ⟨hnew, h.nodup⟩⟩
      · rintro node (hwaits | hvisited)
        · rcases Discipline.mem_put.1 hwaits with hfollows | hwaits
          · exact ⟨origin, horigin, hleads.tail (List.mem_of_mem_filter hfollows)⟩
          · exact h.led node (.inl (List.mem_cons_of_mem _ hwaits))
        · rcases List.mem_cons.1 hvisited with rfl | hvisited
          · exact ⟨origin, horigin, hleads⟩
          · exact h.led node (.inr hvisited)
      · intro root hroot
        rcases h.rooted root hroot with hvisited | hwaits
        · exact .inl (List.mem_cons_of_mem _ hvisited)
        · rcases List.mem_cons.1 hwaits with rfl | hwaits
          · exact .inl List.mem_cons_self
          · exact .inr (Discipline.mem_put.2 (.inr hwaits))
      · intro a ha b hb
        -- a follower that does not wait was left out since it was visited
        by_cases hseen : b ∈ top :: visited
        · exact .inl hseen
        · refine .inr (Discipline.mem_put.2 ?_)
          rcases h.frontier.visit a ha b hb with hvisited | hwaits
          · exact absurd hvisited hseen
          · refine (List.mem_append.1 hwaits).imp_left fun hfollows => ?_
            exact List.mem_filter.2 ⟨hfollows, decide_eq_true hseen⟩

/-- What waits or was visited is among the nodes, if the roots are and nodes lead to nodes. -/
theorem mem_nodes (h : Searching next roots stage)
    (hnext : ∀ a ∈ nodes, ∀ b ∈ next a, b ∈ nodes) (hroots : ∀ a ∈ roots, a ∈ nodes)
    (hnode : node ∈ stage.waiting ∨ node ∈ stage.visited) : node ∈ nodes := by
  obtain ⟨root, hroot, hleads⟩ := h.led node hnode
  clear hnode
  induction hleads with
  | refl => exact hroots root hroot
  | tail _ hstep ih => exact hnext _ ih _ hstep

/-- **Every turn lowers what is left to be done**, among nodes that lead to nodes. -/
theorem effort_lt_of_turn (h : Searching next roots stage)
    (hnext : ∀ a ∈ nodes, ∀ b ∈ next a, b ∈ nodes) (hroots : ∀ a ∈ roots, a ∈ nodes)
    (hturn : turn discipline next stage = some after) :
    effort nodes next after < effort nodes next stage := by
  cases turned hturn with
  | passed hseen =>
      simp only [effort, List.length_cons]
      omega
  | @visited top waiting visited hnew =>
      have htop : top ∈ nodes := h.mem_nodes hnext hroots (.inl List.mem_cons_self)
      -- the followers that wait from now on are no longer pending
      have hpending := @pending_cons_add_le nodes visited next top htop hnew
      have hfollowers := List.length_filter_le (fun b => decide (b ∉ top :: visited)) (next top)
      simp only [effort, Discipline.length_put, List.length_cons]
      omega

/-- **From every stage the loop comes to one at which no node waits.** -/
theorem exists_turns (discipline : Discipline) (h : Searching next roots stage)
    (hnext : ∀ a ∈ nodes, ∀ b ∈ next a, b ∈ nodes) (hroots : ∀ a ∈ roots, a ∈ nodes) :
    ∃ visited, Turns discipline next stage ⟨[], visited⟩ ∧ Searching next roots ⟨[], visited⟩ := by
  -- induction on what is left to be done, which the turn lowers
  induction heffort : effort nodes next stage using Nat.strong_induction_on generalizing stage with
  | _ left ih =>
      by_cases hwaiting : stage.waiting = []
      · obtain ⟨waiting, visited⟩ := stage
        obtain rfl : waiting = [] := hwaiting
        exact ⟨visited, .refl, h⟩
      · obtain ⟨after, hturn⟩ := exists_turn hwaiting
        have hless := h.effort_lt_of_turn hnext hroots hturn
        rw [heffort] at hless
        obtain ⟨visited, hturns, hend⟩ := ih _ hless (h.of_turn hturn) rfl
        exact ⟨visited, .head hturn hturns, hend⟩

/-- When no node waits any more, the roots lead to exactly the visited nodes. -/
theorem mem_visited_iff {visited : List String} (h : Searching next roots ⟨[], visited⟩) :
    node ∈ visited ↔
      ∃ root ∈ roots, Relation.ReflTransGen (fun a b => b ∈ next a) root node := by
  refine ⟨fun hvisited => h.led node (.inr hvisited), ?_⟩
  rintro ⟨root, hroot, hleads⟩
  induction hleads with
  | refl => exact (h.rooted root hroot).resolve_right List.not_mem_nil
  | tail _ hstep ih => exact h.frontier.closed _ ih _ hstep

end Searching

/-- **The loop ends, with what the search yields**, among nodes that lead to nodes: it comes to a
stage at which no node waits, and the nodes that were visited then are those of `Reach.closure`,
each of them once. -/
theorem exists_turns (discipline : Discipline) (hnext : ∀ a ∈ nodes, ∀ b ∈ next a, b ∈ nodes)
    (hroots : ∀ a ∈ roots, a ∈ nodes) :
    ∃ visited, Turns discipline next ⟨roots, []⟩ ⟨[], visited⟩ ∧
      visited.Perm (closure nodes next roots) := by
  obtain ⟨visited, hturns, hend⟩ :=
    (Searching.of_roots next roots).exists_turns discipline hnext hroots
  have hnodup : (closure nodes next roots).Nodup := nodup_search _ _ _ _ List.nodup_nil
  refine ⟨visited, hturns, (List.perm_ext_iff_of_nodup hend.nodup hnodup).2 fun node => ?_⟩
  rw [hend.mem_visited_iff, mem_closure_iff hnext hroots]

end Reach

end Questionnaire
