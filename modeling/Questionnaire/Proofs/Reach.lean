/-
**What a search visits.**

`Reach.search` takes nodes off a stack, and its fuel bounds how many it takes.  This module shows
that the fuel of `Reach.closure` is always enough, so that the search ends because its stack is
empty and not because its fuel is: every node puts its followers on the stack at most once, and
what is still to be put there is a measure that every step lowers.  What a search visits is then
exactly what the roots lead to.

Main definitions:

* `Questionnaire.Reach.pending` — how many followers can still be put on the stack;
* `Questionnaire.Reach.Frontier` — **the invariant of a search**;
* `Questionnaire.Graph.Visitable` — the ids that the start of a survey leads to.

Main results:

* `Questionnaire.Reach.mem_closure_iff` — **a search visits exactly what its roots lead to**;
* `Questionnaire.Graph.mem_reachable_iff`, `Questionnaire.Graph.length_reachable` — the reachable
  blocks are the visitable ones, and counted without repetition.
-/

import Mathlib.Data.Set.Card
import Mathlib.Logic.Relation
import Questionnaire.Reach

set_option autoImplicit false

namespace Questionnaire

namespace Reach

variable {nodes stack visited roots : List String} {next : String → List String} {fuel : Nat}
  {node : String}

/-- How many followers the nodes that were not visited can still put on the stack. -/
def pending (nodes : List String) (next : String → List String) (visited : List String) : Nat :=
  ((nodes.filter (· ∉ visited)).flatMap next).length

theorem pending_cons_le (nodes : List String) (next : String → List String)
    (visited : List String) (node : String) :
    pending nodes next (node :: visited) ≤ pending nodes next visited := by
  induction nodes with
  | nil => exact Nat.le_refl _
  | cons n nodes ih =>
      unfold pending at ih ⊢
      by_cases hvisited : n ∈ visited
      · simpa [hvisited] using ih
      · by_cases hn : n = node
        · simp only [List.filter_cons, List.mem_cons, hn, true_or, not_true_eq_false,
            decide_false, Bool.false_eq_true, if_false, hn ▸ hvisited, not_false_eq_true,
            decide_true, if_true, List.flatMap_cons, List.length_append]
          simp only [List.mem_cons] at ih
          omega
        · simpa [hvisited, hn] using ih

/-- Visiting a node takes its followers away from what is pending. -/
theorem pending_cons_add_le (hmem : node ∈ nodes) (hnew : node ∉ visited) :
    pending nodes next (node :: visited) + (next node).length ≤ pending nodes next visited := by
  induction nodes with
  | nil => cases hmem
  | cons n nodes ih =>
      by_cases hn : n = node
      · -- the node itself leaves the sum; its other occurrences only lower it further
        have hrest := pending_cons_le nodes next visited node
        subst hn
        simp only [pending, List.filter_cons, List.mem_cons, true_or, not_true_eq_false,
          decide_false, Bool.false_eq_true, if_false, hnew, not_false_eq_true, decide_true,
          if_true, List.flatMap_cons, List.length_append] at hrest ⊢
        omega
      · have ih := ih ((List.mem_cons.1 hmem).resolve_left (Ne.symm hn))
        unfold pending at ih ⊢
        by_cases hvisited : n ∈ visited
        · simpa [hvisited] using ih
        · simp only [List.filter_cons, List.mem_cons, hn, hvisited, or_self, not_false_eq_true,
            decide_true, if_true, List.flatMap_cons, List.length_append]
          simp only [List.mem_cons] at ih
          omega

/-- What a search yields was visited before, or some node on the stack leads to it. -/
theorem mem_search (h : node ∈ search next fuel stack visited) :
    node ∈ visited ∨ ∃ root ∈ stack, Relation.ReflTransGen (fun a b => b ∈ next a) root node := by
  -- a step moves nodes from the stack to the visited ones, so both vary
  induction fuel generalizing stack visited with
  | zero => exact .inl h
  | succ fuel ih =>
      cases stack with
      | nil => exact .inl h
      | cons top stack =>
          unfold search at h
          split at h
          · rcases ih h with hvisited | ⟨root, hroot, hleads⟩
            · exact .inl hvisited
            · exact .inr ⟨root, List.mem_cons_of_mem _ hroot, hleads⟩
          · rcases ih h with hvisited | ⟨root, hroot, hleads⟩
            · rcases List.mem_cons.1 hvisited with rfl | hvisited
              · exact .inr ⟨_, List.mem_cons_self, .refl⟩
              · exact .inl hvisited
            · rcases List.mem_append.1 hroot with hroot | hroot
              · exact .inr ⟨top, List.mem_cons_self, .head hroot hleads⟩
              · exact .inr ⟨root, List.mem_cons_of_mem _ hroot, hleads⟩

/-- **The invariant of a search**: a follower of a visited node was visited as well or is still on
the stack. -/
def Frontier (next : String → List String) (visited stack : List String) : Prop :=
  ∀ a ∈ visited, ∀ b ∈ next a, b ∈ visited ∨ b ∈ stack

namespace Frontier

/-- A node that was visited before may be taken off the stack. -/
theorem skip (h : Frontier next visited (node :: stack)) (hseen : node ∈ visited) :
    Frontier next visited stack := by
  intro a ha b hb
  rcases h a ha b hb with hb | hb
  · exact .inl hb
  · rcases List.mem_cons.1 hb with rfl | hb
    · exact .inl hseen
    · exact .inr hb

/-- A node is visited by putting its followers on the stack in its place. -/
theorem visit (h : Frontier next visited (node :: stack)) :
    Frontier next (node :: visited) (next node ++ stack) := by
  intro a ha b hb
  rcases List.mem_cons.1 ha with rfl | ha
  · exact .inr (List.mem_append_left _ hb)
  · rcases h a ha b hb with hb | hb
    · exact .inl (List.mem_cons_of_mem _ hb)
    · rcases List.mem_cons.1 hb with rfl | hb
      · exact .inl List.mem_cons_self
      · exact .inr (List.mem_append_right _ hb)

/-- Once the stack is empty, what was visited is closed. -/
theorem closed (h : Frontier next visited []) : ∀ a ∈ visited, ∀ b ∈ next a, b ∈ visited := by
  intro a ha b hb
  exact (h a ha b hb).resolve_right List.not_mem_nil

end Frontier

/-- **With enough fuel a search ends with a closed set**: it holds what was visited, what was on
the stack, and every follower of what it holds. -/
theorem search_closed (hnext : ∀ a ∈ nodes, ∀ b ∈ next a, b ∈ nodes)
    (hstack : ∀ a ∈ stack, a ∈ nodes) (hfrontier : Frontier next visited stack)
    (hfuel : stack.length + pending nodes next visited ≤ fuel) :
    (∀ a ∈ visited, a ∈ search next fuel stack visited) ∧
    (∀ a ∈ stack, a ∈ search next fuel stack visited) ∧
    ∀ a ∈ search next fuel stack visited, ∀ b ∈ next a, b ∈ search next fuel stack visited := by
  induction fuel generalizing stack visited with
  | zero =>
      -- without fuel there is nothing on the stack
      have hempty : stack = [] := List.length_eq_zero_iff.1 (by omega)
      subst hempty
      exact ⟨fun a ha => ha, by simp, hfrontier.closed⟩
  | succ fuel ih =>
      cases stack with
      | nil => exact ⟨fun a ha => ha, by simp, hfrontier.closed⟩
      | cons top stack =>
          obtain ⟨htop, hstack⟩ := List.forall_mem_cons.1 hstack
          rw [List.length_cons] at hfuel
          by_cases hseen : top ∈ visited
          · have hsearch : search next (fuel + 1) (top :: stack) visited =
                search next fuel stack visited := by rw [search, if_pos hseen]
            have hfuel' : stack.length + pending nodes next visited ≤ fuel := by omega
            rw [hsearch]
            obtain ⟨hkeeps, hpops, hcloses⟩ := ih hstack (hfrontier.skip hseen) hfuel'
            exact ⟨hkeeps, List.forall_mem_cons.2 ⟨hkeeps top hseen, hpops⟩, hcloses⟩
          · have hsearch : search next (fuel + 1) (top :: stack) visited =
                search next fuel (next top ++ stack) (top :: visited) := by
              rw [search, if_neg hseen]
            -- the followers that go on the stack are no longer pending
            have hpending := @pending_cons_add_le nodes visited next top htop hseen
            have hfuel' : (next top ++ stack).length + pending nodes next (top :: visited) ≤
                fuel := by
              rw [List.length_append]
              omega
            have hstack' : ∀ a ∈ next top ++ stack, a ∈ nodes :=
              List.forall_mem_append.2 ⟨hnext top htop, hstack⟩
            rw [hsearch]
            obtain ⟨hkeeps, hpops, hcloses⟩ := ih hstack' hfrontier.visit hfuel'
            obtain ⟨hkept, hkeeps⟩ := List.forall_mem_cons.1 hkeeps
            obtain ⟨-, hpops⟩ := List.forall_mem_append.1 hpops
            exact ⟨hkeeps, List.forall_mem_cons.2 ⟨hkept, hpops⟩, hcloses⟩

/-- **A search visits exactly what its roots lead to**, among nodes that lead to nodes. -/
theorem mem_closure_iff (hnext : ∀ a ∈ nodes, ∀ b ∈ next a, b ∈ nodes)
    (hroots : ∀ a ∈ roots, a ∈ nodes) : node ∈ closure nodes next roots ↔
      ∃ root ∈ roots, Relation.ReflTransGen (fun a b => b ∈ next a) root node := by
  have hfuel : roots.length + pending nodes next [] ≤
      roots.length + (nodes.flatMap next).length := by
    simp [pending]
  have hfrontier : Frontier next [] roots := by
    intro a ha
    cases ha
  obtain ⟨-, hpops, hcloses⟩ := search_closed hnext hroots hfrontier hfuel
  constructor
  · intro h
    exact (mem_search h).resolve_left (by simp)
  · rintro ⟨root, hroot, hleads⟩
    induction hleads with
    | refl => exact hpops root hroot
    | tail _ hstep ih => exact hcloses _ ih _ hstep

end Reach

namespace Graph

variable {graph : Graph} {id : String}

/-- **The ids that the start of a survey leads to**, along transitions to existing blocks. -/
def Visitable (graph : Graph) (id : String) : Prop :=
  graph.has graph.start = true ∧
    Relation.ReflTransGen (fun a b => b ∈ graph.successors a) graph.start id

theorem mem_successors_iff {source target : String} : target ∈ graph.successors source ↔
    ∃ block, graph.block? source = some block ∧ target ∈ block.targets ∧
      graph.has target = true := by
  unfold successors
  cases graph.block? source with
  | none => simp
  | some block => simp

theorem mem_ids_of_mem_successors {source target : String}
    (h : target ∈ graph.successors source) : target ∈ graph.ids := by
  obtain ⟨_, _, _, hhas⟩ := mem_successors_iff.1 h
  exact has_iff.1 hhas

/-- **The reachable blocks are the visitable ones.** -/
theorem mem_reachable_iff : id ∈ graph.reachable ↔ graph.Visitable id := by
  unfold reachable Visitable
  rw [Reach.mem_closure_iff (fun a _ b hb => mem_ids_of_mem_successors hb)]
  · cases graph.has graph.start <;> simp
  · intro a ha
    split at ha
    · rename_i hstart
      rw [List.mem_singleton.1 ha]
      exact has_iff.1 hstart
    · cases ha

/-- The reachable blocks are counted without repetition. -/
theorem length_reachable (graph : Graph) :
    graph.reachable.length = {id | graph.Visitable id}.ncard := by
  have hset : {id | graph.Visitable id} = (graph.reachable.toFinset : Set String) := by
    ext id
    simp [mem_reachable_iff]
  rw [hset, Set.ncard_coe_finset, List.toFinset_card_of_nodup graph.nodup_reachable]

end Graph

end Questionnaire
