/-
**Reachable blocks.**

A search goes from its roots along the edges of a survey, last found first, and keeps what it has
visited.  It is run forward along the transitions from the start, and backward against them from
the final blocks, which tells the blocks that lead to an end from those that do not.

Main definitions:

* `Questionnaire.Reach.search`, `Questionnaire.Reach.closure` — the search and what it visits;
* `Questionnaire.Graph.successors` — the existing blocks that a block may lead to;
* `Questionnaire.Graph.reachable` — the blocks that can be visited from the start;
* `Questionnaire.Graph.withoutExit` — the reachable blocks from which no final block is.

Main result:

* `Questionnaire.Reach.nodup_search` — no block is visited twice.
-/

import Questionnaire.Graph

set_option autoImplicit false

namespace Questionnaire

namespace Reach

/-- Visits the nodes on a stack and what they lead to, except what was visited before.  Every step
takes one node off the stack, so the fuel bounds the number of nodes that are ever put there. -/
def search (next : String → List String) : Nat → List String → List String → List String
  | 0, _, visited => visited
  | _ + 1, [], visited => visited
  | fuel + 1, node :: stack, visited =>
    if node ∈ visited then search next fuel stack visited
    else search next fuel (next node ++ stack) (node :: visited)

/-- What can be visited from the roots.  Each node of the whole list puts its followers on the
stack at most once, which bounds the search. -/
def closure (nodes : List String) (next : String → List String) (roots : List String) :
    List String :=
  search next (roots.length + (nodes.flatMap next).length) roots []

/-- No node is visited twice. -/
theorem nodup_search (next : String → List String) (fuel : Nat) (stack visited : List String)
    (h : visited.Nodup) : (search next fuel stack visited).Nodup := by
  induction fuel generalizing stack visited with
  | zero => simpa [search] using h
  | succ fuel ih =>
      cases stack with
      | nil => simpa [search] using h
      | cons node stack =>
          by_cases hmem : node ∈ visited
          · simpa [search, hmem] using ih stack visited h
          · simpa [search, hmem] using
              ih (next node ++ stack) (node :: visited) (List.nodup_cons.2 ⟨hmem, h⟩)

end Reach

namespace Graph

/-- The existing blocks that a block may lead to, as they are declared. -/
def successors (graph : Graph) (id : String) : List String :=
  match graph.block? id with
  | some block => block.targets.filter graph.has
  | none => []

/-- **The blocks that can be visited from the start**, along every branch of every transition.
There are none when the start does not exist. -/
def reachable (graph : Graph) : List String :=
  Reach.closure graph.ids graph.successors (if graph.has graph.start then [graph.start] else [])

/-- The reachable blocks that may lead to a block. -/
def sources (graph : Graph) (reachable : List String) (id : String) : List String :=
  (graph.blocks.filter fun block => block.id ∈ reachable && block.targets.contains id).map Block.id

/-- The reachable blocks from which a final block can be reached. -/
def withExit (graph : Graph) : List String :=
  let reachable := graph.reachable
  let finals := graph.blocks.filter fun block => block.isFinal && reachable.contains block.id
  Reach.closure graph.ids (graph.sources reachable) (finals.map Block.id)

/-- **The reachable blocks from which no final block can be reached**, in the order of the
survey. -/
def withoutExit (graph : Graph) : List String :=
  let reachable := graph.reachable
  let exits := graph.withExit
  graph.ids.filter fun id => reachable.contains id && !exits.contains id

/-- No block is counted twice among the reachable ones. -/
theorem nodup_reachable (graph : Graph) : graph.reachable.Nodup :=
  Reach.nodup_search _ _ _ _ List.nodup_nil

end Graph

end Questionnaire
