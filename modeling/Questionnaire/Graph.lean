/-
**Survey graphs.**

A survey is a list of blocks, each of which may lead to others by their ids, and the id of the
block at which it starts.  There is at least one block and no two blocks have the same id; that
the ids which a survey refers to exist is the matter of `Review.lean`.

Main definitions:

* `Questionnaire.Block` — a block of a survey;
* `Questionnaire.Graph` — a survey;
* `Questionnaire.Graph.ofBlocks` — the survey of a list of blocks, if it can be one;
* `Questionnaire.Graph.block?` — the block with an id.

Main results:

* `Questionnaire.Graph.block?_eq_some_iff` — the block with an id is the only one of the list;
* `Questionnaire.Graph.has_iff` — an id exists when some block of the list has it.
-/

import Questionnaire.Kind
import Questionnaire.Transition

set_option autoImplicit false

namespace Questionnaire

/-- A block of a survey.  The prompt is what it shows, the variable is where an answer goes, and
`next` says which block follows. -/
structure Block where
  id : String
  kind : Kind
  prompt : Option String
  variableName : Option String
  next : Option Transition

namespace Block

/-- The ids of the blocks that may follow, as they are declared. -/
def targets (block : Block) : List String := (block.next.map Transition.targets).getD []

/-- Whether a block ends the survey. -/
def isFinal (block : Block) : Bool := block.kind.isFinal

end Block

/-- A survey: its blocks in the order in which they were given, none of them twice, and the id of
the first one to be shown. -/
structure Graph where
  start : String
  title : Option String
  expectedMinutes : Option Number
  blocks : List Block
  blocks_ne_nil : blocks ≠ []
  nodup_ids : (blocks.map Block.id).Nodup

namespace Graph

/-- Why a list of blocks is no survey: it is empty, or a block has the id of an earlier one. -/
inductive Flaw where
  | noBlocks
  | repeatedId (position : Nat) (id : String)
  deriving DecidableEq

/-- The flaws of the blocks behind those whose ids are given. -/
def repeatedIds (earlier : List String) : Nat → List Block → List Flaw
  | _, [] => []
  | position, block :: blocks =>
    let flaws := repeatedIds (block.id :: earlier) (position + 1) blocks
    if block.id ∈ earlier then .repeatedId position block.id :: flaws else flaws

/-- The flaws of a list of blocks: the repeated ids in order, and whether there is no block. -/
def flaws (blocks : List Block) : List Flaw :=
  repeatedIds [] 0 blocks ++ if blocks.isEmpty then [.noBlocks] else []

/-- The survey of a list of blocks, without a title and an expected duration. -/
def ofBlocks (start : String) (blocks : List Block) : Except (List Flaw) Graph :=
  if h : blocks ≠ [] ∧ (blocks.map Block.id).Nodup then
    .ok ⟨start, none, none, blocks, h.1, h.2⟩
  else
    .error (flaws blocks)

/-- The block with an id. -/
def block? (graph : Graph) (id : String) : Option Block :=
  graph.blocks.find? fun block => block.id == id

/-- Whether a block has the id. -/
def has (graph : Graph) (id : String) : Bool := (graph.block? id).isSome

/-- The ids of the blocks, in order. -/
def ids (graph : Graph) : List String := graph.blocks.map Block.id

/-- What `block?` finds is a block of the survey. -/
theorem mem_of_block? {graph : Graph} {id : String} {block : Block}
    (h : graph.block? id = some block) : block ∈ graph.blocks ∧ block.id = id := by
  refine ⟨List.mem_of_find?_eq_some h, ?_⟩
  have := List.find?_some h
  simpa using this

private theorem eq_of_id_eq {blocks : List Block} (h : (blocks.map Block.id).Nodup) {a b : Block}
    (ha : a ∈ blocks) (hb : b ∈ blocks) (hid : a.id = b.id) : a = b := by
  induction blocks with
  | nil => simp at ha
  | cons block blocks ih =>
      rw [List.map_cons, List.nodup_cons] at h
      rcases List.mem_cons.1 ha with rfl | ha'
      · rcases List.mem_cons.1 hb with rfl | hb'
        · rfl
        · exact absurd (hid ▸ List.mem_map_of_mem hb') h.1
      · rcases List.mem_cons.1 hb with rfl | hb'
        · exact absurd (hid ▸ List.mem_map_of_mem ha') h.1
        · exact ih h.2 ha' hb'

/-- **The block with an id is the only one of the list.** -/
theorem block?_eq_some_iff {graph : Graph} {id : String} {block : Block} :
    graph.block? id = some block ↔ block ∈ graph.blocks ∧ block.id = id := by
  constructor
  · exact mem_of_block?
  · rintro ⟨hmem, rfl⟩
    cases hfind : graph.block? block.id with
    | none =>
        have hne := List.find?_eq_none.1 hfind block hmem
        simp at hne
    | some other =>
        obtain ⟨hother, hid⟩ := mem_of_block? hfind
        rw [eq_of_id_eq graph.nodup_ids hother hmem hid]

/-- **An id exists when some block of the list has it.** -/
theorem has_iff {graph : Graph} {id : String} : graph.has id = true ↔ id ∈ graph.ids := by
  rw [has, Option.isSome_iff_exists, ids, List.mem_map]
  constructor
  · rintro ⟨block, h⟩
    exact ⟨block, mem_of_block? h⟩
  · rintro ⟨block, h⟩
    exact ⟨block, block?_eq_some_iff.2 h⟩

end Graph

end Questionnaire
