/-
**The index of a survey.**

When a survey is put together from its blocks, they are gone through once: the position of each id
is entered when the id comes first, and a block whose id was entered before is a flaw.  Blocks are
looked up by that index from then on.  Here the one pass is shown to do what `Graph.ofBlocks` and
`Graph.block?` say without it: after any number of blocks the index has the first position of every
id, and the flaws are the blocks that had an id once more, in order.

Main definitions:

* `Questionnaire.Graph.Indexing`, `Questionnaire.Graph.Indexing.enter`,
  `Questionnaire.Graph.Indexing.ofBlocks` — **the pass**: the index and the flaws so far, one block
  more, and all blocks;
* `Questionnaire.Graph.repeats` — the blocks with the id of an earlier one, with their positions;
* `Questionnaire.Graph.Indexing.Tracks` — the invariant of the pass;
* `Questionnaire.Graph.FoundBy` — an index that finds the blocks of a survey;
* `Questionnaire.Document.Issue.reported` — an issue as it is reported.

Main results:

* `Questionnaire.Graph.Indexing.Tracks.enter` — every block keeps the invariant;
* `Questionnaire.Graph.Indexing.tracks_ofBlocks` — so it holds of all blocks;
* `Questionnaire.Graph.flaws_eq` — the flaws that the pass finds are those of the list of blocks;
* `Questionnaire.Graph.flaws_eq_nil_iff` — there are none exactly if the list can be a survey;
* `Questionnaire.Graph.index_agrees_with_blocks` — **the blocks and their index agree**.
-/

import Mathlib.Data.List.Induction
import Mathlib.Data.List.Nodup
import Questionnaire.Document.Problem
import Questionnaire.Proofs.Closed

set_option autoImplicit false

namespace Questionnaire

/-- An issue as it is reported: the id and the position of its block, and its text. -/
def Document.Issue.reported (issue : Document.Issue) : Option String × Option Nat × String :=
  (issue.block, issue.position, issue.problem.message)

namespace Graph

variable {blocks : List Block} {block : Block}

/-! ### The pass over the blocks -/

/-- The positions of blocks by their ids, and the flaws that were found, while a list of blocks is
gone through. -/
structure Indexing where
  index : Keyed Nat
  flaws : List Flaw

/-- Enters a block with its position.  If its id is in the index already, that is a flaw, and the
index keeps the position it has. -/
def Indexing.enter (indexing : Indexing) (entry : Block × Nat) : Indexing :=
  if indexing.index.has entry.1.id then
    { indexing with flaws := indexing.flaws ++ [.repeatedId entry.2 entry.1.id] }
  else
    { indexing with index := indexing.index.insert entry.1.id entry.2 }

/-- **The index and the flaws of a list of blocks**, by one pass. -/
def Indexing.ofBlocks (blocks : List Block) : Indexing :=
  blocks.zipIdx.foldl Indexing.enter ⟨[], []⟩

/-! ### What the pass is for -/

/-- The position of the first block with an id. -/
def firstPosition? (blocks : List Block) (id : String) : Option Nat :=
  blocks.findIdx? fun block => block.id == id

/-- **The blocks with the id of an earlier one**, with their positions and in order. -/
def repeats (blocks : List Block) : List (Block × Nat) :=
  blocks.zipIdx.filter fun entry => entry.1.id ∈ (blocks.take entry.2).map Block.id

/-- The flaw of a block whose id came before. -/
def Flaw.ofRepeat (entry : Block × Nat) : Flaw := .repeatedId entry.2 entry.1.id

theorem firstPosition?_concat (blocks : List Block) (block : Block) (id : String) :
    firstPosition? (blocks ++ [block]) id =
      (firstPosition? blocks id).or (if block.id = id then some blocks.length else none) := by
  rw [firstPosition?, List.findIdx?_append, ← firstPosition?, List.findIdx?_singleton]
  by_cases hid : block.id = id
  · simp [hid]
  · simp [hid]

/-- An id has a first position exactly if a block has it. -/
theorem isSome_firstPosition?_iff {id : String} :
    (firstPosition? blocks id).isSome = true ↔ id ∈ blocks.map Block.id := by
  rw [firstPosition?, List.findIdx?_isSome]
  simp

theorem repeats_concat (blocks : List Block) (block : Block) :
    repeats (blocks ++ [block]) =
      repeats blocks ++
        if block.id ∈ blocks.map Block.id then [(block, blocks.length)] else [] := by
  have hearlier : ∀ entry ∈ blocks.zipIdx,
      (blocks ++ [block]).take entry.2 = blocks.take entry.2 := by
    intro entry hentry
    have hlt : entry.2 < blocks.length := by simpa using List.snd_lt_of_mem_zipIdx hentry
    exact List.take_append_of_le_length (Nat.le_of_lt hlt)
  have hfilter : blocks.zipIdx.filter
      (fun entry => entry.1.id ∈ ((blocks ++ [block]).take entry.2).map Block.id) =
        repeats blocks := by
    refine List.filter_congr ?_
    intro entry hentry
    rw [hearlier entry hentry]
  rw [repeats, List.zipIdx_append, List.filter_append, hfilter, List.zipIdx_singleton,
    List.filter_singleton]
  simp

namespace Indexing

/-- **The invariant of the pass**: after some blocks the index has the first position of every id,
and the flaws are their repeats. -/
structure Tracks (blocks : List Block) (indexing : Indexing) : Prop where
  get?_eq : ∀ id, indexing.index.get? id = firstPosition? blocks id
  flaws_eq : indexing.flaws = (repeats blocks).map Flaw.ofRepeat

theorem Tracks.has_iff {indexing : Indexing} (h : Tracks blocks indexing) (id : String) :
    indexing.index.has id = true ↔ id ∈ blocks.map Block.id := by
  rw [Keyed.has, h.get?_eq, isSome_firstPosition?_iff]

/-- **Every block keeps the invariant.** -/
theorem Tracks.enter {indexing : Indexing} (h : Tracks blocks indexing) (block : Block) :
    Tracks (blocks ++ [block]) (indexing.enter (block, blocks.length)) := by
  by_cases hrepeat : block.id ∈ blocks.map Block.id
  · -- the id is in the index, which stays as it is
    have henter : indexing.enter (block, blocks.length) = { indexing with
        flaws := indexing.flaws ++ [.repeatedId blocks.length block.id] } :=
      if_pos ((h.has_iff block.id).2 hrepeat)
    rw [henter]
    refine ⟨?_, ?_⟩
    · intro id
      rw [firstPosition?_concat, h.get?_eq]
      by_cases hid : block.id = id
      · obtain ⟨position, hposition⟩ :=
          Option.isSome_iff_exists.1 (isSome_firstPosition?_iff.2 hrepeat)
        rw [← hid, hposition, Option.some_or]
      · rw [if_neg hid, Option.or_none]
    · rw [repeats_concat, if_pos hrepeat, List.map_append, ← h.flaws_eq]
      rfl
  · -- the id is new, so that its first position is that of the block
    have hnew : indexing.index.has block.id = false :=
      Bool.eq_false_iff.2 fun hhas => hrepeat ((h.has_iff block.id).1 hhas)
    have henter : indexing.enter (block, blocks.length) = { indexing with
        index := indexing.index.insert block.id blocks.length } := by
      rw [Indexing.enter, if_neg (by rw [hnew]; exact Bool.false_ne_true)]
    rw [henter]
    refine ⟨?_, ?_⟩
    · intro id
      rw [firstPosition?_concat, Keyed.get?_insert, h.get?_eq]
      by_cases hid : block.id = id
      · have hnone : firstPosition? blocks id = none := by
          rw [← Option.not_isSome_iff_eq_none, isSome_firstPosition?_iff, ← hid]
          exact hrepeat
        rw [if_pos hid, if_pos hid, hnone, Option.none_or]
      · rw [if_neg hid, if_neg hid, Option.or_none]
    · rw [repeats_concat, if_neg hrepeat, List.append_nil]
      exact h.flaws_eq

theorem ofBlocks_concat (blocks : List Block) (block : Block) :
    ofBlocks (blocks ++ [block]) = (ofBlocks blocks).enter (block, blocks.length) := by
  rw [ofBlocks, List.zipIdx_append, List.foldl_append, ← ofBlocks, List.zipIdx_singleton,
    Nat.zero_add]
  rfl

/-- **The invariant holds of all blocks.** -/
theorem tracks_ofBlocks (blocks : List Block) : Tracks blocks (ofBlocks blocks) := by
  induction blocks using List.reverseRecOn with
  | nil =>
      refine ⟨?_, rfl⟩
      intro id
      rfl
  | append_singleton blocks block ih =>
      rw [ofBlocks_concat]
      exact ih.enter block

end Indexing

/-! ### The flaws of a list of blocks -/

theorem repeatedIds_concat (earlier : List String) (position : Nat) (blocks : List Block)
    (block : Block) :
    repeatedIds earlier position (blocks ++ [block]) =
      repeatedIds earlier position blocks ++
        if block.id ∈ earlier ∨ block.id ∈ blocks.map Block.id then
          [.repeatedId (position + blocks.length) block.id] else [] := by
  induction blocks generalizing earlier position with
  | nil => simp [repeatedIds]
  | cons first blocks ih =>
      have hmem : (block.id ∈ first.id :: earlier ∨ block.id ∈ blocks.map Block.id) ↔
          (block.id ∈ earlier ∨ block.id ∈ (first :: blocks).map Block.id) := by
        rw [List.mem_cons, List.map_cons, List.mem_cons, or_assoc, or_left_comm]
      have hposition : position + 1 + blocks.length = position + (first :: blocks).length := by
        rw [List.length_cons]
        omega
      rw [List.cons_append, repeatedIds, repeatedIds, ih, hposition]
      simp only [hmem]
      split
      · rw [List.cons_append]
      · rfl

/-- The flaws of a list of blocks, block by block, are its repeats. -/
theorem repeatedIds_eq_map_repeats (blocks : List Block) :
    repeatedIds [] 0 blocks = (repeats blocks).map Flaw.ofRepeat := by
  induction blocks using List.reverseRecOn with
  | nil => rfl
  | append_singleton blocks block ih =>
      rw [repeatedIds_concat, repeats_concat, List.map_append, ih, Nat.zero_add]
      by_cases hrepeat : block.id ∈ blocks.map Block.id
      · rw [if_pos (.inr hrepeat), if_pos hrepeat]
        rfl
      · have hnot : ¬ (block.id ∈ [] ∨ block.id ∈ blocks.map Block.id) := by
          rintro (hnil | hmem)
          · cases hnil
          · exact hrepeat hmem
        rw [if_neg hnot, if_neg hrepeat]
        rfl

/-- **The flaws that the pass finds are those of the list of blocks**, but for the flaw of an empty
list. -/
theorem flaws_eq (blocks : List Block) :
    flaws blocks =
      (Indexing.ofBlocks blocks).flaws ++ if blocks.isEmpty then [.noBlocks] else [] := by
  rw [flaws, repeatedIds_eq_map_repeats, (Indexing.tracks_ofBlocks blocks).flaws_eq]

theorem repeats_eq_nil_iff : repeats blocks = [] ↔ (blocks.map Block.id).Nodup := by
  induction blocks using List.reverseRecOn with
  | nil => exact ⟨fun _ => List.nodup_nil, fun _ => rfl⟩
  | append_singleton blocks block ih =>
      rw [repeats_concat, List.append_eq_nil_iff, ih, List.map_append, List.map_singleton,
        ← List.concat_eq_append, List.nodup_concat]
      by_cases hrepeat : block.id ∈ blocks.map Block.id
      · simp [hrepeat]
      · simp [hrepeat]

/-- **There are no flaws exactly if the list can be a survey.** -/
theorem flaws_eq_nil_iff : flaws blocks = [] ↔ blocks ≠ [] ∧ (blocks.map Block.id).Nodup := by
  rw [flaws, repeatedIds_eq_map_repeats, List.append_eq_nil_iff, List.map_eq_nil_iff,
    repeats_eq_nil_iff, and_comm]
  cases blocks with
  | nil => simp
  | cons block blocks => simp

/-! ### The blocks and their index -/

/-- A block is the only one with its id. -/
theorem filter_id_eq_singleton (h : (blocks.map Block.id).Nodup) (hmem : block ∈ blocks) :
    blocks.filter (fun other => other.id == block.id) = [block] := by
  induction blocks with
  | nil => cases hmem
  | cons first rest ih =>
      obtain ⟨hfirst, hrest⟩ := List.nodup_cons.1 h
      rcases List.mem_cons.1 hmem with rfl | hmem
      · have hnone : rest.filter (fun other => other.id == block.id) = [] := by
          rw [List.filter_eq_nil_iff]
          intro other hother heq
          exact hfirst (beq_iff_eq.1 heq ▸ List.mem_map_of_mem hother)
        rw [List.filter_cons, if_pos (beq_self_eq_true block.id), hnone]
      · have hne : ¬ (first.id == block.id) = true := by
          rw [beq_iff_eq]
          intro heq
          exact hfirst (heq ▸ List.mem_map_of_mem hmem)
        rw [List.filter_cons, if_neg hne, ih hrest hmem]

/-- **An index that finds the blocks of a survey**: it has a position exactly for the id of the
block that stands there, what it finds is the only block with an id, and it finds one if there is
one. -/
structure FoundBy (graph : Graph) (index : Keyed Nat) : Prop where
  position_iff : ∀ id position, index.get? id = some position ↔
    ∃ block, graph.blocks[position]? = some block ∧ block.id = id
  block?_eq : ∀ id, graph.block? id = (index.get? id).bind (graph.blocks[·]?)
  has_eq : ∀ id, graph.has id = index.has id
  block?_iff : ∀ id block, graph.block? id = some block ↔
    graph.blocks.filter (fun other => other.id == id) = [block]
  has_iff : ∀ id, graph.has id = true ↔ ∃ block ∈ graph.blocks, block.id = id

/-- The index that the pass builds finds the blocks. -/
theorem foundBy_indexing (graph : Graph) :
    graph.FoundBy (Indexing.ofBlocks graph.blocks).index := by
  have htracks := Indexing.tracks_ofBlocks graph.blocks
  refine ⟨?_, ?_, ?_, ?_, ?_⟩
  · intro id position
    rw [htracks.get?_eq]
    constructor
    · intro hposition
      obtain ⟨hlt, hid, -⟩ := List.findIdx?_eq_some_iff_getElem.1 hposition
      exact ⟨graph.blocks[position], List.getElem?_eq_getElem hlt, beq_iff_eq.1 hid⟩
    · rintro ⟨block, hblock, rfl⟩
      obtain ⟨hlt, rfl⟩ := List.getElem?_eq_some_iff.1 hblock
      refine List.findIdx?_eq_some_iff_getElem.2 ⟨hlt, beq_self_eq_true _, ?_⟩
      -- an earlier block with the id would be one block too many
      intro earlier hearlier heq
      have hids := List.pairwise_iff_getElem.1 (List.pairwise_map.1 graph.nodup_ids)
      exact hids earlier position (Nat.lt_trans hearlier hlt) hlt hearlier (beq_iff_eq.1 heq)
  · intro id
    rw [htracks.get?_eq, block?, List.find?_eq_bind_findIdx?_getElem?, ← firstPosition?]
  · intro id
    rw [Bool.eq_iff_iff, has_iff, htracks.has_iff]
    exact Iff.rfl
  · intro id block
    constructor
    · intro hfound
      obtain ⟨hmem, rfl⟩ := mem_of_block? hfound
      exact filter_id_eq_singleton graph.nodup_ids hmem
    · intro honly
      have hmem : block ∈ graph.blocks.filter (fun other => other.id == id) := by
        rw [honly]
        exact List.mem_singleton_self block
      obtain ⟨hblock, hid⟩ := List.mem_filter.1 hmem
      exact block?_eq_some_iff.2 ⟨hblock, beq_iff_eq.1 hid⟩
  · intro id
    rw [has_iff, ids, List.mem_map]

/-- The flaws of a list of blocks as they are reported. -/
theorem reported_flaws (blocks : List Block) :
    (flaws blocks).map (fun flaw => (Document.Issue.ofFlaw flaw).reported) =
      ((repeats blocks).map fun entry =>
        (some entry.1.id, some entry.2, "duplicate block id")) ++
          if blocks = [] then [(none, none, "graph has no blocks")] else [] := by
  rw [flaws, repeatedIds_eq_map_repeats, List.map_append, List.map_map]
  congr 1
  cases blocks with
  | nil => rfl
  | cons block blocks => rfl

/-- **The blocks of a survey and their index agree.**  A list of blocks is a survey exactly if it is
not empty and no id comes twice, that is if the pass finds no flaw, and then the index that it
builds finds the blocks by their ids.  Otherwise the flaws are what the pass has found: each block
whose id came before, with its position and in order, and at the end that there is no block, if
there is none. -/
theorem index_agrees_with_blocks (start : String) (blocks : List Block) :
    ((∃ graph, ofBlocks start blocks = .ok graph) ↔
      blocks ≠ [] ∧ (blocks.map Block.id).Nodup) ∧
    (flaws blocks = [] ↔ blocks ≠ [] ∧ (blocks.map Block.id).Nodup) ∧
    (∀ graph, ofBlocks start blocks = .ok graph → graph.start = start ∧ graph.blocks = blocks ∧
      graph.FoundBy (Indexing.ofBlocks blocks).index) ∧
    (¬ (blocks ≠ [] ∧ (blocks.map Block.id).Nodup) →
      ∃ flaws, ofBlocks start blocks = .error flaws ∧
        flaws = (Indexing.ofBlocks blocks).flaws ++ (if blocks.isEmpty then [.noBlocks] else []) ∧
        flaws.map (fun flaw => (Document.Issue.ofFlaw flaw).reported) =
          ((repeats blocks).map fun entry =>
            (some entry.1.id, some entry.2, "duplicate block id")) ++
              if blocks = [] then [(none, none, "graph has no blocks")] else []) := by
  by_cases hsurvey : blocks ≠ [] ∧ (blocks.map Block.id).Nodup
  · have hok : ofBlocks start blocks = .ok ⟨start, none, none, blocks, hsurvey.1, hsurvey.2⟩ :=
      dif_pos hsurvey
    refine ⟨⟨fun _ => hsurvey, fun _ => ⟨_, hok⟩⟩, flaws_eq_nil_iff, ?_,
      fun hnot => absurd hsurvey hnot⟩
    intro graph hgraph
    rw [hok] at hgraph
    cases hgraph
    exact ⟨rfl, rfl, foundBy_indexing _⟩
  · have herror : ofBlocks start blocks = .error (flaws blocks) := dif_neg hsurvey
    refine ⟨⟨?_, fun hblocks => absurd hblocks hsurvey⟩, flaws_eq_nil_iff, ?_, fun _ => ?_⟩
    · rintro ⟨graph, hgraph⟩
      rw [herror] at hgraph
      cases hgraph
    · intro graph hgraph
      rw [herror] at hgraph
      cases hgraph
    · exact ⟨flaws blocks, herror, flaws_eq blocks, reported_flaws blocks⟩

/-- The blocks of `Graph.retry` are a survey; twice in a row they are none, and the flaws are the
third and the fourth of them. -/
theorem index_agrees_with_blocks_retry :
    (∃ graph, ofBlocks "ask" retry.blocks = .ok graph ∧
      graph.FoundBy (Indexing.ofBlocks retry.blocks).index) ∧
    ¬ ((retry.blocks ++ retry.blocks) ≠ [] ∧
      ((retry.blocks ++ retry.blocks).map Block.id).Nodup) ∧
    ∃ flaws, ofBlocks "ask" (retry.blocks ++ retry.blocks) = .error flaws ∧
      flaws.map (fun flaw => (Document.Issue.ofFlaw flaw).reported) =
        [(some "ask", some 2, "duplicate block id"),
          (some "end", some 3, "duplicate block id")] := by
  have honce := index_agrees_with_blocks "ask" retry.blocks
  have htwice := index_agrees_with_blocks "ask" (retry.blocks ++ retry.blocks)
  obtain ⟨graph, hgraph⟩ := honce.1.2 ⟨retry.blocks_ne_nil, retry.nodup_ids⟩
  have hrepeats : ¬ ((retry.blocks ++ retry.blocks) ≠ [] ∧
      ((retry.blocks ++ retry.blocks).map Block.id).Nodup) := by decide +kernel
  obtain ⟨flaws, herror, -, hreported⟩ := htwice.2.2.2 hrepeats
  refine ⟨⟨graph, hgraph, (honce.2.2.1 graph hgraph).2.2⟩, hrepeats, flaws, herror, ?_⟩
  rw [hreported]
  rfl

end Graph

end Questionnaire
