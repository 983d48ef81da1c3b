/-
**Surveys are read back from their documents.**

The document that a survey is written as describes this survey and no other one: reading it never
fails and gives back every block, with every attribute, in the same order.  Only a kind that is not
known loses its name, since the document has it under a key that is not read.

Main definitions:

* `Questionnaire.Graph.Writable` — surveys that keep their meaning when they are written;
* `Questionnaire.Graph.forgetNames` — a survey, where kinds that are not known go by one name;
* `Questionnaire.Document.Draft.ofGraph` — the draft that a survey's document is read into.

Main results:

* `Questionnaire.Document.ofMembers_members` — the header of a survey is read back;
* `Questionnaire.Document.issues_ofGraph`, `Questionnaire.Document.goodBlocks_ofGraph` — no issue is
  found in a survey's document, and all its blocks can be read;
* `Questionnaire.Document.graphOfJson_toJson` — **a survey is read back from its document**.
-/

import Questionnaire.Document.Draft
import Questionnaire.Proofs.Document.Block

set_option autoImplicit false

namespace Questionnaire

namespace Graph

/-- **A survey that keeps its meaning when it is written**: all its blocks do, and its duration is
finite. -/
structure Writable (graph : Graph) : Prop where
  block : ∀ block ∈ graph.blocks, block.Writable
  expectedMinutes : ∀ x ∈ graph.expectedMinutes, x.isFinite = true

/-- A survey, where every kind that is not known goes by the name that documents have for it. -/
def forgetNames (graph : Graph) : Graph where
  start := graph.start
  title := graph.title
  expectedMinutes := graph.expectedMinutes
  blocks := graph.blocks.map Block.forgetName
  blocks_ne_nil := by simp [graph.blocks_ne_nil]
  nodup_ids := by
    rw [List.map_map]
    exact graph.nodup_ids

/-- Without kinds that are not known there is no name to forget. -/
theorem forgetNames_of_known {graph : Graph}
    (h : ∀ block ∈ graph.blocks, block.kind.kindName? ≠ none) : graph.forgetNames = graph := by
  have hblocks : graph.blocks.map Block.forgetName = graph.blocks := by
    rw [List.map_congr_left fun block hmem => Block.forgetName_of_known (h block hmem)]
    exact List.map_id _
  obtain ⟨start, title, expectedMinutes, blocks, hne, hnodup⟩ := graph
  simp only [forgetNames, hblocks]

/-- The members of a survey's document. -/
def members (graph : Graph) : List (String × Json) :=
  [("startBlockId", .string graph.start)] ++
    optionalMember "title" (graph.title.map Json.string) ++
    optionalMember "expectedMinutes" (graph.expectedMinutes.map Json.ofNumber) ++
    [("blocks", .array (graph.blocks.map Block.toJson))]

theorem toJson_eq (graph : Graph) : graph.toJson = .object graph.members := rfl

/-- The members of a survey's document in the order of their keys. -/
theorem ofList_arrangedMembers (graph : Graph) :
    Keyed.ofList (Json.arrangedMembers graph.members) =
      [("blocks", .array ((graph.blocks.map Block.toJson).map Json.arranged))] ++
        optionalMember "expectedMinutes"
          ((graph.expectedMinutes.map Json.ofNumber).map Json.arranged) ++
        [("startBlockId", .string graph.start)] ++
        optionalMember "title" (graph.title.map Json.string) := by
  have htitle : ¬ "title" < "startBlockId" := by decide +kernel
  have hminutes : "expectedMinutes" < "startBlockId" := by decide +kernel
  have hblocks : "blocks" < "startBlockId" ∧ "blocks" < "expectedMinutes" := by decide +kernel
  rw [members]
  cases graph.title <;> cases graph.expectedMinutes <;>
    simp only [optionalMember, Option.map_some, Option.map_none, Option.toList_some,
      Option.toList_none, List.append_nil, List.cons_append, List.nil_append,
      Json.arrangedMembers, Json.arranged_array, Json.arranged_string, Keyed.ofList,
      List.foldl_cons, List.foldl_nil, Keyed.insert, String.reduceEq, htitle, hminutes, hblocks,
      if_true, if_false]

end Graph

namespace Document

variable {graph : Graph}

/-- The draft that a survey's document is read into: its header, and its blocks as documents. -/
def Draft.ofGraph (graph : Graph) : Draft where
  start := some graph.start
  title := graph.title
  expectedMinutes := graph.expectedMinutes
  blocks := (graph.blocks.map Block.toJson).map Json.arranged

/-- **The header of a survey is read back.** -/
theorem ofMembers_members (h : graph.Writable) :
    Draft.ofMembers (Keyed.ofList (Json.arrangedMembers graph.members)) =
      .ok (Draft.ofGraph graph) := by
  have hfields : HeaderField.ofKey? "startBlockId" = some .start ∧
      HeaderField.ofKey? "title" = some .title ∧
      HeaderField.ofKey? "expectedMinutes" = some .expectedMinutes ∧
      HeaderField.ofKey? "blocks" = some .blocks := by decide +kernel
  have hminutes : ∀ x, graph.expectedMinutes = some x →
      Draft.readMinutes (Json.ofNumber x).arranged = .ok (some x) := by
    intro x hx
    rw [Json.ofNumber_eq (h.expectedMinutes x hx)]
    rfl
  rw [graph.ofList_arrangedMembers]
  cases htitle : graph.title <;> cases hexpected : graph.expectedMinutes <;>
    simp [optionalMember, Draft.ofMembers, Draft.readMembers, hfields, Draft.readField,
      Draft.readText, hminutes, hexpected, Draft.readBlocks, Except.map, Draft.ofBlocks,
      Draft.ofGraph, htitle]

/-- What becomes of the blocks of a survey's document. -/
theorem readings_ofGraph (h : graph.Writable) :
    (Draft.ofGraph graph).readings .standard =
      (graph.blocks.map fun block => ⟨some block.id, .ok block.forgetName⟩).zipIdx := by
  have hblock : ∀ block ∈ graph.blocks, readBlock .standard block.toJson.arranged =
      ⟨some block.id, .ok block.forgetName⟩ := fun block hmem => readBlock_toJson (h.block block hmem)
  rw [Draft.readings, Draft.ofGraph, List.map_map, List.map_map]
  refine congrArg List.zipIdx (List.map_congr_left fun block hmem => ?_)
  rw [Function.comp_apply, Function.comp_apply, hblock block hmem]

/-- **All blocks of a survey's document can be read.** -/
theorem goodBlocks_ofGraph (h : graph.Writable) :
    (Draft.ofGraph graph).goodBlocks .standard = graph.forgetNames.blocks := by
  have hgood : (Draft.ofGraph graph).goodBlocks .standard =
      ((Draft.ofGraph graph).readings .standard).filterMap
        ((fun reading => reading.outcome.toOption) ∘ Prod.fst) := rfl
  rw [hgood, readings_ofGraph h, ← List.filterMap_map, List.zipIdx_map_fst, List.filterMap_map]
  exact congrFun List.filterMap_eq_map graph.blocks

/-- **No issue is found in a survey's document.** -/
theorem issues_ofGraph (h : graph.Writable) : (Draft.ofGraph graph).issues .standard = [] := by
  have hsome : (Draft.ofGraph graph).blocks.isEmpty = false := by
    simp [Draft.ofGraph, graph.blocks_ne_nil]
  have hread : ∀ entry ∈ (Draft.ofGraph graph).readings .standard,
      Draft.blockIssues entry.1 entry.2 = [] := by
    intro entry hmem
    rw [readings_ofGraph h] at hmem
    obtain ⟨block, -, hblock⟩ := List.mem_map.1 (List.fst_mem_of_mem_zipIdx hmem)
    rw [← hblock]
    rfl
  have hshared : repeated (((Draft.ofGraph graph).goodBlocks .standard).map Block.id) = [] := by
    rw [goodBlocks_ofGraph h]
    exact repeated_eq_nil_iff.2 graph.forgetNames.nodup_ids
  simp only [Draft.issues, hsome, hshared, Bool.false_eq_true, if_false, List.nil_append,
    List.map_nil, List.append_nil]
  exact List.flatMap_eq_nil_iff.2 hread

/-- The draft of a survey makes the survey again. -/
theorem toGraph_ofGraph (h : graph.Writable) :
    (Draft.ofGraph graph).toGraph .standard = .ok graph.forgetNames := by
  have hblocks := And.intro graph.forgetNames.blocks_ne_nil graph.forgetNames.nodup_ids
  simp only [Draft.toGraph, issues_ofGraph h, goodBlocks_ofGraph h, Graph.ofBlocks, dif_pos hblocks]
  rfl

/-- **A survey is read back from its document**, the names of kinds that are not known apart; so a
survey that has only known kinds is read back as it is. -/
theorem graphOfJson_toJson (h : graph.Writable) :
    graphOfJson .standard graph.toJson.arranged = .ok graph.forgetNames ∧
    ((∀ block ∈ graph.blocks, block.kind.kindName? ≠ none) →
      graphOfJson .standard graph.toJson.arranged = .ok graph) := by
  have hdraft : Draft.ofJson graph.toJson.arranged = .ok (Draft.ofGraph graph) := by
    rw [Graph.toJson_eq, Json.arranged_object, Draft.ofJson, ofMembers_members h, Except.mapError]
  have hread : graphOfJson .standard graph.toJson.arranged = .ok graph.forgetNames := by
    simp only [graphOfJson, hdraft, toGraph_ofGraph h]
  refine ⟨hread, fun hknown => ?_⟩
  rw [hread, Graph.forgetNames_of_known hknown]

end Document

namespace Graph

/-- An option that stands for a record. -/
def shop : Choice :=
  ⟨"shop", "In a shop", .record [("floor", .number (.ofNat 1)), ("open", .bool true)]⟩

/-- A question with two options, and rules that look for one of them and at another variable. -/
def visit : Block where
  id := "visit"
  kind := .multiChoice [shop, ⟨"home", "At home", .null⟩] (some 2)
  prompt := some "Where?"
  variableName := some "place"
  next := some (.conditional
    [⟨⟨"place", .oneOf [.text "home", .list [.number (.ofNat 2)]]⟩, "mood"⟩,
      ⟨⟨"age", .above (.ofNat 17)⟩, "end"⟩] "mood")

/-- A block of some kind. -/
def mood (kind : Kind) : Block where
  id := "mood"
  kind := kind
  prompt := none
  variableName := none
  next := some (.direct "end")

/-- A survey of a question, a block of some kind and an end. -/
def feedback (kind : Kind) : Graph where
  start := "visit"
  title := some "Feedback"
  expectedMinutes := some (.ofNat 3)
  blocks := [visit, mood kind,
    { id := "end", kind := .final, prompt := none, variableName := none, next := none }]
  blocks_ne_nil := List.cons_ne_nil _ _
  nodup_ids := by
    rw [List.map_cons, List.map_cons, List.map_cons, List.map_nil]
    exact (by decide +kernel : ["visit", "mood", "end"].Nodup)

theorem writable_shop : shop.Writable where
  id := by decide +kernel
  finite := by
    have hone : (Number.ofNat 1).isFinite = true := by decide +kernel
    exact ⟨hone, trivial, trivial⟩
  ordered := by
    have hkeys : Keyed.Increasing [("floor", Value.number (.ofNat 1)), ("open", .bool true)] :=
      List.pairwise_pair.2 (by decide +kernel)
    exact ⟨hkeys, trivial, trivial, trivial⟩

theorem writable_visit : visit.Writable where
  id := by decide +kernel
  kind := by
    have hhome : Choice.Writable ⟨"home", "At home", .null⟩ :=
      ⟨by decide +kernel, trivial, trivial⟩
    refine ⟨List.forall_mem_cons.2 ⟨writable_shop, List.forall_mem_singleton.2 hhome⟩, ?_⟩
    rintro n ⟨⟩
    decide
  variableName := by
    rintro name ⟨⟩
    decide +kernel
  next := by
    rintro transition ⟨⟩
    have htwo : (Number.ofNat 2).isFinite = true := by decide +kernel
    have hplace : (Predicate.oneOf [.text "home", .list [.number (.ofNat 2)]]).Writable :=
      ⟨⟨trivial, ⟨htwo, trivial⟩, trivial⟩, trivial, ⟨trivial, trivial⟩, trivial⟩
    have hage : (Predicate.above (.ofNat 17)).Writable :=
      (by decide +kernel : (Number.ofNat 17).isFinite = true)
    exact ⟨by decide +kernel,
      List.forall_mem_cons.2 ⟨hplace, List.forall_mem_singleton.2 hage⟩⟩

theorem writable_feedback {kind : Kind} (h : kind.Writable) : (feedback kind).Writable where
  block := by
    refine List.forall_mem_cons.2 ⟨writable_visit, List.forall_mem_cons.2 ⟨?_,
      List.forall_mem_singleton.2 ?_⟩⟩
    · refine ⟨(by decide +kernel : isBlankText "mood" = false), h, fun _ h => (nomatch h), ?_⟩
      rintro transition ⟨⟩
      exact ⟨by decide +kernel, fun _ h => (nomatch h)⟩
    · exact ⟨by decide +kernel, trivial, fun _ h => (nomatch h), fun _ h => (nomatch h)⟩
  expectedMinutes := by
    intro x hx
    rw [← Option.mem_some_iff.1 hx]
    decide +kernel

end Graph

/-- The survey `Graph.feedback` is read back: with a block that has lost the name of its kind if this
kind is not known, and else as it is. -/
theorem Document.graphOfJson_toJson_feedback :
    (Graph.feedback (.unrecognized "slider")).Writable ∧
    graphOfJson .standard (Graph.feedback (.unrecognized "slider")).toJson.arranged =
      .ok (Graph.feedback (.unrecognized "unrecognized")) ∧
    (Graph.feedback .yesNo).Writable ∧
    (∀ block ∈ (Graph.feedback .yesNo).blocks, block.kind.kindName? ≠ none) ∧
    graphOfJson .standard (Graph.feedback .yesNo).toJson.arranged = .ok (Graph.feedback .yesNo) := by
  have hslider : (Graph.feedback (.unrecognized "slider")).Writable :=
    Graph.writable_feedback trivial
  have hknown : ∀ block ∈ (Graph.feedback .yesNo).blocks, block.kind.kindName? ≠ none :=
    List.forall_mem_cons.2 ⟨nofun, List.forall_mem_cons.2 ⟨nofun,
      List.forall_mem_singleton.2 nofun⟩⟩
  have hyesNo : (Graph.feedback .yesNo).Writable := Graph.writable_feedback trivial
  exact ⟨hslider, (graphOfJson_toJson hslider).1, hyesNo, hknown,
    (graphOfJson_toJson hyesNo).2 hknown⟩

end Questionnaire
