/-
**Reading surveys.**

The header of a survey document is read first: where the survey starts, its title, its expected
duration, and the documents of its blocks.  Then all blocks are read, and either they make a
survey or all their problems are reported, in the order of the blocks.

Main definitions:

* `Questionnaire.Document.Draft` — the header of a survey and its blocks as documents;
* `Questionnaire.Document.Draft.ofJson` — reading the header;
* `Questionnaire.Document.Draft.issues`, `Questionnaire.Document.Draft.toGraph` — the problems of
  a draft, and the survey of a draft without any;
* `Questionnaire.Document.graphOfJson`, `Questionnaire.Document.graphOfText` — reading a survey.
-/

import Questionnaire.Document.Block
import Questionnaire.Repetition

set_option autoImplicit false

namespace Questionnaire

namespace Document

/-- The header of a survey and its blocks as documents. -/
structure Draft where
  start : Option String
  title : Option String
  expectedMinutes : Option Number
  blocks : List Json

/-- The fields of a header. -/
inductive HeaderField where
  | start
  | title
  | expectedMinutes
  | blocks
  deriving DecidableEq

namespace HeaderField

/-- The name of a field in messages. -/
def name : HeaderField → String
  | .start => "start"
  | .title => "title"
  | .expectedMinutes => "expected_minutes"
  | .blocks => "blocks"

/-- The spellings of a field. -/
def spellings : HeaderField → List String
  | .start => ["start", "startBlockId", "start_block_id"]
  | .title => ["title"]
  | .expectedMinutes =>
    ["expected_minutes", "expectedMinutes", "expected_duration", "expectedDuration"]
  | .blocks => ["blocks"]

/-- The field that a key spells. -/
def ofKey? (key : String) : Option HeaderField :=
  [.start, .title, .expectedMinutes, .blocks].find? fun field : HeaderField =>
    field.spellings.contains key

end HeaderField

namespace Draft

/-- The draft of a list of blocks without a header. -/
def ofBlocks (blocks : List Json) : Draft := ⟨none, none, none, blocks⟩

/-- Reads a text that may be null. -/
def readText (raw : Json) : Except HeaderProblem (Option String) :=
  match raw with
  | .null => .ok none
  | .string s => .ok (some s)
  | _ => .error (.wrongType raw "a string")

/-- Reads a number that may be null. -/
def readMinutes (raw : Json) : Except HeaderProblem (Option Number) :=
  match raw with
  | .null => .ok none
  | .number n => .ok (some n.toNumber)
  | _ => .error (.wrongType raw "f64")

/-- Reads a list of blocks. -/
def readBlocks (raw : Json) : Except HeaderProblem (List Json) :=
  match raw with
  | .array items => .ok items
  | _ => .error (.wrongType raw "a sequence")

/-- Reads one field of the header into a draft. -/
def readField (draft : Draft) (field : HeaderField) (raw : Json) : Except HeaderProblem Draft :=
  match field with
  | .start => (readText raw).map fun start => { draft with start }
  | .title => (readText raw).map fun title => { draft with title }
  | .expectedMinutes =>
    (readMinutes raw).map fun expectedMinutes => { draft with expectedMinutes }
  | .blocks => (readBlocks raw).map fun blocks => { draft with blocks }

/-- Reads the members of an object into a draft, up to the first problem.  A field that was read
before, in whatever spelling, may not come again; other members are passed over. -/
def readMembers (draft : Draft) (read : List HeaderField) :
    List (String × Json) → Except HeaderProblem Draft
  | [] => .ok draft
  | (key, raw) :: members =>
    match HeaderField.ofKey? key with
    | none => readMembers draft read members
    | some field =>
      if field ∈ read then .error (.repeatedField field.name)
      else
        match draft.readField field raw with
        | .error problem => .error problem
        | .ok draft => readMembers draft (field :: read) members

/-- The draft of the members of an object. -/
def ofMembers (members : List (String × Json)) : Except HeaderProblem Draft :=
  readMembers (ofBlocks []) [] members

/-- The draft of a document: an object with a header, or a bare list of blocks. -/
def ofJson (document : Json) : Except Problem Draft :=
  match document with
  | .array blocks => .ok (ofBlocks blocks)
  | .object members => (ofMembers members).mapError Problem.header
  | _ => .error (.notAnObject document.shape)

/-- The blocks of a draft, each read with its position. -/
def readings (vocabulary : Vocabulary) (draft : Draft) : List (BlockReading × Nat) :=
  (draft.blocks.map (readBlock vocabulary)).zipIdx

/-- The blocks of a draft that could be read. -/
def goodBlocks (vocabulary : Vocabulary) (draft : Draft) : List Block :=
  (draft.readings vocabulary).filterMap fun (reading, _) => reading.outcome.toOption

/-- The issues of one block. -/
def blockIssues (reading : BlockReading) (position : Nat) : List Issue :=
  match reading.outcome with
  | .ok _ => []
  | .error problems => problems.map fun problem => ⟨reading.id, some position, problem⟩

/-- All issues of a draft: that there are no blocks, the problems of each block in order, and the
ids that several good blocks share. -/
def issues (vocabulary : Vocabulary) (draft : Draft) : List Issue :=
  let shared := repeated ((draft.goodBlocks vocabulary).map Block.id)
  (if draft.blocks.isEmpty then [.ofDocument .noBlocks] else []) ++
    (draft.readings vocabulary).flatMap (fun (reading, position) => blockIssues reading position) ++
    shared.map fun id => ⟨some id, none, .repeatedId⟩

/-- The survey of a draft.  Without a declared start it starts at its first block. -/
def toGraph (vocabulary : Vocabulary) (draft : Draft) : Except LoadError Graph :=
  match draft.issues vocabulary, draft.goodBlocks vocabulary with
  | [], blocks =>
    let first := (blocks.head?.map Block.id).getD ""
    match Graph.ofBlocks (draft.start.getD first) blocks with
    | .error flaws => .error (.malformed (flaws.map Issue.ofFlaw))
    | .ok graph =>
      .ok { graph with title := draft.title, expectedMinutes := draft.expectedMinutes }
  | issues, _ => .error (.malformed issues)

end Draft

/-- The survey of a document. -/
def graphOfJson (vocabulary : Vocabulary) (document : Json) : Except LoadError Graph :=
  match Draft.ofJson document with
  | .error problem => .error (.malformed [.ofDocument problem])
  | .ok draft => draft.toGraph vocabulary

/-- The survey of a text. -/
def graphOfText (vocabulary : Vocabulary) (text : String) : Except LoadError Graph :=
  match Json.ofText text with
  | .error error => .error (.unreadableText error)
  | .ok document => graphOfJson vocabulary document

end Document

end Questionnaire
