/-
**Walking through a survey at a terminal.**

A walk shows the current block, takes an answer and goes on until a final block is reached.  The
answers come from a script or from the lines that someone types.  A script is a list of answers in
the order in which they are asked for, or a collection of answers by block; messages take none of
them.  A typed answer that is not accepted is asked for again.

Main definitions:

* `Questionnaire.Script` — answers prepared beforehand;
* `Questionnaire.WalkError` — why a walk ends early;
* `Questionnaire.Walk` — a walk on its way;
* `Questionnaire.Walk.question`, `Questionnaire.Walk.reply`, `Questionnaire.Walk.summary` — what is
  shown before an answer, what an answer leads to, and what is shown at the end;
* `Questionnaire.Walk.run` — a walk whose typed lines are all known.
-/

import Questionnaire.Graph.Json
import Questionnaire.Json.Reader
import Questionnaire.Session

set_option autoImplicit false

namespace Questionnaire

/-- Answers prepared beforehand: in the order in which they are asked for, or by block. -/
inductive Script where
  | sequence (answers : List Json)
  | byBlock (answers : Keyed Json)

/-- Where the answers of a walk come from. -/
inductive Answering where
  | scripted (script : Script)
  | typed

/-- Why a walk ends early. -/
inductive WalkError where
  | session (error : SessionError)
  | noScriptedAnswer (block : String)
  | inputClosed

/-- Why a walk ends early, in words. -/
def WalkError.message : WalkError → String
  | .session error => error.message
  | .noScriptedAnswer block => s!"No scripted answer for block '{block}'"
  | .inputClosed => "Input closed before the survey was completed."

/-- A walk on its way: its session, what it is conducted by, and the answers that are left. -/
structure Walk where
  session : Session
  selfLoopLimit : UInt32
  answering : Answering

/-! ### Scripts -/

namespace Script

/-- The script of a document: a list, or an object with the ids of blocks as its keys. -/
def ofJson? : Json → Option Script
  | .array answers => some (.sequence answers)
  | .object answers => some (.byBlock answers)
  | _ => none

/-- The next answer for a block, and the script without it; answers by block stay for another
visit. -/
def next? (script : Script) (block : String) : Option (Json × Script) :=
  match script with
  | .sequence (answer :: rest) => some (answer, .sequence rest)
  | .sequence [] => none
  | .byBlock answers => (answers.get? block).map fun answer => (answer, .byBlock answers)

end Script

/-! ### Typed lines -/

/-- The parts of a text between commas. -/
def splitAtCommas : List Char → List (List Char)
  | [] => [[]]
  | c :: cs =>
    if c = ',' then [] :: splitAtCommas cs
    else
      match splitAtCommas cs with
      | part :: parts => (c :: part) :: parts
      | [] => [[c]]

/-- The answer that a typed line gives to a block.  Options are separated by commas; a form is
written as JSON, and an empty line leaves it empty. -/
def Kind.answerOfLine (kind : Kind) (line : String) : Value :=
  let typed := trim line
  let form : Value :=
    let text := if typed = "" then "\x7b\x7d" else typed
    match Json.ofText text with
    | .ok document => .ofJson document
    | .error _ => .text text
  match kind with
  | .message => .null
  | .multiChoice .. =>
    let parts := (splitAtCommas typed.toList).map trimChars
    .list ((parts.filter fun part => !part.isEmpty).map fun part => .text (String.ofList part))
  | .contactForm _ => form
  | .demographics _ => form
  | _ => .text typed

/-- What asks for a typed line. -/
def Kind.linePrompt : Kind → String
  | .message => "> Press enter to continue: "
  | .multiChoice .. => "> Choose options (comma separated): "
  | .contactForm _ => "> Enter the form as a JSON object [default: \x7b\x7d]: "
  | .demographics _ => "> Enter the form as a JSON object [default: \x7b\x7d]: "
  | _ => "> Answer: "

/-! ### Walks -/

/-- A block as it is shown: its id and kind, its prompt and its options. -/
def Block.show (block : Block) : String :=
  let heading := s!"\n[{block.id}] ({block.kind.name})\n"
  let prompt := (block.prompt.map fun text => s!"  {text}\n").getD ""
  let options := (block.kind.choices?.getD []).map fun choice =>
    s!"    - {choice.id}: {choice.label}\n"
  heading ++ prompt ++ String.join options

namespace Walk

/-- Whether answers are typed. -/
def isTyped (walk : Walk) : Bool :=
  match walk.answering with
  | .typed => true
  | .scripted _ => false

/-- The block that a walk stands at, and what is shown before its answer is taken. -/
def question (walk : Walk) : Except WalkError (Block × String) :=
  match walk.session.currentBlock with
  | .error e => .error (.session e)
  | .ok block =>
    let prompt := if walk.isTyped then block.kind.linePrompt else ""
    .ok (block, block.show ++ prompt)

/-- An answer with what is shown when it is taken and the answers that are left. -/
structure Taken where
  answer : Value
  shown : String
  answering : Answering

/-- Takes the answer to a block, from the script or from the line that was typed, if any was. -/
def take (walk : Walk) (block : Block) (line : Option String) : Except WalkError Taken :=
  match walk.answering with
  | .typed =>
    match line with
    | none => .error .inputClosed
    | some line => .ok ⟨block.kind.answerOfLine line, "", .typed⟩
  | .scripted script =>
    match block.kind with
    | .message => .ok ⟨.null, "", walk.answering⟩
    | _ =>
      match script.next? block.id with
      | none => .error (.noScriptedAnswer block.id)
      | some (answer, rest) => .ok ⟨.ofJson answer, s!"  <- {answer.compact}\n", .scripted rest⟩

/-- What an answer leads to: what is shown, and the walk from there on. -/
structure Reply where
  shown : String
  next : Except WalkError Walk

/-- Answers a block.  A typed answer that is not accepted leaves the walk where it is. -/
def reply (walk : Walk) (block : Block) (line : Option String) : Reply :=
  match walk.take block line with
  | .error e => ⟨"", .error e⟩
  | .ok taken =>
    let walk := { walk with answering := taken.answering }
    match walk.session.submit walk.selfLoopLimit taken.answer with
    | .ok session => ⟨taken.shown, .ok { walk with session }⟩
    | .error (.rejectedAnswer id reason) =>
      let error := SessionError.rejectedAnswer id reason
      if walk.isTyped then ⟨taken.shown ++ s!"  !! {error.message}\n", .ok walk⟩
      else ⟨taken.shown, .error (.session error)⟩
    | .error error => ⟨taken.shown, .error (.session error)⟩

/-- What is shown at the end: the final block, the path and the stored answers. -/
def summary (walk : Walk) : String :=
  let session := walk.session
  let block := ((session.graph.block? session.current).map Block.show).getD ""
  let path := " -> ".intercalate session.history
  let percent := session.progress.toNumber.percent
  let bindings := (Json.object (Value.toMembers session.bindings)).indented
  block ++ "\n--- Session Summary ---\n" ++ s!"Session:   {session.id}\n" ++
    s!"Path:      {path}\n" ++ s!"Progress:  {percent}%\n" ++ s!"Variables: {bindings}\n"

/-- How a walk ends; one that is cut short has neither reached a final block nor failed. -/
inductive Ending where
  | finished
  | failed (error : WalkError)
  | cutShort

/-- Runs a walk for at most so many turns, with the lines that will be typed: all that is shown,
and how it ends. -/
def run : Nat → Walk → List String → String × Ending
  | 0, _, _ => ("", .cutShort)
  | turns + 1, walk, lines =>
    if walk.session.isComplete then (walk.summary, .finished)
    else
      match walk.question with
      | .error e => ("", .failed e)
      | .ok (block, shown) =>
        let answered := walk.reply block lines.head?
        match answered.next with
        | .error e => (shown ++ answered.shown, .failed e)
        | .ok next =>
          let (rest, ending) := run turns next lines.tail
          (shown ++ answered.shown ++ rest, ending)

end Walk

end Questionnaire
