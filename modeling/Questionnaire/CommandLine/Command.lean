/-
**The commands.**

One command reviews a survey and prints the report; the other walks through a survey.  Both read
their files first, settings before the survey, and stop at the first error.

Main definitions:

* `Questionnaire.Command` — what is asked for;
* `Questionnaire.CommandError` — why it cannot be done;
* `Questionnaire.reviewText`, `Questionnaire.openWalk` — the report, and the start of a walk;
* `Questionnaire.Output`, `Questionnaire.Command.output` — what a command prints when all lines that
  will be typed are known.
-/

import Questionnaire.CommandLine.Walk
import Questionnaire.Document.Draft
import Questionnaire.Settings

set_option autoImplicit false

namespace Questionnaire

/-- A file that a command names, with its text or why it could not be read. -/
structure SourceFile where
  path : String
  content : Except FileError String

/-- What is asked for: a review, or a walk with scripted or typed answers. -/
inductive Action where
  | review
  | walk (answers : Option SourceFile) (typed : Bool)

/-- An action with the survey it is about and the settings it goes by. -/
structure Command where
  action : Action
  graph : SourceFile
  settings : Option SourceFile

/-- Why a command cannot be carried out. -/
inductive CommandError where
  | settings (error : SettingsError)
  | unreadableGraph (path : String) (error : FileError)
  | graph (error : Document.LoadError)
  | unreadableAnswers (path : String) (error : FileError)
  | malformedAnswers (reason : String)
  | noAnswers
  | walk (error : WalkError)

/-- Why a command cannot be carried out, in words. -/
def CommandError.message : CommandError → String
  | .settings error => error.message
  | .unreadableGraph path error => s!"Failed to read graph file '{path}': {error.message}"
  | .graph error => error.message
  | .unreadableAnswers path error => s!"Failed to read answers file '{path}': {error.message}"
  | .malformedAnswers reason => "Failed to parse answers JSON: " ++ reason
  | .noAnswers => "Either --answers or --interactive is required to run a session."
  | .walk error => error.message

/-- The settings of a command. -/
def Command.loadSettings (command : Command) : Except CommandError Settings :=
  match command.settings with
  | none => .ok .standard
  | some file => (Settings.ofFile file.path file.content).mapError .settings

/-- The survey of a command. -/
def Command.loadGraph (command : Command) (settings : Settings) : Except CommandError Graph :=
  match command.graph.content with
  | .error error => .error (.unreadableGraph command.graph.path error)
  | .ok text => (Document.graphOfText settings.vocabulary text).mapError .graph

/-- The script of a file. -/
def loadScript (file : SourceFile) : Except CommandError Script :=
  match file.content with
  | .error error => .error (.unreadableAnswers file.path error)
  | .ok text =>
    match Json.ofText text with
    | .error error => .error (.malformedAnswers error.message)
    | .ok document =>
      match Script.ofJson? document with
      | some script => .ok script
      | none => .error (.malformedAnswers "the answers are neither a list nor an object")

/-- Where the answers of a walk come from. -/
def loadAnswering (answers : Option SourceFile) (typed : Bool) : Except CommandError Answering :=
  match answers with
  | some file => (loadScript file).map .scripted
  | none => if typed then .ok .typed else .error .noAnswers

/-- The report on a survey as it is printed, and whether the survey is fit to be run. -/
def reviewText (settings : Settings) (graph : Graph) : String × Bool :=
  let report := graph.review settings.conduct.review
  (report.toJson.indented ++ "\n", report.isValid)

/-- The start of a walk. -/
def openWalk (settings : Settings) (graph : Graph) (answering : Answering) (sessionId : String) :
    Except CommandError Walk :=
  match Session.start settings.conduct sessionId graph with
  | .error e => .error (.walk (.session e))
  | .ok session => .ok ⟨session, settings.conduct.selfLoopLimit, answering⟩

/-- The start of the walk of a command. -/
def Command.prepareWalk (command : Command) (answers : Option SourceFile) (typed : Bool)
    (sessionId : String) : Except CommandError Walk := do
  let settings ← command.loadSettings
  let graph ← command.loadGraph settings
  let answering ← loadAnswering answers typed
  openWalk settings graph answering sessionId

/-- What a command prints, and the code with which it exits. -/
structure Output where
  code : Nat
  out : String
  err : String

/-- A command that fails after it has printed something. -/
def Output.failure (out : String) (error : CommandError) : Output :=
  ⟨1, out, "\nError: " ++ error.message ++ "\n"⟩

/-- The output of a review. -/
def Command.reviewOutput (command : Command) : Output :=
  let reviewed := do
    let settings ← command.loadSettings
    let graph ← command.loadGraph settings
    return reviewText settings graph
  match reviewed with
  | .error error => .failure "" error
  | .ok (text, isValid) => ⟨if isValid then 0 else 1, text, ""⟩

/-- The output of a walk of at most so many turns with the lines that will be typed, if it ends
within them. -/
def Command.walkOutput? (command : Command) (answers : Option SourceFile) (typed : Bool)
    (sessionId : String) (turns : Nat) (lines : List String) : Option Output :=
  match command.prepareWalk answers typed sessionId with
  | .error error => some (.failure "" error)
  | .ok walk =>
    match walk.run turns lines with
    | (shown, .finished) => some ⟨0, shown, ""⟩
    | (shown, .failed error) => some (.failure shown (.walk error))
    | (_, .cutShort) => none

/-- The output of a command, if it ends within so many turns. -/
def Command.output? (command : Command) (sessionId : String) (turns : Nat)
    (lines : List String) : Option Output :=
  match command.action with
  | .review => some command.reviewOutput
  | .walk answers typed => command.walkOutput? answers typed sessionId turns lines

/-- The lines of a text that is typed in: each ends at a line break or with the text. -/
def typedLines (text : String) : List String :=
  let rec collect (line : List Char) : List Char → List String
    | [] => if line.isEmpty then [] else [String.ofList line.reverse]
    | c :: cs =>
      if c = '\n' then String.ofList line.reverse :: collect [] cs else collect (c :: line) cs
  collect [] text.toList

end Questionnaire
