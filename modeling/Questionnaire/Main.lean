/-
**The program.**

Reads the arguments and the files, prints what the commands yield, and takes typed lines one by
one.  Everything that is decided is decided in the modules that this one imports.
-/

import Questionnaire.CommandLine.Arguments
import Questionnaire.CommandLine.Command
import Questionnaire.Text.Uuid

set_option autoImplicit false

namespace Questionnaire

namespace Program

/-- Reads a file. -/
def readSource (path : String) : IO SourceFile := do
  try
    let text ← IO.FS.readFile path
    return ⟨path, .ok text⟩
  catch error =>
    match error with
    | .noFileOrDirectory .. => return ⟨path, .error .missing⟩
    | _ => return ⟨path, .error (.other (toString error))⟩

/-- Prints an output and yields its code. -/
def finish (output : Output) : IO UInt32 := do
  IO.print output.out
  IO.eprint output.err
  return UInt32.ofNat output.code

/-- Takes a typed line, if the input has not ended. -/
def typedLine : IO (Option String) := do
  let line ← (← IO.getStdin).getLine
  return if line.isEmpty then none else some line

/-- Walks on until the walk ends. -/
partial def walkOn (walk : Walk) : IO UInt32 := do
  if walk.session.isComplete then
    finish ⟨0, walk.summary, ""⟩
  else
    match walk.question with
    | .error error => finish (.failure "" (.walk error))
    | .ok (block, shown) =>
      IO.print shown
      (← IO.getStdout).flush
      let line ← if walk.isTyped then typedLine else pure none
      let answered := walk.reply block line
      match answered.next with
      | .error error => finish (.failure answered.shown (.walk error))
      | .ok next =>
        IO.print answered.shown
        walkOn next

/-- Carries out a command. -/
def perform (command : Command) : IO UInt32 := do
  match command.action with
  | .review => finish command.reviewOutput
  | .walk answers typed =>
    let sessionId := uuidText (← IO.rand 0 ((1 <<< 128) - 1))
    match command.prepareWalk answers typed sessionId with
    | .error error => finish (.failure "" error)
    | .ok walk => walkOn walk

/-- Reads the files that arguments name, and carries out their command. -/
def follow (arguments : Arguments) : IO UInt32 := do
  match arguments.words with
  | [name, path] =>
    let graph ← readSource path
    let settings ← arguments.config.mapM readSource
    let answers ← arguments.answers.mapM readSource
    if name = "validate" then perform ⟨.review, graph, settings⟩
    else if name = "run" then perform ⟨.walk answers arguments.interactive, graph, settings⟩
    else refuse .wrongWords
  | _ => refuse .wrongWords
where
  refuse (error : UsageError) : IO UInt32 := do
    IO.eprintln s!"error: {error.message}"
    return 2

end Program

end Questionnaire

/-- Follows the arguments of the command line. -/
def main (words : List String) : IO UInt32 := do
  match Questionnaire.Arguments.ofList words with
  | .ok arguments => Questionnaire.Program.follow arguments
  | .error error =>
    IO.eprintln s!"error: {error.message}"
    return 2
