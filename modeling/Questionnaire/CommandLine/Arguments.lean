/-
**Arguments of the command line.**

The first argument that is no option names the command, the second one the file of the survey.
Options may stand anywhere, in a long and a short form, with their values behind them or joined by
an equals sign.

Main definitions:

* `Questionnaire.Arguments` — what the arguments say;
* `Questionnaire.UsageError` — why they say nothing;
* `Questionnaire.Arguments.ofList` — reading them.
-/

set_option autoImplicit false

namespace Questionnaire

/-- What the arguments say: the words that are no options, and the options. -/
structure Arguments where
  words : List String
  config : Option String
  answers : Option String
  interactive : Bool

/-- Why arguments cannot be followed. -/
inductive UsageError where
  | unknownOption (name : String)
  | missingValue (name : String)
  | wrongWords
  | answersAndInteractive

/-- Why arguments cannot be followed, in words. -/
def UsageError.message : UsageError → String
  | .unknownOption name => s!"unexpected argument '{name}' found"
  | .missingValue name => s!"a value is required for '{name}' but none was supplied"
  | .wrongWords => "a command (validate or run) and the file of a survey are required"
  | .answersAndInteractive => "'--answers' cannot be used with '--interactive'"

namespace Arguments

/-- The options. -/
inductive Flag where
  | config
  | answers
  | interactive
  deriving DecidableEq

/-- The option of a name. -/
def Flag.ofName? (name : String) : Option Flag :=
  if name = "--config" ∨ name = "-c" then some .config
  else if name = "--answers" ∨ name = "-a" then some .answers
  else if name = "--interactive" ∨ name = "-i" then some .interactive
  else none

/-- Sets an option that takes a value. -/
def setValue (arguments : Arguments) (flag : Flag) (value : String) : Arguments :=
  match flag with
  | .config => { arguments with config := some value }
  | .answers => { arguments with answers := some value }
  | .interactive => arguments

/-- The name and the joined value of an option, if it has one. -/
def splitJoined (word : String) : String × Option String :=
  let cs := word.toList
  match cs.dropWhile (· ≠ '=') with
  | [] => (word, none)
  | _ :: value => (String.ofList (cs.takeWhile (· ≠ '=')), some (String.ofList value))

/-- Reads arguments behind those that were read already.  An option that still waits for its value
is given with its name. -/
def read (arguments : Arguments) (waiting : Option (Flag × String)) :
    List String → Except UsageError Arguments
  | [] =>
    match waiting with
    | some (_, name) => .error (.missingValue name)
    | none => .ok arguments
  | word :: rest =>
    match waiting with
    | some (flag, _) => read (arguments.setValue flag word) none rest
    | none =>
      if !word.startsWith "-" then
        read { arguments with words := arguments.words ++ [word] } none rest
      else
        let (name, joined) := splitJoined word
        match Flag.ofName? name, joined with
        | none, _ => .error (.unknownOption name)
        | some .interactive, none => read { arguments with interactive := true } none rest
        | some .interactive, some _ => .error (.unknownOption word)
        | some flag, some value => read (arguments.setValue flag value) none rest
        | some flag, none => read arguments (some (flag, name)) rest

/-- Reads arguments. -/
def ofList (words : List String) : Except UsageError Arguments :=
  match read ⟨[], none, none, false⟩ none words with
  | .error e => .error e
  | .ok arguments =>
    if arguments.answers.isSome && arguments.interactive then .error .answersAndInteractive
    else .ok arguments

end Arguments

end Questionnaire
