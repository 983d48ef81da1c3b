/-
**Settings files.**

The settings of a survey service are a JSON text: what reviews and sessions go by, and further
spellings of the kinds.  Everything may be left out.  A group of settings is an object, or a list
of its members in their order; members that are not known are passed over by their grammar alone.

Main definitions:

* `Questionnaire.Settings` — the settings;
* `Questionnaire.SettingsProblem`, `Questionnaire.SettingsError` — why they cannot be had;
* `Questionnaire.Settings.ofText` — reading them;
* `Questionnaire.Settings.vocabulary` — the spellings of the kinds with the further ones.
-/

import Questionnaire.Document.Vocabulary
import Questionnaire.File
import Questionnaire.Json.Reader
import Questionnaire.Session

set_option autoImplicit false

namespace Questionnaire

/-- What reviews and sessions go by, and further spellings of the kinds. -/
structure Settings where
  conduct : Conduct
  spellings : Keyed String

/-- Why a text holds no settings. -/
inductive SettingsProblem where
  | grammar
  | wrongGroup (name : String)
  | wrongValue (name : String)
  deriving DecidableEq

/-- Why settings cannot be had: their file cannot be read, or its text is wrong. -/
inductive SettingsError where
  | unreadableFile (path : String) (error : FileError)
  | invalid (path : String) (problem : SettingsProblem)

/-- Why a text holds no settings, in words. -/
def SettingsProblem.message : SettingsProblem → String
  | .grammar => "the text does not keep to the grammar"
  | .wrongGroup name => s!"invalid group of settings `{name}`"
  | .wrongValue name => s!"invalid value for `{name}`"

/-- Why settings cannot be had, in words. -/
def SettingsError.message : SettingsError → String
  | .unreadableFile path error => s!"Could not read config file '{path}': {error.message}"
  | .invalid path problem => s!"Invalid config file '{path}': {problem.message}"

namespace Settings

/-- The settings that are used when there is no file. -/
def standard : Settings := ⟨.standard, []⟩

/-- The spellings of the kinds, with the further ones in the order of their keys. -/
def vocabulary (settings : Settings) : Document.Vocabulary :=
  Document.Vocabulary.standard.withSpellings settings.spellings

/-! ### Groups -/

/-- The members of an object that have one of the names.  Every key must be a text, and a name may
occur only once. -/
def namedMembers? (names : List String) (members : List (Option String × Json.Tree)) :
    Option (Keyed Json.Tree) := do
  let entries ← members.mapM fun (key, value) => key.map fun key => (key, value)
  let known := entries.filter fun entry => names.contains entry.1
  if (known.map Prod.fst).Nodup then some known else none

/-- The members of a group by their names: those of an object, or those of a list in order. -/
def group? (names : List String) (tree : Json.Tree) : Option (Keyed Json.Tree) :=
  match tree with
  | .object members => namedMembers? names members
  | .array items => if items.length ≤ names.length then some (names.zip items) else none
  | _ => none

/-- Reads a member of a group; without it the given value stands. -/
def member {α : Type} (group : Keyed Json.Tree) (name : String) (absent : α)
    (read : Json.Tree → Except SettingsProblem α) : Except SettingsProblem α :=
  match group.get? name with
  | none => .ok absent
  | some tree => read tree

/-! ### Values -/

/-- Reads a number. -/
def readNumber (name : String) (tree : Json.Tree) : Except SettingsProblem Number :=
  match tree with
  | .number literal =>
    match JsonNumber.ofLiteral? literal with
    | some n => .ok n.toNumber
    | none => .error (.wrongValue name)
  | _ => .error (.wrongValue name)

/-- Reads a word of 32 bits, which must be written as an integer. -/
def readWord (name : String) (tree : Json.Tree) : Except SettingsProblem UInt32 :=
  match tree with
  | .number literal =>
    match (JsonNumber.ofLiteral? literal).bind JsonNumber.toNat? with
    | some n => if n < UInt32.size then .ok (UInt32.ofNat n) else .error (.wrongValue name)
    | none => .error (.wrongValue name)
  | _ => .error (.wrongValue name)

/-- Reads an object of texts; of several members with one key the last one counts. -/
def readTexts (name : String) (tree : Json.Tree) : Except SettingsProblem (Keyed String) :=
  match tree with
  | .object members =>
    let entry? : Option String × Json.Tree → Option (String × String)
      | (some key, .string (some text)) => some (key, text)
      | _ => none
    match members.mapM entry? with
    | some entries => .ok (Keyed.ofList entries)
    | none => .error (.wrongValue name)
  | _ => .error (.wrongValue name)

/-- Reads the seconds of the kinds that are given, on top of a pace. -/
def readSeconds (group : Keyed Json.Tree) (pace : Pace) :
    List String → Except SettingsProblem Pace
  | [] => .ok pace
  | name :: names =>
    match member group name none fun tree => (readWord name tree).map some with
    | .error problem => .error problem
    | .ok none => readSeconds group pace names
    | .ok (some seconds) => readSeconds group (pace.setNamed name seconds) names

/-- Reads the pace of the kinds. -/
def readPace (tree : Json.Tree) : Except SettingsProblem Pace :=
  match group? Pace.names tree with
  | none => .error (.wrongGroup "kindSeconds")
  | some group => readSeconds group .standard Pace.names

/-- Reads the settings of reviews. -/
def readReview (tree : Json.Tree) : Except SettingsProblem ReviewSettings :=
  match group? ["toleranceMinutes", "kindSeconds"] tree with
  | none => .error (.wrongGroup "validator")
  | some group => do
    let tolerance ← member group "toleranceMinutes" ReviewSettings.standard.tolerance
      (readNumber "toleranceMinutes")
    let pace ← member group "kindSeconds" .standard readPace
    return ⟨pace, tolerance⟩

/-- Reads the settings of sessions. -/
def readLimit (tree : Json.Tree) : Except SettingsProblem UInt32 :=
  match group? ["maxConsecutiveSelfLoops"] tree with
  | none => .error (.wrongGroup "interpreter")
  | some group =>
    member group "maxConsecutiveSelfLoops" Conduct.standard.selfLoopLimit
      (readWord "maxConsecutiveSelfLoops")

/-- The settings of a tree. -/
def ofTree (tree : Json.Tree) : Except SettingsProblem Settings :=
  match group? ["validator", "interpreter", "kindAliases"] tree with
  | none => .error (.wrongGroup "settings")
  | some group => do
    let review ← member group "validator" .standard readReview
    let selfLoopLimit ← member group "interpreter" Conduct.standard.selfLoopLimit readLimit
    let spellings ← member group "kindAliases" [] (readTexts "kindAliases")
    return ⟨⟨review, selfLoopLimit⟩, spellings⟩

/-- The settings of a text. -/
def ofText (text : String) : Except SettingsProblem Settings :=
  match Json.Tree.ofText? text with
  | some tree => ofTree tree
  | none => .error .grammar

/-- The settings of a file, given what became of reading it. -/
def ofFile (path : String) (content : Except FileError String) : Except SettingsError Settings :=
  match content with
  | .error error => .error (.unreadableFile path error)
  | .ok text => (ofText text).mapError (.invalid path)

end Settings

end Questionnaire
