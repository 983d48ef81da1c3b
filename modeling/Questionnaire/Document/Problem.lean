/-
**What can be wrong with a survey document.**

Reading a document does not stop at the first problem: every block is read, and each problem is
reported with the block it was found in.  This module holds the problems and their wording.

Main definitions:

* `Questionnaire.Document.TransitionProblem`, `Questionnaire.Document.RuleProblem` — why a
  transition or one of its rules cannot be read;
* `Questionnaire.Document.Problem` — a problem of a block or of the document as a whole;
* `Questionnaire.Document.Issue` — a problem and where it was found;
* `Questionnaire.Document.LoadError` — why a survey could not be loaded.
-/

import Questionnaire.File
import Questionnaire.Graph
import Questionnaire.Json.Printer
import Questionnaire.Json.Reader
import Questionnaire.Text.Quoted

set_option autoImplicit false

namespace Questionnaire

namespace Document

/-- Why a rule of a transition cannot be read. -/
inductive RuleProblem where
  | notAnObject
  | missingCondition
  | missingTarget
  | conditionNotAnObject
  | noVariable
  | noOperator
  | severalOperators (operators : List String)
  | setNotAnArray (found : Json.Shape)
  | boundNotANumber (operator : String) (found : Json)

/-- Why a transition cannot be read. -/
inductive TransitionProblem where
  | emptyTarget
  | rulesNotAnArray (found : Json.Shape)
  | noOtherwise
  | rule (position : Nat) (problem : RuleProblem)
  | wrongShape (found : Json.Shape)

/-- The member that lists the parts. -/
def memberOf : Part → String
  | .option => "options"
  | .field => "fields"

/-- Why the members of a document do not describe a survey: a field is given in two spellings, or
its value is not of the kind that is wanted. -/
inductive HeaderProblem where
  | repeatedField (name : String)
  | wrongType (found : Json) (wanted : String)

/-- A problem of a block or of the document as a whole. -/
inductive Problem where
  | noBlocks
  | repeatedId
  | header (problem : HeaderProblem)
  | notAnObject (found : Json.Shape)
  | missingId
  | missingKind
  | transition (problem : TransitionProblem)
  | partsNotAnArray (part : Part) (found : Json.Shape)
  | partWithoutId (part : Part) (position : Nat)
  | partOfWrongShape (part : Part) (position : Nat) (found : Json.Shape)
  | notANumber (member : String) (found : Json.Shape)
  | notACount (member : String) (found : Json)

/-- A problem and where it was found: the block's id if it has a usable one, and its position. -/
structure Issue where
  block : Option String
  position : Option Nat
  problem : Problem

/-- Why a survey could not be loaded: its file or its text could not be read, or its document is
malformed. -/
inductive LoadError where
  | unreadableFile (path : String) (error : FileError)
  | unreadableText (error : Json.ReadError)
  | malformed (issues : List Issue)

/-! ### Wording -/

/-- A rule's problem in words. -/
def RuleProblem.message : RuleProblem → String
  | .notAnObject => "rule must be an object"
  | .missingCondition => "missing 'when'"
  | .missingTarget => "missing 'goto' target"
  | .conditionNotAnObject => "condition must be an object"
  | .noVariable => "condition names no variable and the block declares none"
  | .noOperator => "condition has no operator (equals, in, gt, lt)"
  | .severalOperators operators =>
    "condition has several operators: " ++ ", ".intercalate operators
  | .setNotAnArray found => "'in' expects an array, found " ++ found.name
  | .boundNotANumber operator found =>
    s!"'{operator}' expects a number, found {found.compact}"

/-- A transition's problem in words. -/
def TransitionProblem.message : TransitionProblem → String
  | .emptyTarget => "target id is empty"
  | .rulesNotAnArray found => "'if' must be an array, found " ++ found.name
  | .noOtherwise => "conditional transition has no 'else' target"
  | .rule position problem => s!"rule #{position}: {problem.message}"
  | .wrongShape found => "expected a block id or a conditional object, found " ++ found.name

/-- What a document is, in words that quote scalars. -/
def describe : Json → String
  | .null => "null"
  | .bool b => if b then "boolean `true`" else "boolean `false`"
  | .number (.integer n _) => s!"integer `{n}`"
  | .number (.real x _) => s!"floating point `{x.toJsonText}`"
  | .string s => "string " ++ quoteVisibly s
  | .array _ => "sequence"
  | .object _ => "map"

/-- A header's problem in words. -/
def HeaderProblem.message : HeaderProblem → String
  | .repeatedField name => s!"duplicate field `{name}`"
  | .wrongType found wanted => s!"invalid type: {describe found}, expected {wanted}"

/-- A problem in words. -/
def Problem.message : Problem → String
  | .noBlocks => "graph has no blocks"
  | .repeatedId => "duplicate block id"
  | .header problem => "invalid graph document: " ++ problem.message
  | .notAnObject found => "expected a JSON object, found " ++ found.name
  | .missingId => "missing string field 'id'"
  | .missingKind => "missing string field 'kind'"
  | .transition problem => "invalid 'next': " ++ problem.message
  | .partsNotAnArray part found => s!"'{memberOf part}' must be an array, found {found.name}"
  | .partWithoutId part position => s!"{part.noun} #{position} is missing 'id'"
  | .partOfWrongShape part position found =>
    s!"{part.noun} #{position} must be an object or string, found {found.name}"
  | .notANumber member found => s!"'{member}' must be a number, found {found.name}"
  | .notACount member found =>
    s!"'{member}' must be a non-negative integer, found {found.compact}"

/-- An issue in words: a block goes by its id, or else by its position. -/
def Issue.render (issue : Issue) : String :=
  match issue.block, issue.position with
  | some id, _ => s!"block '{id}': {issue.problem.message}"
  | none, some position => s!"block #{position}: {issue.problem.message}"
  | none, none => s!"graph: {issue.problem.message}"

/-- Why a survey could not be loaded, in words. -/
def LoadError.message : LoadError → String
  | .unreadableFile path error =>
    s!"Failed to parse survey graph JSON: Could not read '{path}': {error.message}"
  | .unreadableText error => "Failed to parse survey graph JSON: " ++ error.message
  | .malformed issues =>
    let listed := "; ".intercalate (issues.map Issue.render)
    s!"Malformed survey graph ({issues.length} issue(s)): {listed}"

/-! ### Issues of a whole document -/

/-- A problem of the document as a whole. -/
def Issue.ofDocument (problem : Problem) : Issue := ⟨none, none, problem⟩

/-- A flaw of a list of blocks as an issue. -/
def Issue.ofFlaw : Graph.Flaw → Issue
  | .noBlocks => .ofDocument .noBlocks
  | .repeatedId position id => ⟨some id, some position, .repeatedId⟩

end Document

end Questionnaire
