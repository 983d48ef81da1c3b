/-
**Reviewing surveys.**

A review reports everything that is questionable about a survey.  Faults make a survey unfit to be
run; cautions are advice.  Faults come in the order of the blocks, behind a missing start; cautions
likewise, followed by what concerns the survey as a whole.

Main definitions:

* `Questionnaire.Fault`, `Questionnaire.Caution` — what a review can find, with code and wording;
* `Questionnaire.Finding` — a fault or caution with the block it concerns;
* `Questionnaire.Report` — the outcome of a review;
* `Questionnaire.ReviewSettings`, `Questionnaire.Graph.review` — the review.

Main result:

* `Questionnaire.Graph.review_faults` — the faults do not depend on the settings.
-/

import Questionnaire.Duration
import Questionnaire.Json.Printer
import Questionnaire.Reach
import Questionnaire.Repetition

set_option autoImplicit false

namespace Questionnaire

/-- What makes a survey unfit to be run.  Kinds are given by their names. -/
inductive Fault where
  | missingStart (id : String)
  | unknownTarget (id : String)
  | noVariable (kind : String)
  | noOptions (kind : String)
  | noNext (kind : String)
  | unrecognizedKind (name : String)
  | repeatedPart (part : Part) (id : String)
  | invertedRange (min max : Number)
  | unusableLimit (limit options : Nat)
  deriving DecidableEq

/-- What is questionable about a survey. -/
inductive Caution where
  | unreachable
  | noFinalBlock
  | noExit
  | durationGap (estimated : Nat) (declared : Number)
  | ignoredVariable (kind : String)
  | ignoredNext
  | emptySet (variableName : String)
  | unwrittenVariable (variableName : String)
  deriving DecidableEq

namespace Fault

/-- The code of a fault. -/
def code : Fault → String
  | .missingStart _ => "E001"
  | .unknownTarget _ => "E002"
  | .noVariable _ => "E003"
  | .noOptions _ => "E004"
  | .noNext _ => "E005"
  | .unrecognizedKind _ => "E006"
  | .repeatedPart _ _ => "E007"
  | .invertedRange _ _ => "E008"
  | .unusableLimit _ _ => "E009"

/-- A fault in words. -/
def message : Fault → String
  | .missingStart id => s!"start block '{id}' does not exist"
  | .unknownTarget id => s!"transition references unknown block '{id}'"
  | .noVariable kind => s!"{kind} block must declare a variable"
  | .noOptions kind => s!"{kind} block must have at least one option"
  | .noNext kind => s!"{kind} block has no next"
  | .unrecognizedKind name => s!"unrecognized block kind '{name}'"
  | .repeatedPart part id => s!"duplicate {part.noun} id '{id}'"
  | .invertedRange min max =>
    s!"min ({min.toPlainText}) is greater than max ({max.toPlainText})"
  | .unusableLimit limit options =>
    s!"maxSelections {limit} must be between 1 and the option count ({options})"

end Fault

namespace Caution

/-- The code of a caution. -/
def code : Caution → String
  | .unreachable => "W101"
  | .noFinalBlock => "W102"
  | .noExit => "W103"
  | .durationGap _ _ => "W104"
  | .ignoredVariable _ => "W105"
  | .ignoredNext => "W106"
  | .emptySet _ => "W107"
  | .unwrittenVariable _ => "W108"

/-- A caution in words. -/
def message : Caution → String
  | .unreachable => "block is unreachable from the start block"
  | .noFinalBlock => "graph has no final block"
  | .noExit => "no final block can be reached from this block"
  | .durationGap estimated declared =>
    let minutes := declared.toPlainText
    s!"estimated duration of {estimated} min differs from the declared {minutes} min"
  | .ignoredVariable kind => s!"variable on a {kind} block is ignored"
  | .ignoredNext => "next on a final block is ignored"
  | .emptySet variableName =>
    s!"condition on '{variableName}' uses an empty 'in' set and never matches"
  | .unwrittenVariable variableName => s!"condition reads '{variableName}', which no block writes"

end Caution

/-- Something found, with the block it concerns if it concerns one. -/
structure Finding (α : Type) where
  block : Option String
  cause : α

/-- A finding in words, with its code. -/
def Finding.renderWith {α : Type} (code message : α → String) (finding : Finding α) : String :=
  match finding.block with
  | some id => s!"[{code finding.cause}] block '{id}': {message finding.cause}"
  | none => s!"[{code finding.cause}] {message finding.cause}"

/-- A fault in words, with its code and its block. -/
def Finding.renderFault (finding : Finding Fault) : String :=
  finding.renderWith Fault.code Fault.message

/-- A caution in words, with its code and its block. -/
def Finding.renderCaution (finding : Finding Caution) : String :=
  finding.renderWith Caution.code Caution.message

/-- The outcome of a review. -/
structure Report where
  faults : List (Finding Fault)
  cautions : List (Finding Caution)
  totalBlocks : Nat
  reachableBlocks : Nat
  estimatedMinutes : Nat

namespace Report

/-- Whether a survey is fit to be run. -/
def isValid (report : Report) : Bool := report.faults.isEmpty

/-- The faults in words. -/
def faultTexts (report : Report) : List String := report.faults.map Finding.renderFault

/-- The cautions in words. -/
def cautionTexts (report : Report) : List String := report.cautions.map Finding.renderCaution

/-- The document of a report. -/
def toJson (report : Report) : Json :=
  .object [
    ("valid", .bool report.isValid),
    ("errors", .ofStrings report.faultTexts),
    ("warnings", .ofStrings report.cautionTexts),
    ("stats", .object [
      ("totalBlocks", .ofNat report.totalBlocks),
      ("reachableBlocks", .ofNat report.reachableBlocks),
      ("estimatedMinutes", .ofNat report.estimatedMinutes)])]

end Report

/-! ### Faults -/

namespace Block

/-- A question must have a variable, and one with a name. -/
def variableFaults (block : Block) : List Fault :=
  let named := block.variableName.any fun name => !name.isEmpty
  if block.kind.isQuestion && !named then [.noVariable block.kind.name] else []

/-- A choice must have options, and each id only once. -/
def optionFaults (block : Block) : List Fault :=
  match block.kind.choices? with
  | none => []
  | some choices =>
    (if choices.isEmpty then [.noOptions block.kind.name] else []) ++
      (repeated (choices.map Choice.id)).map (.repeatedPart .option)

/-- A range must not be inverted, the limit of a choice must leave something to choose and not
exceed the options, and the fields of a form must have different ids. -/
def attributeFaults (block : Block) : List Fault :=
  match block.kind with
  | .numberInput (some min) (some max) => if max.less min then [.invertedRange min max] else []
  | .multiChoice choices (some limit) =>
    if limit = 0 ∨ choices.length < limit then [.unusableLimit limit choices.length] else []
  | .contactForm fields => (repeated (fields.map FormField.id)).map (.repeatedPart .field)
  | .demographics fields => (repeated (fields.map FormField.id)).map (.repeatedPart .field)
  | _ => []

/-- Every block but a final one must lead on. -/
def nextFaults (block : Block) : List Fault :=
  match block.kind with
  | .final => []
  | .unrecognized _ => []
  | kind => if block.next.isNone then [.noNext kind.name] else []

/-- A kind must be known. -/
def kindFaults (block : Block) : List Fault :=
  match block.kind with
  | .unrecognized name => [.unrecognizedKind name]
  | _ => []

/-- The targets of a block must exist; each missing one is reported once. -/
def targetFaults (graph : Graph) (block : Block) : List Fault :=
  (block.targets.eraseDups.filter fun id => !graph.has id).map .unknownTarget

/-- All faults of a block. -/
def faults (graph : Graph) (block : Block) : List Fault :=
  block.kindFaults ++ block.variableFaults ++ block.optionFaults ++ block.attributeFaults ++
    block.nextFaults ++ block.targetFaults graph

/-! ### Cautions -/

/-- A variable is of no use to a block that takes no answer. -/
def variableCautions (block : Block) : List Caution :=
  match block.kind with
  | .message => if block.variableName.isSome then [.ignoredVariable block.kind.name] else []
  | .final => if block.variableName.isSome then [.ignoredVariable block.kind.name] else []
  | _ => []

/-- Nothing follows a final block. -/
def nextCautions (block : Block) : List Caution :=
  if block.isFinal && block.next.isSome then [.ignoredNext] else []

/-- A condition should be able to hold: its set should not be empty, and some block should write
its variable. -/
def conditionCautions (written : List String) (condition : Condition) : List Caution :=
  let empty :=
    match condition.predicate with
    | .oneOf [] => true
    | _ => false
  (if empty then [.emptySet condition.variableName] else []) ++
    if written.contains condition.variableName then []
    else [.unwrittenVariable condition.variableName]

/-- All cautions of a block by itself. -/
def cautions (written : List String) (block : Block) : List Caution :=
  let conditions := (block.next.map Transition.conditions).getD []
  block.variableCautions ++ block.nextCautions ++
    conditions.flatMap (conditionCautions written)

end Block

/-! ### The review -/

/-- What a review goes by: the pace of the estimate, and how many minutes it may differ from the
declared duration. -/
structure ReviewSettings where
  pace : Pace
  tolerance : Number

/-- The settings that are used unless others are given. -/
def ReviewSettings.standard : ReviewSettings := ⟨.standard, .ofNat 2⟩

namespace Graph

/-- Findings about one block. -/
def about {α : Type} (block : Block) (causes : List α) : List (Finding α) :=
  causes.map fun cause => ⟨some block.id, cause⟩

/-- The variables that some question writes. -/
def writtenVariables (graph : Graph) : List String :=
  (graph.blocks.filter fun block => block.kind.isQuestion).filterMap Block.variableName

/-- All faults of a survey. -/
def faults (graph : Graph) : List (Finding Fault) :=
  (if graph.has graph.start then [] else [⟨none, .missingStart graph.start⟩]) ++
    graph.blocks.flatMap fun block => about block (block.faults graph)

/-- The blocks that cannot be visited. -/
def unreachableCautions (graph : Graph) : List (Finding Caution) :=
  let reachable := graph.reachable
  (graph.blocks.filter fun block => !reachable.contains block.id).map fun block =>
    ⟨some block.id, .unreachable⟩

/-- The blocks that lead to no end, or else that there is no end at all. -/
def exitCautions (graph : Graph) : List (Finding Caution) :=
  if graph.blocks.any Block.isFinal then graph.withoutExit.map fun id => ⟨some id, .noExit⟩
  else [⟨none, .noFinalBlock⟩]

/-- A declared duration that the estimate differs from by more than the tolerance. -/
def durationCautions (graph : Graph) (settings : ReviewSettings) : List (Finding Caution) :=
  let minutes := graph.estimatedMinutes settings.pace
  match graph.expectedMinutes with
  | none => []
  | some declared =>
    if settings.tolerance.less (Number.distance (.ofNat minutes) declared) then
      [⟨none, .durationGap minutes declared⟩]
    else []

/-- All cautions about a survey. -/
def cautions (graph : Graph) (settings : ReviewSettings) : List (Finding Caution) :=
  let written := graph.writtenVariables
  graph.blocks.flatMap (fun block => about block (block.cautions written)) ++
    graph.unreachableCautions ++ graph.exitCautions ++ graph.durationCautions settings

/-- **The review of a survey.** -/
def review (graph : Graph) (settings : ReviewSettings) : Report where
  faults := graph.faults
  cautions := graph.cautions settings
  totalBlocks := graph.blocks.length
  reachableBlocks := graph.reachable.length
  estimatedMinutes := graph.estimatedMinutes settings.pace

/-- **The faults do not depend on the settings.** -/
theorem review_faults (graph : Graph) (settings : ReviewSettings) :
    (graph.review settings).faults = graph.faults := rfl

end Graph

end Questionnaire
