/-
**Survey graphs as JSON.**

The document of a survey names the kinds by their names and leaves out every attribute that is
absent.  A block of a kind that is not known says so and keeps the name it was given beside it.

Main definitions:

* `Questionnaire.Block.toJson` — the document of a block;
* `Questionnaire.Graph.toJson` — the document of a survey.
-/

import Questionnaire.Graph

set_option autoImplicit false

namespace Questionnaire

/-- A member that is left out when there is nothing to write. -/
def optionalMember (key : String) (content : Option Json) : List (String × Json) :=
  (content.map fun content => (key, content)).toList

namespace Kind

/-- The document of an option. -/
def choiceToJson (choice : Choice) : Json :=
  .object [("id", .string choice.id), ("label", .string choice.label),
    ("value", choice.value.toJson)]

/-- The document of a field of a form. -/
def fieldToJson (field : FormField) : Json :=
  .object [("id", .string field.id), ("label", .string field.label),
    ("required", .bool field.required)]

/-- The members of a block that hold the attributes of its kind. -/
def attributes : Kind → List (String × Json)
  | .textInput maxLength => optionalMember "maxLength" (maxLength.map Json.ofNat)
  | .numberInput min max =>
    optionalMember "min" (min.map Json.ofNumber) ++ optionalMember "max" (max.map Json.ofNumber)
  | .singleChoice choices => [("options", .array (choices.map choiceToJson))]
  | .multiChoice choices maxSelections =>
    ("options", .array (choices.map choiceToJson)) ::
      optionalMember "maxSelections" (maxSelections.map Json.ofNat)
  | .scale choices => [("options", .array (choices.map choiceToJson))]
  | .video url => optionalMember "url" (url.map Json.string)
  | .contactForm fields => [("fields", .array (fields.map fieldToJson))]
  | .demographics fields => [("fields", .array (fields.map fieldToJson))]
  | .unrecognized name => [("name", .string name)]
  | _ => []

/-- The name of a kind in documents. -/
def documentName (kind : Kind) : String :=
  (kind.kindName?.map KindName.text).getD "unrecognized"

end Kind

namespace Block

/-- The document of a block. -/
def toJson (block : Block) : Json :=
  .object (
    [("id", .string block.id), ("kind", .string block.kind.documentName)] ++
    block.kind.attributes ++
    optionalMember "prompt" (block.prompt.map Json.string) ++
    optionalMember "variable" (block.variableName.map Json.string) ++
    optionalMember "next" (block.next.map Transition.toJson))

end Block

namespace Graph

/-- The document of a survey. -/
def toJson (graph : Graph) : Json :=
  .object (
    [("startBlockId", .string graph.start)] ++
    optionalMember "title" (graph.title.map Json.string) ++
    optionalMember "expectedMinutes" (graph.expectedMinutes.map Json.ofNumber) ++
    [("blocks", .array (graph.blocks.map Block.toJson))])

end Graph

end Questionnaire
