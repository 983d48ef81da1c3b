/-
**Spellings of the kinds.**

Documents spell the names of the kinds in many ways.  A vocabulary maps folded spellings to kinds:
folding lowers capital letters and joins words by hyphens, so that `YesNo`, `yes_no` and
`yes no` are one spelling.

Main definitions:

* `Questionnaire.Document.fold` — the folded form of a spelling;
* `Questionnaire.Document.Vocabulary` — spellings and what they stand for;
* `Questionnaire.Document.Vocabulary.withSpelling`, `Questionnaire.Document.Vocabulary.kind?` —
  adding a spelling and looking one up.
-/

import Questionnaire.Kind
import Questionnaire.Text.Blank

set_option autoImplicit false

namespace Questionnaire

namespace Document

/-- Whether a character is one of the capital letters A to Z. -/
def isCapital (c : Char) : Bool := 'A' ≤ c && c ≤ 'Z'

/-- The folded form of the characters behind a folded `previous` one, if there is any.  Low lines
and blanks become hyphens; a capital letter is lowered and starts a word, unless it stands first
or behind a hyphen. -/
def foldFrom (previous : Option Char) : List Char → List Char
  | [] => []
  | c :: cs =>
    if c = '_' ∨ c = ' ' then '-' :: foldFrom (some '-') cs
    else if isCapital c then
      let letter := c.toLower
      if previous = none ∨ previous = some '-' then letter :: foldFrom (some letter) cs
      else '-' :: letter :: foldFrom (some letter) cs
    else c :: foldFrom (some c) cs

/-- The folded form of a spelling. -/
def fold (spelling : String) : String := String.ofList (foldFrom none (trimChars spelling.toList))

/-- Spellings and the kinds that they stand for. -/
structure Vocabulary where
  spellings : Keyed KindName

namespace Vocabulary

/-- Adds a folded spelling for the kind of a name; a name that is not known adds nothing. -/
def withSpelling (vocabulary : Vocabulary) (spelling name : String) : Vocabulary :=
  match KindName.ofText? name with
  | some kind => ⟨vocabulary.spellings.insert (fold spelling) kind⟩
  | none => vocabulary

/-- Adds several spellings, in order. -/
def withSpellings (vocabulary : Vocabulary) (spellings : List (String × String)) : Vocabulary :=
  spellings.foldl (fun vocabulary entry => vocabulary.withSpelling entry.1 entry.2) vocabulary

/-- Common spellings of the kinds beside their names. -/
def commonSpellings : List (String × KindName) := [
  ("statement", .message),
  ("info", .message),
  ("welcome", .message),
  ("text", .textInput),
  ("open-text", .textInput),
  ("free-text", .textInput),
  ("number", .numberInput),
  ("numeric", .numberInput),
  ("choice", .singleChoice),
  ("radio", .singleChoice),
  ("multiple-choice", .multiChoice),
  ("checkbox", .multiChoice),
  ("rating", .scale),
  ("likert", .scale),
  ("nps", .scale),
  ("yesno", .yesNo),
  ("boolean", .yesNo),
  ("video-response", .video),
  ("contact", .contactForm),
  ("demographic", .demographics),
  ("end", .final),
  ("thank-you", .final),
  ("thanks", .final)]

/-- The names of the kinds and their common spellings. -/
def standard : Vocabulary :=
  ⟨Keyed.ofList (KindName.all.map (fun kind => (kind.text, kind)) ++ commonSpellings)⟩

/-- The kind that a spelling stands for, as it is or else folded. -/
def kind? (vocabulary : Vocabulary) (spelling : String) : Option KindName :=
  (vocabulary.spellings.get? spelling).or (vocabulary.spellings.get? (fold spelling))

end Vocabulary

end Document

end Questionnaire
