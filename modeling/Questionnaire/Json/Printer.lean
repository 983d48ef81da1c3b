/-
**Writing JSON.**

The compact form has no blanks.  The indented form puts every item and member on a line of its
own, two blanks deeper than its container, and leaves empty containers closed.  In both, a string
escapes the quote, the backslash and the control characters below U+0020, and nothing else.

Main definitions:

* `Questionnaire.Json.quoted` — a string between quotes;
* `Questionnaire.Json.compact`, `Questionnaire.Json.indented` — the two forms.
-/

import Questionnaire.Json.Basic

set_option autoImplicit false

namespace Questionnaire

namespace Json

/-- The lower-case hexadecimal digits of a natural, at least `width` of them. -/
def hexDigits (width n : Nat) : List Char :=
  let digits := Nat.toDigits 16 n
  List.replicate (width - digits.length) '0' ++ digits

/-- A character inside a string. -/
def escaped (c : Char) : List Char :=
  match c with
  | '"' => ['\\', '"']
  | '\\' => ['\\', '\\']
  | '\n' => ['\\', 'n']
  | '\r' => ['\\', 'r']
  | '\t' => ['\\', 't']
  | '\x08' => ['\\', 'b']
  | '\x0c' => ['\\', 'f']
  | _ => if c.toNat < 0x20 then '\\' :: 'u' :: hexDigits 4 c.toNat else [c]

/-- A string between quotes. -/
def quoted (s : String) : String := "\"" ++ String.ofList (s.toList.flatMap escaped) ++ "\""

/-- The texts between an opening and a closing mark, with commas. -/
def enclosed (opening closing : String) (texts : List String) : String :=
  opening ++ ",".intercalate texts ++ closing

/-- The texts between an opening and a closing mark, each on a line of its own. -/
def enclosedLines (opening closing indent : String) (texts : List String) : String :=
  if texts.isEmpty then opening ++ closing
  else
    let line := "\n" ++ indent ++ "  "
    opening ++ line ++ ("," ++ line).intercalate texts ++ "\n" ++ indent ++ closing

mutual

/-- The compact form of a document. -/
def compact : Json → String
  | .null => "null"
  | .bool b => if b then "true" else "false"
  | .number n => n.text
  | .string s => quoted s
  | .array items => enclosed "[" "]" (compactItems items)
  | .object members => enclosed "\x7b" "\x7d" (compactMembers members)

/-- The compact forms of items. -/
def compactItems : List Json → List String
  | [] => []
  | item :: items => compact item :: compactItems items

/-- The compact forms of members. -/
def compactMembers : List (String × Json) → List String
  | [] => []
  | (key, value) :: members => (quoted key ++ ":" ++ compact value) :: compactMembers members

end

mutual

/-- The indented form of a document whose first line stands behind `indent`. -/
def indentedAt (indent : String) : Json → String
  | .null => "null"
  | .bool b => if b then "true" else "false"
  | .number n => n.text
  | .string s => quoted s
  | .array items => enclosedLines "[" "]" indent (indentedItems (indent ++ "  ") items)
  | .object members =>
    enclosedLines "\x7b" "\x7d" indent (indentedMembers (indent ++ "  ") members)

/-- The indented forms of items. -/
def indentedItems (indent : String) : List Json → List String
  | [] => []
  | item :: items => indentedAt indent item :: indentedItems indent items

/-- The indented forms of members. -/
def indentedMembers (indent : String) : List (String × Json) → List String
  | [] => []
  | (key, value) :: members =>
    (quoted key ++ ": " ++ indentedAt indent value) :: indentedMembers indent members

end

/-- The indented form of a document. -/
def indented (document : Json) : String := indentedAt "" document

end Json

end Questionnaire
