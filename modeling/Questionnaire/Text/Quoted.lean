/-
**Texts between quotes, made visible.**

A text that is quoted in a message has every character that would not show, or would change how its
neighbours show, written as an escape.

Main definition:

* `Questionnaire.quoteVisibly` — a text between quotes with such characters escaped.
-/

import Questionnaire.Text.Visible

set_option autoImplicit false

namespace Questionnaire

/-- A character between quotes. -/
def visibly (c : Char) : List Char :=
  match c with
  | '\x00' => ['\\', '0']
  | '\t' => ['\\', 't']
  | '\r' => ['\\', 'r']
  | '\n' => ['\\', 'n']
  | '"' => ['\\', '"']
  | '\\' => ['\\', '\\']
  | _ =>
    if isVisible c then [c]
    else ['\\', 'u', '\x7b'] ++ Nat.toDigits 16 c.toNat ++ ['\x7d']

/-- A text between quotes with every character that would not show written as an escape. -/
def quoteVisibly (s : String) : String := "\"" ++ String.ofList (s.toList.flatMap visibly) ++ "\""

end Questionnaire
