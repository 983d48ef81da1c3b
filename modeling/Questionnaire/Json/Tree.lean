/-
**The grammar of JSON texts.**

A text is read into a tree that keeps all that the grammar distinguishes: the members of an object
in the order of the text, repeated keys included, numerals of any size, and strings whose escapes
do not pair up.  What such a tree stands for is the matter of `Json/Reader.lean`; a reader that
skips a part of a text needs no more of that part than its grammar.

Main definitions:

* `Questionnaire.Json.Literal` — a numeral as a text writes it;
* `Questionnaire.Json.Tree` — the tree of a text;
* `Questionnaire.Json.Tree.ofText?` — the tree of a text, if the text keeps to the grammar.
-/

import Questionnaire.Json.Basic
import Questionnaire.Number.Numeral

set_option autoImplicit false

namespace Questionnaire

namespace Json

/-- A numeral as a text writes it: its sign, the digits before and behind its point, and the power
of ten of its exponent.  It is whole when it has neither a point nor an exponent. -/
structure Literal where
  negative : Bool
  before : List Char
  behind : List Char
  power : Int
  isWhole : Bool

/-- What a JSON text says by its grammar alone.  A string without a value has an unpaired surrogate
among its escapes. -/
inductive Tree where
  | null
  | bool (b : Bool)
  | number (literal : Literal)
  | string (s : Option String)
  | array (items : List Tree)
  | object (members : List (Option String × Tree))

namespace Tree

instance : Inhabited Tree := ⟨.null⟩

/-- The four characters that may stand between the tokens of a text. -/
def isSpace (c : Char) : Bool := c == ' ' || c == '\t' || c == '\n' || c == '\r'

/-- A text from its next token on. -/
def skip (cs : List Char) : List Char := cs.dropWhile isSpace

/-! ### Strings -/

/-- A piece of a string: a character, or the code unit of an escape. -/
inductive Piece where
  | char (c : Char)
  | unit (n : Nat)

/-- The value of a hexadecimal digit in either case. -/
def hexValue? (c : Char) : Option Nat :=
  if '0' ≤ c ∧ c ≤ '9' then some (c.toNat - '0'.toNat)
  else if 'a' ≤ c ∧ c ≤ 'f' then some (c.toNat - 'a'.toNat + 10)
  else if 'A' ≤ c ∧ c ≤ 'F' then some (c.toNat - 'A'.toNat + 10)
  else none

/-- The code unit that four hexadecimal digits write. -/
def codeUnit? (a b c d : Char) : Option Nat :=
  match hexValue? a, hexValue? b, hexValue? c, hexValue? d with
  | some a, some b, some c, some d => some (((a * 16 + b) * 16 + c) * 16 + d)
  | _, _, _, _ => none

/-- The character that a backslash and a letter write. -/
def escape? (c : Char) : Option Char :=
  match c with
  | '"' => some '"'
  | '\\' => some '\\'
  | '/' => some '/'
  | 'b' => some '\x08'
  | 'f' => some '\x0c'
  | 'n' => some '\n'
  | 'r' => some '\r'
  | 't' => some '\t'
  | _ => none

/-- The pieces of a string up to its closing quote, in front of those read before in reverse, and
what follows the quote.  Control characters below U+0020 must be escaped. -/
def pieces? (before : List Piece) : List Char → Option (List Piece × List Char)
  | [] => none
  | '"' :: rest => some (before.reverse, rest)
  | '\\' :: 'u' :: a :: b :: c :: d :: rest =>
    match codeUnit? a b c d with
    | some n => pieces? (.unit n :: before) rest
    | none => none
  | '\\' :: c :: rest =>
    match escape? c with
    | some c => pieces? (.char c :: before) rest
    | none => none
  | c :: rest => if c.toNat < 0x20 then none else pieces? (.char c :: before) rest

/-- Whether a code unit opens a surrogate pair. -/
def isHigh (n : Nat) : Bool := 0xD800 ≤ n && n ≤ 0xDBFF

/-- Whether a code unit closes a surrogate pair. -/
def isLow (n : Nat) : Bool := 0xDC00 ≤ n && n ≤ 0xDFFF

/-- The characters of a string, if its surrogates pair up: an opening one must be followed by a
closing one, and a closing one must follow an opening one. -/
def characters? : List Piece → Option (List Char)
  | [] => some []
  | .char c :: rest => (characters? rest).map (c :: ·)
  | .unit h :: .unit l :: rest =>
    if isHigh h then
      if isLow l then
        let c := Char.ofNat (0x10000 + (h - 0xD800) * 0x400 + (l - 0xDC00))
        (characters? rest).map (c :: ·)
      else none
    else if isLow h then none
    else (characters? (.unit l :: rest)).map (Char.ofNat h :: ·)
  | .unit n :: rest =>
    if isHigh n || isLow n then none else (characters? rest).map (Char.ofNat n :: ·)

/-- Reads a string behind its opening quote. -/
def string? (cs : List Char) : Option (Option String × List Char) :=
  (pieces? [] cs).map fun (pieces, rest) => ((characters? pieces).map String.ofList, rest)

/-! ### Numerals -/

/-- The digits in front of the point of a numeral: a zero alone, or digits that do not start with
one. -/
def wholePart? (cs : List Char) : Option (List Char × List Char) :=
  match cs.span Char.isDigit with
  | ([], _) => none
  | ('0' :: _ :: _, _) => none
  | (ds, rest) => some (ds, rest)

/-- Reads a numeral behind its sign. -/
def number? (negative : Bool) (cs : List Char) : Option (Tree × List Char) := do
  let (before, afterWhole) ← wholePart? cs
  let (behind, afterFraction) := Numeral.fraction afterWhole
  if behind.isEmpty && afterWhole.head? == some '.' then none
  let (power, rest) ← Numeral.exponent? afterFraction
  let isWhole := afterWhole.length == rest.length
  some (.number ⟨negative, before, behind, power, isWhole⟩, rest)

/-! ### Values -/

/-- A text behind the word at its front. -/
def word? (word : List Char) (value : Tree) (cs : List Char) : Option (Tree × List Char) :=
  if word.isPrefixOf cs then some (value, cs.drop word.length) else none

mutual

/-- Reads a value at the front of a text.  The fuel bounds the number of values, and a text has
fewer of them than characters. -/
def value? : Nat → List Char → Option (Tree × List Char)
  | 0, _ => none
  | fuel + 1, cs =>
    match skip cs with
    | '"' :: rest => (string? rest).map fun (s, rest) => (.string s, rest)
    | '[' :: rest =>
      match skip rest with
      | ']' :: rest => some (.array [], rest)
      | rest => (items? fuel [] rest).map fun (items, rest) => (.array items, rest)
    | '\x7b' :: rest =>
      match skip rest with
      | '\x7d' :: rest => some (.object [], rest)
      | rest => (members? fuel [] rest).map fun (members, rest) => (.object members, rest)
    | '-' :: rest => number? true rest
    | 'n' :: rest => word? ['u', 'l', 'l'] .null rest
    | 't' :: rest => word? ['r', 'u', 'e'] (.bool true) rest
    | 'f' :: rest => word? ['a', 'l', 's', 'e'] (.bool false) rest
    | rest => number? false rest

/-- Reads the items of an array up to its closing bracket, behind those read before in reverse. -/
def items? : Nat → List Tree → List Char → Option (List Tree × List Char)
  | 0, _, _ => none
  | fuel + 1, before, cs =>
    match value? fuel cs with
    | none => none
    | some (item, rest) =>
      match skip rest with
      | ',' :: rest => items? fuel (item :: before) rest
      | ']' :: rest => some ((item :: before).reverse, rest)
      | _ => none

/-- Reads the members of an object up to its closing brace, behind those read before in reverse. -/
def members? : Nat → List (Option String × Tree) → List Char →
    Option (List (Option String × Tree) × List Char)
  | 0, _, _ => none
  | fuel + 1, before, cs =>
    match skip cs with
    | '"' :: rest =>
      match string? rest with
      | none => none
      | some (key, rest) =>
        match skip rest with
        | ':' :: rest =>
          match value? fuel rest with
          | none => none
          | some (value, rest) =>
            match skip rest with
            | ',' :: rest => members? fuel ((key, value) :: before) rest
            | '\x7d' :: rest => some (((key, value) :: before).reverse, rest)
            | _ => none
        | _ => none
    | _ => none

end

/-- The tree of a text, if the text is one value and nothing else. -/
def ofText? (text : String) : Option Tree :=
  let cs := text.toList
  match value? (2 * cs.length + 1) cs with
  | some (tree, rest) => if (skip rest).isEmpty then some tree else none
  | none => none

end Tree

end Json

end Questionnaire
