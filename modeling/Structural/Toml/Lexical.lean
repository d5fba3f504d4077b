/-!
# Characters, blanks, quoted texts and keys of a TOML document

A reader takes a prefix of the characters before it and leaves the rest; `none` is an error of
syntax.

* blanks are spaces and tabs, a line ends with a line feed, alone or after a carriage return;
* `comment` -- the characters up to the end of the line, none of them a control character;
* `basicText` / `literalText` -- texts on one line between double or single quotes, escapes only
  between double ones;
* `key` -- parts with dots between them, at most `maxDepth` of them.
-/

namespace Structural.Toml

/-- What takes a prefix of the characters and leaves the rest. -/
abbrev Reader (α : Type) := List Char → Option (α × List Char)

/-- How many parts a key may have, and how deep values may nest. -/
def maxDepth : Nat := 79

/-! ## 1. Characters -/

/-- The blanks inside a line. -/
def isGap (c : Char) : Bool :=
  c = ' ' || c = '\t'

/-- The characters that may stand in a comment or between quotes: all but the control characters,
    the tab among them. -/
def isPlain (c : Char) : Bool :=
  c = '\t' || (' ' ≤ c && c ≠ '\x7f')

/-- The characters of a key without quotes. -/
def isBare (c : Char) : Bool :=
  c.isAlphanum || c = '_' || c = '-'

/-- The value of a hexadecimal digit. -/
def hexDigit? (c : Char) : Option Nat :=
  if '0' ≤ c ∧ c ≤ '9' then some (c.toNat - '0'.toNat)
  else if 'a' ≤ c ∧ c ≤ 'f' then some (c.toNat - 'a'.toNat + 10)
  else if 'A' ≤ c ∧ c ≤ 'F' then some (c.toNat - 'A'.toNat + 10)
  else none

/-- The character of a code point. -/
def charOf? (n : Nat) : Option Char :=
  if n.isValidChar then some (Char.ofNat n) else none

/-! ## 2. Blanks, comments, ends of lines -/

/-- The characters after the blanks. -/
def skipGaps (cs : List Char) : List Char :=
  cs.dropWhile isGap

/-- The end of a line, or of the document. -/
def lineEnd : List Char → Option (List Char)
  | [] => some []
  | '\n' :: rest => some rest
  | '\r' :: '\n' :: rest => some rest
  | _ => none

/-- A comment after its mark, and the end of its line. -/
def comment (cs : List Char) : Option (List Char) :=
  lineEnd (cs.dropWhile isPlain)

/-- What may follow an entry on its line: blanks and a comment. -/
def trailing (cs : List Char) : Option (List Char) :=
  match skipGaps cs with
  | '#' :: rest => comment rest
  | rest => lineEnd rest

/-- Blanks, ends of lines and comments, between the elements of an array. In a comment, `inComment`
    is true. -/
def skipLines (inComment : Bool) : List Char → Option (List Char)
  | '\n' :: rest => skipLines false rest
  | '\r' :: '\n' :: rest => skipLines false rest
  | [] => if inComment then none else some []
  | c :: rest =>
    if inComment then
      if isPlain c then skipLines true rest else none
    else if isGap c then skipLines false rest
    else if c = '#' then skipLines true rest
    else some (c :: rest)

/-! ## 3. Texts between quotes -/

/-- The character that one letter after a backslash stands for. -/
def escaped? : Char → Option Char
  | 'b' => some '\x08'
  | 't' => some '\t'
  | 'n' => some '\n'
  | 'f' => some '\x0c'
  | 'r' => some '\r'
  | '"' => some '"'
  | '\\' => some '\\'
  | _ => none

/-- Where a reader stands in a text between double quotes. -/
inductive Place where
  | plain
  /-- After a backslash. -/
  | escape
  /-- Before the last digits of a code point, one more than `left` of them. -/
  | code (left value : Nat)

/-- A character put before a text that was read. -/
def before (c : Char) : Option (List Char × List Char) → Option (List Char × List Char) :=
  Option.map fun (text, rest) => (c :: text, rest)

/-- **A text between double quotes**, after the first of them. -/
def basicText : Place → Reader (List Char)
  | .plain, '"' :: rest => some ([], rest)
  | .plain, '\\' :: rest => basicText .escape rest
  | .plain, c :: rest => if isPlain c then before c (basicText .plain rest) else none
  | .escape, 'u' :: rest => basicText (.code 3 0) rest
  | .escape, 'U' :: rest => basicText (.code 7 0) rest
  | .escape, c :: rest => (escaped? c).bind fun d => before d (basicText .plain rest)
  | .code left value, c :: rest =>
    (hexDigit? c).bind fun d =>
      match left with
      | 0 => (charOf? (value * 16 + d)).bind fun e => before e (basicText .plain rest)
      | left + 1 => basicText (.code left (value * 16 + d)) rest
  | _, [] => none

/-- **A text between single quotes**, after the first of them. -/
def literalText : Reader (List Char)
  | '\'' :: rest => some ([], rest)
  | c :: rest => if isPlain c then before c (literalText rest) else none
  | [] => none

/-! ## 4. Keys -/

/-- One part of a key. -/
def keyPart : Reader String
  | '"' :: rest => (basicText .plain rest).map fun (text, rest) => (String.ofList text, rest)
  | '\'' :: rest => (literalText rest).map fun (text, rest) => (String.ofList text, rest)
  | cs =>
    match cs.takeWhile isBare with
    | [] => none
    | word => some (String.ofList word, cs.dropWhile isBare)

/-- A key with at most so many parts. -/
def keyUpTo : Nat → Reader (List String)
  | 0, _ => none
  | parts + 1, cs =>
    (keyPart (skipGaps cs)).bind fun (part, rest) =>
      match skipGaps rest with
      | '.' :: rest => (keyUpTo parts rest).map fun (others, rest) => (part :: others, rest)
      | rest => some ([part], rest)

/-- **A key**, the blanks around it included. -/
def key : Reader (List String) :=
  keyUpTo maxDepth

end Structural.Toml
