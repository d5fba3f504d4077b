/-!
# Tokens of an attribute

The text between the parentheses of an attribute, split into tokens. Brackets are tokens of their
own. Texts between quotes keep the value they stand for; of the other literals only the source is
kept.

* `Token.ofSource` -- **the tokens of a text**. A text is taken to hold no comments; every
  character beyond ASCII is taken for a letter;
* `Token.source` -- a token as it is written.
-/

namespace Structural.Publish

/-- **A token.** -/
inductive Token where
  /-- A name, a keyword, or a name that is marked as none. -/
  | name (text : String)
  | lifetime (text : String)
  /-- A text between quotes. -/
  | text (value : String)
  /-- A literal of another kind. -/
  | literal (source : String)
  /-- A double colon, an arrow or a single sign. -/
  | sign (text : String)
deriving DecidableEq, Repr

namespace Token

/-- A token as it is written, a text without its escapes. -/
def source : Token → String
  | name s => s
  | lifetime s => "'" ++ s
  | text s => "\"" ++ s ++ "\""
  | literal s => s
  | sign s => s

/-! ## 1. Characters -/

/-- The blanks between tokens. -/
def isGap (c : Char) : Bool :=
  c.isWhitespace || c = '\x0b' || c = '\x0c'

/-- The characters that start a name. -/
def startsName (c : Char) : Bool :=
  c.isAlpha || c = '_' || 128 ≤ c.toNat

/-- The characters that go on in a name. -/
def inName (c : Char) : Bool :=
  startsName c || c.isDigit

/-- The characters that go on in a number. -/
def inNumber (c : Char) : Bool :=
  inName c || c = '.'

/-- The value of a hexadecimal digit. -/
def hexValue? (c : Char) : Option Nat :=
  if c.isDigit then some (c.toNat - '0'.toNat)
  else if 'a' ≤ c ∧ c ≤ 'f' then some (c.toNat - 'a'.toNat + 10)
  else if 'A' ≤ c ∧ c ≤ 'F' then some (c.toNat - 'A'.toNat + 10)
  else none

/-! ## 2. Texts between quotes -/

/-- The character that one letter after a backslash stands for. -/
def escaped? : Char → Option Char
  | 'n' => some '\n'
  | 'r' => some '\r'
  | 't' => some '\t'
  | '0' => some '\x00'
  | c => if c ∈ ['\\', '\'', '"'] then some c else none

/-- Where a reader stands in a text between quotes. -/
inductive Spot where
  | plain
  /-- After a backslash. -/
  | escape
  /-- After a line that a backslash joins to the next. -/
  | joined
  /-- Before `left` more digits of a code point. -/
  | digits (left value : Nat)
  /-- Between the braces around a code point. -/
  | braces (value : Nat)

/-- A character put before a text. -/
def before (c : Char) (r : List Char × List Char) : List Char × List Char :=
  (c :: r.1, r.2)

/-- The value of a text between quotes, after the first of them, and what follows the last. What
    stands for nothing is left out. -/
def textBody : Spot → List Char → List Char × List Char
  | _, [] => ([], [])
  | .plain, '"' :: rest => ([], rest)
  | .plain, '\\' :: rest => textBody .escape rest
  | .plain, '\r' :: '\n' :: rest => before '\n' (textBody .plain rest)
  | .plain, c :: rest => before c (textBody .plain rest)
  | .escape, 'x' :: rest => textBody (.digits 2 0) rest
  | .escape, 'u' :: rest => textBody (.braces 0) rest
  | .escape, '\n' :: rest => textBody .joined rest
  | .escape, c :: rest =>
    match escaped? c with
    | some d => before d (textBody .plain rest)
    | none => textBody .plain rest
  | .joined, '"' :: rest => ([], rest)
  | .joined, '\\' :: rest => textBody .escape rest
  | .joined, c :: rest =>
    if isGap c then textBody .joined rest else before c (textBody .plain rest)
  | .digits left value, c :: rest =>
    let next := value * 16 + (hexValue? c).getD 0
    if left ≤ 1 then before (Char.ofNat next) (textBody .plain rest)
    else textBody (.digits (left - 1) next) rest
  | .braces value, '\x7d' :: rest => before (Char.ofNat value) (textBody .plain rest)
  | .braces value, c :: rest =>
    match hexValue? c with
    | some d => textBody (.braces (value * 16 + d)) rest
    | none => textBody (.braces value) rest

/-- The value of a raw text: all up to a quote with so many number signs after it. -/
def rawBody (marks : Nat) : List Char → List Char × List Char
  | [] => ([], [])
  | c :: rest =>
    if c = '"' ∧ (List.replicate marks '#').isPrefixOf rest then ([], rest.drop marks)
    else before c (rawBody marks rest)

/-- A raw text after its letter: the number of its marks, and what follows its quote. -/
def rawStart? (cs : List Char) : Option (Nat × List Char) :=
  match cs.dropWhile (· = '#') with
  | '"' :: rest => some ((cs.takeWhile (· = '#')).length, rest)
  | _ => none

/-- The text of a quotation after the letters before it, by whether it is raw. -/
def quotation? (raw : Bool) (cs : List Char) : Option (List Char × List Char) :=
  if raw then (rawStart? cs).map fun (marks, rest) => rawBody marks rest
  else
    match cs with
    | '"' :: rest => some (textBody .plain rest)
    | _ => none

/-! ## 3. Literals between single quotes -/

/-- What follows a character between single quotes, after the first of them. -/
def afterCharacter? : List Char → Option (List Char)
  | '\\' :: _ :: rest =>
    match rest.dropWhile (· ≠ '\'') with
    | '\'' :: after => some after
    | _ => none
  | _ :: '\'' :: after => some after
  | _ => none

/-! ## 4. Tokens -/

/-- The words before a quotation that make it a literal of another kind, and whether it is raw. -/
def markedQuotations : List (String × Bool) :=
  [("b", false), ("c", false), ("br", true), ("cr", true)]

/-- A token that starts with a word, and the rest. -/
def ofWord (word : String) (rest : List Char) : Token × List Char :=
  let asName := (name word, rest)
  if word = "r" then
    match rest with
    | '#' :: c :: more =>
      if startsName c then
        (name ("r#" ++ String.ofList (c :: more.takeWhile inName)), more.dropWhile inName)
      else
        match quotation? true rest with
        | some (value, after) => (text (String.ofList value), after.dropWhile inName)
        | none => asName
    | _ =>
      match quotation? true rest with
      | some (value, after) => (text (String.ofList value), after.dropWhile inName)
      | none => asName
  else
    match markedQuotations.lookup word with
    | none => asName
    | some raw =>
      match quotation? raw rest, word, rest with
      | some (value, after), _, _ =>
        (literal (word ++ "\"" ++ String.ofList value ++ "\""), after.dropWhile inName)
      | none, "b", '\'' :: more =>
        match afterCharacter? more with
        | some after => (literal "b", after)
        | none => asName
      | none, _, _ => asName

/-- The token that starts with a character, and the rest. -/
def ofCharacter (c : Char) (rest : List Char) : Token × List Char :=
  if startsName c then
    ofWord (String.ofList (c :: rest.takeWhile inName)) (rest.dropWhile inName)
  else if c.isDigit then
    (literal (String.ofList (c :: rest.takeWhile inNumber)), rest.dropWhile inNumber)
  else
    match c, rest with
    | '"', rest =>
      let (value, after) := textBody .plain rest
      (text (String.ofList value), after.dropWhile inName)
    | '\'', rest =>
      match afterCharacter? rest with
      | some after =>
        (literal (String.ofList ('\'' :: rest.take (rest.length - after.length))), after)
      | none => (lifetime (String.ofList (rest.takeWhile inName)), rest.dropWhile inName)
    | ':', ':' :: rest => (sign "::", rest)
    | '-', '>' :: rest => (sign "->", rest)
    | c, rest => (sign c.toString, rest)

/-- Tokens, at most so many. -/
def scan : Nat → List Char → List Token
  | 0, _ => []
  | rounds + 1, cs =>
    match cs.dropWhile isGap with
    | [] => []
    | c :: rest =>
      let (token, after) := ofCharacter c rest
      token :: scan rounds after

/-- **The tokens of a text.** Every token takes a character, so the length bounds their number. -/
def ofSource (s : String) : List Token :=
  scan s.length s.toList

end Token

end Structural.Publish
