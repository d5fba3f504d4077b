import Structural.Text.Unprintable

/-!
# Outlines of values

The textual form that shows how a value is built: a record with named fields, a tuple-like
constructor, a bracketed sequence, a quoted text.

* `quote` -- a text between double quotes, with escapes;
* `record` / `openRecord` -- `Name { field: value, … }`, the open one ending in `..` for the fields
  it does not show;
* `applied` -- `Name(value)`;
* `sequence` -- `[value, …]`.
-/

namespace Structural.Text

/-- The digits of a code point, in lower-case hexadecimal without leading zeros. -/
def hex (n : Nat) : String :=
  String.ofList (Nat.toDigits 16 n)

/-- A number in hexadecimal with at least sixteen digits. -/
def hex16 (n : Nat) : String :=
  let digits := Nat.toDigits 16 n
  String.ofList (List.replicate (16 - digits.length) '0' ++ digits)

/-- How a character is written between double quotes. -/
def escapeChar (c : Char) : String :=
  match c with
  | '"' => "\\\""
  | '\\' => "\\\\"
  | '\n' => "\\n"
  | '\t' => "\\t"
  | '\r' => "\\r"
  | '\x00' => "\\0"
  | c => if isUnprintable c then "\\u\x7b" ++ hex c.toNat ++ "\x7d" else c.toString

/-- **A text between double quotes.** -/
def quote (s : String) : String :=
  "\"" ++ String.join (s.toList.map escapeChar) ++ "\""

/-- Texts with a comma and a blank between them. -/
def commas (parts : List String) : String :=
  ", ".intercalate parts

/-- A sequence between square brackets. -/
def sequence (parts : List String) : String :=
  "[" ++ commas parts ++ "]"

/-- A constructor with its one argument. -/
def applied (name argument : String) : String :=
  name ++ "(" ++ argument ++ ")"

/-- The fields of a record, each with its name. -/
def fieldTexts (fields : List (String × String)) : List String :=
  fields.map fun f => f.1 ++ ": " ++ f.2

/-- A record with all its fields. -/
def record (name : String) (fields : List (String × String)) : String :=
  name ++ " \x7b " ++ commas (fieldTexts fields) ++ " \x7d"

/-- A record that shows some of its fields. -/
def openRecord (name : String) (fields : List (String × String)) : String :=
  name ++ " \x7b " ++ commas (fieldTexts fields ++ [".."]) ++ " \x7d"

end Structural.Text
