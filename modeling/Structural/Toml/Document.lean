import Structural.Toml.Number
import Structural.Toml.Sections

/-!
# TOML documents

* `value` -- scalars, arrays over several lines and inline tables on one, nested at most
  `maxDepth` deep;
* `Data.ofToml?` -- **the data tree of a document**: entries and headers line by line. Dates and
  texts over several lines are not part of the format read here.

A loop over the rest of a document is bounded by its length: each round takes at least one
character.
-/

namespace Structural

namespace Toml

/-! ## 1. Values -/

/-- A value without parts. -/
def scalar : Reader Data
  | '"' :: rest =>
    (basicText .plain rest).map fun (text, rest) => (.text (String.ofList text), rest)
  | '\'' :: rest =>
    (literalText rest).map fun (text, rest) => (.text (String.ofList text), rest)
  | 't' :: 'r' :: 'u' :: 'e' :: rest => some (.bool true, rest)
  | 'f' :: 'a' :: 'l' :: 's' :: 'e' :: rest => some (.bool false, rest)
  | cs => number cs

/-- The elements of an array, up to its bracket. A comma may follow the last one. -/
def elements (element : Reader Data) : Nat → Reader (List Data)
  | 0, _ => none
  | rounds + 1, cs =>
    (skipLines false cs).bind fun cs =>
      match cs with
      | ']' :: rest => some ([], rest)
      | cs =>
        (element cs).bind fun (d, rest) =>
          (skipLines false rest).bind fun rest =>
            match rest with
            | ',' :: rest => (elements element rounds rest).map fun (ds, rest) => (d :: ds, rest)
            | ']' :: rest => some ([d], rest)
            | _ => none

/-- One entry: a key and a value. -/
def entry (element : Reader Data) (cs : List Char) : Option ((List String × Data) × List Char) :=
  (key cs).bind fun (path, rest) =>
    match rest with
    | '=' :: rest => (element (skipGaps rest)).map fun (d, rest) => ((path, d), rest)
    | _ => none

/-- The entries of an inline table, at least one, up to its brace. -/
def members (element : Reader Data) : Nat → Entries → Reader Entries
  | 0, _, _ => none
  | rounds + 1, entries, cs =>
    (entry element cs).bind fun ((path, d), rest) =>
      (define path d entries).bind fun entries =>
        match skipGaps rest with
        | ',' :: rest => members element rounds entries rest
        | '}' :: rest => some (entries, rest)
        | _ => none

/-- An inline table, after its brace. -/
def inlineTable (element : Reader Data) (cs : List Char) : Option (Data × List Char) :=
  match skipGaps cs with
  | '}' :: rest => some (.table .inline [], rest)
  | cs =>
    (members element cs.length [] cs).map fun (entries, rest) =>
      (.table .inline (entriesData .inline entries), rest)

/-- A value that nests at most so deep. -/
def valueUpTo : Nat → Reader Data
  | depth + 1, '[' :: rest =>
    (elements (valueUpTo depth) rest.length rest).map fun (ds, rest) => (.list ds, rest)
  | depth + 1, '{' :: rest => inlineTable (valueUpTo depth) rest
  | _, cs => scalar cs

/-- **A value.** -/
def value : Reader Data :=
  valueUpTo maxDepth

/-! ## 2. Lines -/

/-- A document so far: its tables, and the header above the next line. -/
structure Draft where
  root : Entries
  header : List String

/-- The empty document. -/
def Draft.empty : Draft := ⟨[], []⟩

/-- A header for one more table of a list, after its brackets. -/
def elementHeader (draft : Draft) (cs : List Char) : Option (Draft × List Char) :=
  (key cs).bind fun (path, rest) =>
    match rest with
    | ']' :: ']' :: rest =>
      (trailing rest).bind fun rest =>
        (openElement path draft.root).map fun root => (⟨root, path⟩, rest)
    | _ => none

/-- A header for one table, after its bracket. -/
def tableHeader (draft : Draft) (cs : List Char) : Option (Draft × List Char) :=
  (key cs).bind fun (path, rest) =>
    match rest with
    | ']' :: rest =>
      (trailing rest).bind fun rest =>
        (openTable path draft.root).map fun root => (⟨root, path⟩, rest)
    | _ => none

/-- An entry on its line. -/
def entryLine (draft : Draft) (cs : List Char) : Option (Draft × List Char) :=
  (entry value cs).bind fun ((path, d), rest) =>
    (trailing rest).bind fun rest =>
      (defineUnder draft.header path d draft.root).map fun root => (⟨root, draft.header⟩, rest)

/-- One line, from its first character that is no blank. -/
def line (draft : Draft) : List Char → Option (Draft × List Char)
  | '#' :: rest => (comment rest).map (draft, ·)
  | '\n' :: rest => some (draft, rest)
  | '\r' :: rest => (lineEnd ('\r' :: rest)).map (draft, ·)
  | '[' :: '[' :: rest => elementHeader draft rest
  | '[' :: rest => tableHeader draft rest
  | cs => entryLine draft cs

/-- All lines. -/
def lines : Nat → Draft → List Char → Option Draft
  | 0, _, _ => none
  | rounds + 1, draft, cs =>
    match skipGaps cs with
    | [] => some draft
    | cs => (line draft cs).bind fun (draft, rest) => lines rounds draft rest

/-- The characters of a document without its byte order mark. -/
def body : List Char → List Char
  | '\ufeff' :: rest => rest
  | cs => cs

end Toml

/-- **The data tree of a TOML document.** -/
def Data.ofToml? (document : String) : Option Data :=
  let cs := Toml.body document.toList
  (Toml.lines (cs.length + 1) .empty cs).map fun draft =>
    .table .section_ (Toml.entriesData .section_ draft.root)

end Structural
