import Structural.Data

/-!
# Tables under construction

A document writes its tables in pieces: under a header, through dotted keys, on the way to a
deeper table. Which piece may add to which table is kept in two marks of a table:

* *implicit* -- it came about on the way to something deeper, and no header named it;
* *dotted* -- it came about through a dotted key.

`define` adds a value, `openTable` and `openElement` start a section; each is `none` where the
document may not say so. `Node.data` is the data tree at the end.
-/

namespace Structural.Toml

/-- What stands under a key so far. -/
inductive Node where
  | value (d : Data)
  | table (implicit dotted : Bool) (entries : List (String × Node))
  /-- A list of tables, one header for each. -/
  | tables (elements : List (List (String × Node)))

/-- The entries of a table under construction, in the order of the document. -/
abbrev Entries := List (String × Node)

/-! ## 1. Ways through the tables -/

/-- The first entry with a key replaced. -/
def replace (name : String) (node : Node) : Entries → Entries
  | [] => []
  | e :: rest => if e.1 = name then (name, node) :: rest else e :: replace name node rest

/-- A change of the table at the end of a way. Tables that are missing on the way come about as
    implicit ones. The way leads through the last of a list of tables; a way of a dotted key does
    not lead through a table that a header named, and none leads through a value. The change is
    told whether the table it is at is a dotted one. -/
def alter (dotted : Bool) (change : Bool → Entries → Option Entries) :
    List String → Bool → Entries → Option Entries
  | [], here, entries => change here entries
  | name :: way, _, entries =>
    match entries.lookup name with
    | none =>
      (alter dotted change way dotted []).map fun sub =>
        entries ++ [(name, .table true dotted sub)]
    | some (.value _) => none
    | some (.table implicit mark sub) =>
      if dotted && !implicit then none
      else
        (alter dotted change way mark sub).map fun sub =>
          replace name (.table implicit mark sub) entries
    | some (.tables elements) =>
      (alter dotted change way false (elements.getLastD [])).map fun sub =>
        replace name (.tables (elements.dropLast ++ [sub])) entries

/-- An entry added at the end, if its key is free. -/
def addNew (name : String) (node : Node) (entries : Entries) : Option Entries :=
  match entries.lookup name with
  | none => some (entries ++ [(name, node)])
  | some _ => none

/-! ## 2. The pieces -/

/-- **A value under a key**: at the end of a dotted key stands a dotted table, and only there. -/
def define (path : List String) (d : Data) (entries : Entries) : Option Entries :=
  alter true
    (fun dotted es => if dotted = path.dropLast.isEmpty then none
      else addNew (path.getLastD "") (.value d) es)
    path.dropLast false entries

/-- **A section for one table.** Nothing may stand there but an implicit table that is not dotted;
    that one moves to the end and keeps its entries. -/
def openTable (path : List String) (root : Entries) : Option Entries :=
  let name := path.getLastD ""
  alter false
    (fun _ es =>
      match es.lookup name with
      | none => some (es ++ [(name, .table false false [])])
      | some (.table true false sub) =>
        some (es.eraseP (fun e => e.1 == name) ++ [(name, .table false false sub)])
      | some _ => none)
    path.dropLast false root

/-- **A section for one more table of a list.** -/
def openElement (path : List String) (root : Entries) : Option Entries :=
  let name := path.getLastD ""
  alter false
    (fun _ es =>
      match es.lookup name with
      | none => some (es ++ [(name, .tables [[]])])
      | some (.tables elements) => some (replace name (.tables (elements ++ [[]])) es)
      | some _ => none)
    path.dropLast false root

/-- **A value in the section under a header.** -/
def defineUnder (header path : List String) (d : Data) (root : Entries) : Option Entries :=
  alter false (fun _ es => define path d es) header false root

/-! ## 3. The data tree -/

mutual

/-- **The data tree of a node**, its tables written in a form. -/
def Node.data (form : TableForm) : Node → Data
  | .value d => d
  | .table _ _ entries => .table form (entriesData form entries)
  | .tables elements => .list (elementsData form elements)

/-- The members of a table. -/
def entriesData (form : TableForm) : Entries → List (String × Data)
  | [] => []
  | (name, node) :: rest => (name, node.data form) :: entriesData form rest

/-- The tables of a list. -/
def elementsData (form : TableForm) : List Entries → List Data
  | [] => []
  | entries :: rest => .table form (entriesData form entries) :: elementsData form rest

end

end Structural.Toml
