/-!
# Data trees

What a configuration document holds: scalars, lists and tables of named members, in the order of
the document. Floating-point numbers are told from integers, their values are not kept.
-/

namespace Structural

/-- How a table is written. -/
inductive TableForm where
  /-- As one object, in a document of objects. -/
  | object
  /-- Between braces, as one value. -/
  | inline
  /-- As a section of the document, or through dotted names. -/
  | section_
deriving DecidableEq, Repr

/-- **A data tree.** -/
inductive Data where
  | null
  | bool (b : Bool)
  | int (n : Int)
  | float
  | text (s : String)
  | list (items : List Data)
  | table (form : TableForm) (members : List (String × Data))
deriving Inhabited

end Structural
