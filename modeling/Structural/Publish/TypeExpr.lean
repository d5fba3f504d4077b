/-!
# Types as they are written

The types in the declaration of a method, before anything is known of what they stand for. What is
decided about them is decided by their form alone.

* `TypeExpr` -- the forms, `paren` and `group` among them, which stand around a type and mean
  nothing: parentheses as they are written, and invisible ones from a substitution;
* `TypeExpr.borrows` -- whether a value of the type visibly borrows: a reference, an anonymous
  type, or a tuple with such an element. Parentheses of both kinds are looked through, nothing else
  is;
* `TypeExpr.cannotBeError` -- whether the type is visibly no error type;
* `TypeExpr.fallible` -- **whether a method that returns the type is a fallible one**: the path of
  the type ends in `Result`. A path in parentheses is none here. If the error type is visibly no
  error type, there is no answer.

Left out are the types `!` and `_`, types written by a macro, the results of function types, path
arguments in round brackets, arguments that bind an associated type, and bounds of more than one
segment. Nothing that is decided looks into any of them.
-/

namespace Structural.Publish

/-! ## 1. Forms -/

mutual

/-- **A type as it is written.** -/
inductive TypeExpr where
  /-- Segments with double colons between them, the first after one if `leading`; after the type
      `of?` between angle brackets, if there is one. -/
  | path (of? : Option TypeExpr) (leading : Bool) (segments : List Segment)
  | reference (mutable : Bool) (target : TypeExpr)
  | tuple (elements : List TypeExpr)
  | paren (inner : TypeExpr)
  | group (inner : TypeExpr)
  /-- An anonymous type with bounds. -/
  | anonymous (bounds : List Segment)
  /-- A type known by its bounds only when it runs. -/
  | dynamic (bounds : List Segment)
  | array (element : TypeExpr)
  | slice (element : TypeExpr)
  | pointer (target : TypeExpr)
  | function (params : List TypeExpr)

/-- One segment of a path, with arguments between angle brackets or without. -/
inductive Segment where
  | mk (name : String) (args? : Option (List GenericArg))

/-- What stands between angle brackets. -/
inductive GenericArg where
  | type (t : TypeExpr)
  | lifetime (name : String)
  | constant (source : String)

end

deriving instance Inhabited for TypeExpr

namespace Segment

/-- The name of a segment. -/
def name : Segment → String
  | mk n _ => n

/-- The arguments of a segment, none if it has no angle brackets. -/
def args : Segment → List GenericArg
  | mk _ args? => args?.getD []

end Segment

namespace GenericArg

/-- The type that an argument is, if it is one. -/
def type? : GenericArg → Option TypeExpr
  | type t => some t
  | _ => none

/-- Whether an argument is a type known by its bounds only, without parentheses. -/
def isDynamic : GenericArg → Bool
  | type (.dynamic _) => true
  | _ => false

end GenericArg

/-- The types among the arguments of a segment. -/
def Segment.typeArgs (s : Segment) : List TypeExpr :=
  s.args.filterMap GenericArg.type?

/-! ## 2. Borrowing -/

mutual

/-- **Whether a value of a type visibly borrows.** -/
def TypeExpr.borrows : TypeExpr → Bool
  | .reference .. => true
  | .anonymous _ => true
  | .paren inner => inner.borrows
  | .group inner => inner.borrows
  | .tuple elements => anyBorrows elements
  | _ => false

/-- Whether one of several types borrows. -/
def anyBorrows : List TypeExpr → Bool
  | [] => false
  | t :: rest => t.borrows || anyBorrows rest

end

/-- A tuple borrows as its elements do. -/
theorem anyBorrows_eq_any : ∀ ts : List TypeExpr, anyBorrows ts = ts.any TypeExpr.borrows
  | [] => by simp [anyBorrows]
  | t :: rest => by simp [anyBorrows, anyBorrows_eq_any rest]

/-! ## 3. Errors and results -/

/-- The packages whose errors are opaque and no error types themselves. -/
def opaquePackages : List String := ["anyhow", "eyre"]

/-- Whether a path starts in one of these packages. -/
def startsOpaque (segments : List Segment) : Bool :=
  match segments with
  | [] => false
  | first :: _ => first.name ∈ opaquePackages

/-- Whether the last segment of a path is no error type. -/
def endsInNoError (segments : List Segment) : Bool :=
  match segments.getLast? with
  | none => false
  | some last =>
    startsOpaque segments || last.name = "String"
      || (last.name = "Box" && last.args.any GenericArg.isDynamic)

/-- **Whether a type is visibly no error type**: a reference, a tuple, a text, a boxed type known
    by its bounds only, or one of an opaque package. Parentheses of both kinds are looked
    through. -/
def TypeExpr.cannotBeError : TypeExpr → Bool
  | .reference .. => true
  | .tuple _ => true
  | .paren inner => inner.cannotBeError
  | .group inner => inner.cannotBeError
  | .path _ _ segments => endsInNoError segments
  | _ => false

/-- **Whether a method that returns a type is a fallible one**; `none` if the error type, the
    second type between the angle brackets, is visibly no error type. -/
def TypeExpr.fallible? : TypeExpr → Option Bool
  | .path _ _ segments =>
    match segments.getLast? with
    | none => some false
    | some last =>
      if last.name ≠ "Result" then some false
      else if startsOpaque segments then none
      else
        match last.typeArgs[1]? with
        | none => some true
        | some e => if e.cannotBeError then none else some true
  | _ => some false

end Structural.Publish
