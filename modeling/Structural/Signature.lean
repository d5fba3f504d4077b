import Structural.Text.Outline
import Structural.Ty

/-!
# Signatures

* `Shape` -- what a call looks like: a name and the types of the arguments, in order. Methods are
  matched by their shape;
* `Signature` -- a shape and the type of the result;
* the texts: `Shape.render` is `name(A, B)`, `Signature.render` adds ` -> R`.
-/

namespace Structural

/-- **The shape of a call**: a name and the argument types. -/
structure Shape where
  name : String
  params : List Ty
deriving DecidableEq, Repr

/-- **A signature**: the shape of the calls a method takes, and the type it returns. -/
structure Signature extends Shape where
  result : Ty
deriving DecidableEq, Repr

namespace Shape

/-- The shape as a call, types by their short names. -/
def render (s : Shape) : String :=
  s.name ++ "(" ++ Text.commas (s.params.map Ty.shortName) ++ ")"

end Shape

namespace Signature

/-- The shape of the calls that a signature takes. -/
def shape (s : Signature) : Shape :=
  s.toShape

/-- The number of arguments. -/
def arity (s : Signature) : Nat :=
  s.params.length

/-- Whether a signature takes calls of a shape: the same name, and the same types one by one. -/
def accepts (s : Signature) (shape : Shape) : Bool :=
  decide (s.shape = shape)

/-- Whether two signatures take the same calls; the types they return play no part. -/
def fits (s other : Signature) : Bool :=
  s.accepts other.shape

/-- A signature as a user reads it. -/
def render (s : Signature) : String :=
  s.shape.render ++ " -> " ++ s.result.shortName

/-- How a signature is built, types by their full names. -/
def outline (s : Signature) : String :=
  Text.record "MethodSig"
    [("name", Text.quote s.name), ("params", Text.sequence (s.params.map Ty.fullName)),
     ("ret", s.result.fullName)]

theorem accepts_iff {s : Signature} {shape : Shape} : s.accepts shape = true ↔ s.shape = shape := by
  simp [accepts]

theorem fits_iff {s t : Signature} : s.fits t = true ↔ s.shape = t.shape := by
  simp [fits, accepts_iff]

end Signature

end Structural
