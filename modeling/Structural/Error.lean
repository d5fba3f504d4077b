import Structural.Fault
import Structural.Signature

/-!
# Errors of a build

* `MatchError` -- a method of the interface found no match, or too many;
* `SynthesisError` -- the adapter type could not be made or bound;
* `BuildError` -- why a build gave no adapter: one of the two, or a table of matches that points
  past the end of what it was made for, which no table does that was made for the pair at hand.
-/

namespace Structural

open Fault (ticked)

/-- **A method of an interface could not be matched.** -/
inductive MatchError where
  | noMatch (shape : Shape) (source : String)
  | ambiguous (shape : Shape) (source : String) (candidates : Nat)
deriving DecidableEq, Repr

namespace MatchError

/-- The shape that could not be matched. -/
def shape : MatchError → Shape
  | noMatch s _ => s
  | ambiguous s .. => s

/-- The short name of the type searched. -/
def source : MatchError → String
  | noMatch _ s => s
  | ambiguous _ s _ => s

/-- The sentence that reports the error. -/
def message : MatchError → String
  | noMatch shape source =>
    "no method " ++ ticked shape.render ++ " on " ++ ticked source
  | ambiguous shape source candidates =>
    "method " ++ ticked shape.render ++ " on " ++ ticked source ++ " is ambiguous: "
      ++ toString candidates ++ " candidates"

end MatchError

/-- **An adapter type could not be made or bound.** -/
inductive SynthesisError where
  /-- The matched method returns another type than the interface declares. -/
  | returnMismatch (interface source method : String) (expected found : Ty)
  /-- Another interface with the same fingerprint holds the place in the cache. -/
  | identityCollision (interface : String) (id : UInt64)
  /-- The instance is not of the type that the adapter type wraps. -/
  | targetMismatch (adapter : String) (expected : Ty)
deriving DecidableEq, Repr

namespace SynthesisError

/-- The sentence that reports the error. A fingerprint is written with sixteen digits. -/
def message : SynthesisError → String
  | returnMismatch interface source method expected found =>
    ticked interface ++ " declares " ++ ticked method ++ " returning "
      ++ ticked expected.shortName ++ ", but " ++ ticked source ++ " returns "
      ++ ticked found.shortName
  | identityCollision interface id =>
    "interface " ++ ticked interface ++ " collides with a different interface under id "
      ++ Text.hex16 id.toNat
  | targetMismatch adapter expected =>
    "adapter " ++ ticked adapter ++ " wraps " ++ ticked expected.shortName
      ++ " and cannot bind an instance of another type"

end SynthesisError

/-- An index past the end of a list. -/
structure OutOfBounds where
  length : Nat
  index : Nat
deriving DecidableEq, Repr

namespace OutOfBounds

/-- The sentence that reports the index. -/
def message (e : OutOfBounds) : String :=
  "index out of bounds: the len is " ++ toString e.length ++ " but the index is "
    ++ toString e.index

end OutOfBounds

/-- **Why a build gave no adapter.** -/
inductive BuildError where
  | resolution (e : MatchError)
  | synthesis (e : SynthesisError)
  | outOfBounds (e : OutOfBounds)
deriving DecidableEq, Repr

namespace BuildError

/-- The sentence that reports the error. -/
def message : BuildError → String
  | resolution e => e.message
  | synthesis e => e.message
  | outOfBounds e => e.message

/-- The match error, if the build failed for one. -/
def asMatch? : BuildError → Option MatchError
  | resolution e => some e
  | _ => none

end BuildError

end Structural
