import Structural.Method

/-!
# Sources

A source describes a type by the methods it publishes, in the order of registration. Names and
shapes may repeat, and one type may have several descriptions.
-/

namespace Structural

/-- **A description of a type**: its published methods, in order. -/
structure Source where
  ty : Ty
  methods : List (Method ty)

namespace Source

/-- The short name of the type described. -/
def name (s : Source) : String :=
  s.ty.shortName

/-- The signatures published, in order. -/
def signatures (s : Source) : List Signature :=
  s.methods.map Method.signature

/-- How a source is built; bodies are not shown. -/
def outline (s : Source) : String :=
  Text.record "SourceType"
    [("ty", s.ty.fullName),
     ("methods", Text.sequence (s.signatures.map fun sig =>
       Text.openRecord "SourceMethod" [("sig", sig.outline)]))]

@[simp] theorem length_signatures (s : Source) : s.signatures.length = s.methods.length := by
  simp [signatures]

theorem getElem?_signatures (s : Source) (k : Nat) :
    s.signatures[k]? = s.methods[k]?.map Method.signature := by
  simp [signatures]

end Source

end Structural
