import Structural.Signature

/-!
# Interfaces

An interface is a name and an ordered list of signatures. The position of a signature is its
*slot*; the same shape may be declared in several slots.
-/

namespace Structural

/-- **An interface**: a name and the signatures of its methods, in slot order. -/
structure Interface where
  name : String
  methods : List Signature
deriving DecidableEq, Repr

namespace Interface

/-- The number of slots. -/
def length (i : Interface) : Nat :=
  i.methods.length

/-- The first slot that takes calls of a shape. -/
def slotOf? (i : Interface) (shape : Shape) : Option Nat :=
  i.methods.findIdx? (·.accepts shape)

/-- The slot found takes the calls asked for. -/
theorem accepts_of_slotOf? {i : Interface} {shape : Shape} {k : Nat}
    (h : i.slotOf? shape = some k) : ∃ s, i.methods[k]? = some s ∧ s.shape = shape := by
  unfold slotOf? at h
  rw [List.findIdx?_eq_some_iff_getElem] at h
  obtain ⟨hk, hacc, _⟩ := h
  exact ⟨i.methods[k], List.getElem?_eq_getElem hk, Signature.accepts_iff.mp hacc⟩

end Interface

end Structural
