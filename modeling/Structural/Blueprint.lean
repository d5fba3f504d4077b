import Structural.Resolution

/-!
# Blueprints

A blueprint is a synthesized adapter type: for one interface over one type, a forwarding slot for
every method of the interface. It is not yet bound to an instance.

* `Slot` -- the signature that a slot has, the index of the method behind it, and its thunk;
* `Blueprint` -- the slots of an interface over a type, with an id and a name;
* `Blueprint.synthesize` -- **the blueprint for a table of matches**. A slot has the signature of
  the interface; a matched method that returns another type is refused here;
* `Blueprint.name` -- `From{Interface}To{Type}`.
-/

namespace Structural

/-- **One forwarding slot.** -/
structure Slot where
  signature : Signature
  /-- The index of the method behind the slot. -/
  index : Nat
  thunk : Thunk

/-- **A synthesized adapter type.** -/
structure Blueprint where
  id : Nat
  name : String
  interface : Interface
  /-- The type whose instances it wraps. -/
  source : Ty
  /-- One slot for every method of the interface, in order. -/
  slots : List Slot

/-- Why a table gave no blueprint. -/
inductive Defect where
  | refused (e : SynthesisError)
  | outOfBounds (e : OutOfBounds)

namespace Slot

/-- How a slot is built; the thunk is not shown. -/
def outline (s : Slot) : String :=
  Text.openRecord "ForwardingMethod"
    [("sig", s.signature.outline), ("source_index", toString s.index)]

end Slot

namespace Blueprint

/-- The name of the adapter type of an interface over a type. -/
def nameFor (interface : Interface) (source : Source) : String :=
  "From" ++ interface.name ++ "To" ++ source.name

/-- The slot of one binding. The interface is looked up first, then the source. -/
def slotFor (interface : Interface) (source : Source) (b : Binding) : Except Defect Slot :=
  match interface.methods[b.slot]? with
  | none => .error (.outOfBounds ⟨interface.methods.length, b.slot⟩)
  | some wanted =>
    match source.methods[b.index]? with
    | none => .error (.outOfBounds ⟨source.methods.length, b.index⟩)
    | some found =>
      if wanted.result ≠ found.result then
        .error (.refused (.returnMismatch interface.name source.name wanted.shape.render
          wanted.result found.result))
      else
        .ok ⟨wanted, b.index, found.thunk⟩

/-- The slots of a table, up to the first defect. -/
def slotsFor (interface : Interface) (source : Source) : Table → Except Defect (List Slot)
  | [] => .ok []
  | b :: rest =>
    match slotFor interface source b with
    | .error d => .error d
    | .ok slot =>
      match slotsFor interface source rest with
      | .error d => .error d
      | .ok slots => .ok (slot :: slots)

/-- **The blueprint of an interface over a source, for a table of matches.** -/
def synthesize (id : Nat) (interface : Interface) (source : Source) (table : Table) :
    Except Defect Blueprint :=
  match slotsFor interface source table with
  | .error d => .error d
  | .ok slots => .ok ⟨id, nameFor interface source, interface, source.ty, slots⟩

/-- The id of a blueprint as a user reads it. -/
def idText (b : Blueprint) : String :=
  "#" ++ toString b.id

/-- How the id of a blueprint is built. -/
def idOutline (b : Blueprint) : String :=
  Text.applied "AdapterTypeId" (toString b.id)

/-- How a blueprint is built. -/
def outline (b : Blueprint) : String :=
  Text.record "AdapterType"
    [("id", b.idOutline), ("name", Text.quote b.name), ("source", b.source.fullName),
     ("methods", Text.sequence (b.slots.map Slot.outline))]

/-- What a blueprint is made for, it keeps. -/
theorem of_synthesize {id : Nat} {interface : Interface} {source : Source} {table : Table}
    {b : Blueprint} (h : synthesize id interface source table = .ok b) :
    b.id = id ∧ b.interface = interface ∧ b.source = source.ty ∧
      b.name = nameFor interface source ∧ slotsFor interface source table = .ok b.slots := by
  unfold synthesize at h
  split at h
  · cases h
  · rename_i slots hs
    cases h
    exact ⟨rfl, rfl, rfl, rfl, hs⟩

end Blueprint

end Structural
