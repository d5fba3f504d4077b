import Structural.Blueprint

/-!
# Adapters

An adapter is a blueprint bound to one instance. Instances live outside the adapter and may be
shared: an adapter knows which instance it wraps, and a call is made on the instance as it is at
that moment and gives the instance as it is afterwards.

* `Target` -- which instance, and of which type;
* `Blueprint.bind` -- **an instance bound to a blueprint**, refused if it is of another type;
* `Adapter.invoke` -- a call through a slot;
* `Adapter.invokeTyped` -- the same, with the value taken out at a type.
-/

namespace Structural

/-- An instance, as something that can be wrapped. -/
structure Target where
  /-- Which instance it is. -/
  ref : Nat
  ty : Ty
deriving DecidableEq, Repr

/-- **A blueprint bound to an instance.** -/
structure Adapter where
  blueprint : Blueprint
  target : Target

/-- **An instance bound to a blueprint.** -/
def Blueprint.bind (b : Blueprint) (target : Target) : Except SynthesisError Adapter :=
  if target.ty = b.source then .ok ⟨b, target⟩
  else .error (.targetMismatch b.name b.source)

namespace Adapter

/-- The interface of an adapter. -/
def interface (a : Adapter) : Interface :=
  a.blueprint.interface

/-- The first slot that takes calls of a shape. -/
def slotOf? (a : Adapter) (shape : Shape) : Option Nat :=
  a.interface.slotOf? shape

/-- **A call through a slot**, on the instance as it is. -/
def invoke (a : Adapter) (slot : Nat) (args : List Value) (object : Object) :
    Reply Value × Object :=
  match a.blueprint.slots[slot]? with
  | none => (.fault (.noSuchSlot slot a.blueprint.slots.length), object)
  | some s => s.thunk object args

/-- The value of a reply at a type. -/
def typedReply (t : Ty) : Reply Value → Reply t.Carrier
  | .value v =>
    match v.downcast t with
    | .ok x => .value x
    | .error back => .fault (.returned t back.ty)
  | .fault f => .fault f
  | .panic m => .panic m

/-- **A call through a slot, its value taken out at a type.** -/
def invokeTyped (a : Adapter) (t : Ty) (slot : Nat) (args : List Value) (object : Object) :
    Reply t.Carrier × Object :=
  let (reply, after) := a.invoke slot args object
  (typedReply t reply, after)

/-- How an adapter shows itself; the instance is not shown. -/
def outline (a : Adapter) : String :=
  Text.openRecord "Adapter"
    [("type", Text.quote a.blueprint.name), ("id", a.blueprint.idOutline)]

/-- A typed call leaves the instance as the call itself does. -/
theorem invokeTyped_snd (a : Adapter) (t : Ty) (slot : Nat) (args : List Value)
    (object : Object) : (a.invokeTyped t slot args object).2 = (a.invoke slot args object).2 := rfl

/-- A call through no slot of the adapter changes nothing. -/
theorem invoke_of_none {a : Adapter} {slot : Nat} (h : a.blueprint.slots[slot]? = none)
    (args : List Value) (object : Object) :
    a.invoke slot args object =
      (.fault (.noSuchSlot slot a.blueprint.slots.length), object) := by
  simp [invoke, h]

end Adapter

/-- An adapter wraps an instance of the type its blueprint is for. -/
theorem Blueprint.bind_eq_ok_iff {b : Blueprint} {target : Target} {a : Adapter} :
    b.bind target = .ok a ↔ target.ty = b.source ∧ a = ⟨b, target⟩ := by
  unfold Blueprint.bind
  split
  · rename_i h
    simp [h, eq_comm]
  · rename_i h
    simp [h]

end Structural
