import Structural.Text.Outline
import Structural.Value

/-!
# Faults and replies

How a single forwarded call can end.

* `Raised` -- an error that a method raised, as it left the method;
* `Fault` -- why a call gave no value: the method raised an error, or the call was not one that the
  method takes;
* `Reply` -- the end of a call: a value, a fault, or a panic, which is not an error that a caller
  can handle.
-/

namespace Structural

/-! ## 1. Raised errors -/

/-- **An error raised by a method**: the error value with its type, and its two texts. -/
structure Raised where
  payload : Value
  /-- The sentence that reports the error. -/
  message : String
  /-- How the error value is built. -/
  outline : String

namespace Raised

/-- The short name of the error's type. -/
def typeName (e : Raised) : String :=
  e.payload.ty.shortName

/-- The error value at the type `t`, if it is of that type. -/
def as? (e : Raised) (t : Ty) : Option t.Carrier :=
  e.payload.as? t

end Raised

/-! ## 2. Faults -/

/-- **Why a call gave no value.** All but the first report a misuse of the call. -/
inductive Fault where
  /-- The method raised an error. -/
  | raised (error : Raised)
  /-- The number of arguments is wrong. -/
  | arity (expected found : Nat)
  /-- The argument at an index is of the wrong type; it is the first such argument. -/
  | argument (index : Nat) (expected found : Ty)
  /-- The receiver is not of the type that the method belongs to. -/
  | receiver (expected : Ty)
  /-- The adapter has no such slot. -/
  | noSuchSlot (slot count : Nat)
  /-- The value returned is not of the type that the caller wants. -/
  | returned (expected found : Ty)

namespace Fault

/-- A text between back quotes. -/
def ticked (s : String) : String :=
  "`" ++ s ++ "`"

/-- The sentence that reports the fault. -/
def message : Fault → String
  | raised e => e.message
  | arity expected found =>
    "expected " ++ toString expected ++ " argument(s), got " ++ toString found
  | argument index expected found =>
    "argument " ++ toString index ++ ": expected " ++ ticked expected.shortName ++ ", found "
      ++ ticked found.shortName
  | receiver expected => "receiver is not a " ++ ticked expected.shortName
  | noSuchSlot slot count =>
    "no forwarding method in slot " ++ toString slot ++ " (adapter has " ++ toString count ++ ")"
  | returned expected found =>
    "return value: expected " ++ ticked expected.shortName ++ ", found " ++ ticked found.shortName

/-- The word that names the kind of fault. -/
def kind : Fault → String
  | raised _ => "Raised"
  | arity .. => "Arity"
  | argument .. => "Argument"
  | receiver _ => "Receiver"
  | noSuchSlot .. => "NoSuchSlot"
  | returned .. => "Return"

/-- How the fault is built, types by their full names. -/
def outline (f : Fault) : String :=
  match f with
  | raised e => Text.applied f.kind e.outline
  | arity expected found =>
    Text.record f.kind [("expected", toString expected), ("found", toString found)]
  | argument index expected found =>
    Text.record f.kind
      [("index", toString index), ("expected", expected.fullName), ("found", found.fullName)]
  | receiver expected => Text.record f.kind [("expected", expected.fullName)]
  | noSuchSlot slot count =>
    Text.record f.kind [("slot", toString slot), ("count", toString count)]
  | returned expected found =>
    Text.record f.kind [("expected", expected.fullName), ("found", found.fullName)]

/-- The error that the method raised, or the fault back if it is a misuse. -/
def intoRaised : Fault → Except Fault Raised
  | raised e => .ok e
  | f => .error f

/-- The error that the method raised, at the type `t`. -/
def as? (f : Fault) (t : Ty) : Option t.Carrier :=
  match f with
  | raised e => e.as? t
  | _ => none

/-- Whether the method itself raised an error. -/
def isRaised : Fault → Bool
  | raised _ => true
  | _ => false

end Fault

/-! ## 3. Replies -/

/-- **How a call ends.** -/
inductive Reply (α : Type) where
  | value (a : α)
  | fault (f : Fault)
  | panic (message : String)

end Structural
