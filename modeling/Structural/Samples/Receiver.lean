import Structural.Samples.Errors
import Structural.Method

/-!
# Sample receivers

Types whose instances can be wrapped. Every instance has a *state*, a number of 64 bits that can
be read and bumped; only an accumulator keeps what it is bumped by.
-/

namespace Structural.Samples

/-- **The sample receivers.** -/
inductive Receiver where
  | target
  | overloaded
  | acc
  | host
  | empty
  | wide
  | pointA
  | pointB
  | wrap
  | string
  | int
deriving DecidableEq, Repr

namespace Receiver

/-- All sample receivers. -/
def all : List Receiver :=
  [target, overloaded, acc, host, empty, wide, pointA, pointB, wrap, string, int]

/-- The name of a receiver. -/
def name : Receiver → String
  | target => "Target"
  | overloaded => "Overloaded"
  | acc => "Acc"
  | host => "Host"
  | empty => "Empty"
  | wide => "Wide"
  | pointA => "a::Point"
  | pointB => "b::Point"
  | wrap => "Wrap<i32>"
  | string => "String"
  | int => "i32"

/-- The receiver with a name. -/
def ofName? (s : String) : Option Receiver :=
  all.find? (·.name = s)

/-- The type of a receiver. -/
def ty : Receiver → Ty
  | target => nominal target.name .unit
  | overloaded => nominal overloaded.name .unit
  | acc => nominal acc.name .i64
  | host => nominal host.name .string
  | empty => nominal empty.name .unit
  | wide => nominal wide.name .unit
  | pointA => nominal pointA.name .i32
  | pointB => nominal pointB.name .i32
  | wrap => nominal wrap.name .i32
  | string => .string
  | int => .i32

/-- An instance made from a number: an accumulator that holds it, a point or an integer with its
    low 32 bits, its decimal digits as text, a host that greets with it. -/
def object (r : Receiver) (init : Int) : Object :=
  match r with
  | target => ⟨target.ty, ()⟩
  | overloaded => ⟨overloaded.ty, ()⟩
  | acc => ⟨acc.ty, BitVec.ofInt 64 init⟩
  | host => ⟨host.ty, "hello" ++ toString init⟩
  | empty => ⟨empty.ty, ()⟩
  | wide => ⟨wide.ty, ()⟩
  | pointA => ⟨pointA.ty, BitVec.ofInt 32 init⟩
  | pointB => ⟨pointB.ty, BitVec.ofInt 32 init⟩
  | wrap => ⟨wrap.ty, BitVec.ofInt 32 init⟩
  | string => ⟨string.ty, toString init⟩
  | int => ⟨int.ty, BitVec.ofInt 32 init⟩

/-- The state of an instance: the number it holds, or the length of its text in bytes. -/
def state (r : Receiver) : r.ty.Carrier → BitVec 64 :=
  match r with
  | target => fun _ => 0
  | overloaded => fun _ => 0
  | acc => fun (n : BitVec 64) => n
  | host => fun (greeting : String) => BitVec.ofNat 64 greeting.utf8ByteSize
  | empty => fun _ => 0
  | wide => fun _ => 0
  | pointA => fun (n : BitVec 32) => n.signExtend 64
  | pointB => fun (n : BitVec 32) => n.signExtend 64
  | wrap => fun (n : BitVec 32) => n.signExtend 64
  | string => fun (s : String) => BitVec.ofNat 64 s.utf8ByteSize
  | int => fun (n : BitVec 32) => n.signExtend 64

/-- The state and a number added, wrapping, and the instance afterwards. -/
def bump (r : Receiver) (amount : BitVec 64) (instance_ : r.ty.Carrier) :
    BitVec 64 × r.ty.Carrier :=
  match r with
  | acc => (acc.state instance_ + amount, acc.state instance_ + amount)
  | r => (r.state instance_ + amount, instance_)

end Receiver

/-- The state of an instance of a sample receiver. -/
def observe (o : Object) : Option Int :=
  Receiver.all.findSome? fun r => (o.as? r.ty).map fun x => (r.state x).toInt

end Structural.Samples
