import Structural.Demo.Arithmetic
import Structural.Registry

/-!
# Requests to the demonstration

* `Request` -- what can be asked: a sum through the facade, any method through an interface
  described on the spot, or a report on the adapter type of such an interface;
* `Request.interface` -- the interface that a request needs;
* `Failure` -- why a request gives nothing: the context, if there is one, and the cause;
* `perform` -- **a request performed** on a registry, for the demonstration target.
-/

namespace Structural.Demo

/-- **What can be asked.** -/
inductive Request where
  /-- The sum of two numbers. -/
  | run (a b : BitVec 32)
  /-- A method of two numbers, by name. -/
  | call (method : String) (a b : BitVec 32)
  /-- The adapter type for methods of two numbers, by name. -/
  | inspect (methods : List String)
deriving DecidableEq, Repr

/-- The signature of a method of two numbers. -/
def binary (name : String) : Signature :=
  ⟨⟨name, [.i32, .i32]⟩, .i32⟩

/-- **The interface that a request needs.** -/
def Request.interface : Request → Interface
  | run .. => addNumbers.interface
  | call method .. => ⟨"Call", [binary method]⟩
  | inspect methods => ⟨"Inspect", methods.map binary⟩

/-! ## 1. Failures -/

/-- What made a request fail. -/
inductive Cause where
  | build (e : BuildError)
  | fault (f : Fault)
  | panic (message : String)

namespace Cause

/-- The sentence that reports the cause. -/
def message : Cause → String
  | build e => e.message
  | fault f => f.message
  | panic m => m

end Cause

/-- **Why a request gives nothing.** -/
structure Failure where
  context : Option String
  cause : Cause

namespace Failure

/-- The sentences from the outermost to the cause. -/
def chain (f : Failure) : List String :=
  f.context.toList ++ [f.cause.message]

/-- The outermost sentence. -/
def top (f : Failure) : String :=
  f.context.getD f.cause.message

/-- The whole chain in one line. -/
def message (f : Failure) : String :=
  ": ".intercalate f.chain

end Failure

/-- The value of a reply. A fault stands in a context, if there is one. -/
def valueOf {α : Type} (context : Option String) : Reply α → Except Failure α
  | .value a => .ok a
  | .fault f => .error ⟨context, .fault f⟩
  | .panic m => .error ⟨none, .panic m⟩

/-! ## 2. Reports -/

/-- What a request gives. -/
inductive Output where
  | number (n : BitVec 32)
  | lines (lines : List String)
deriving DecidableEq, Repr

/-- The lines that show what a request gives. -/
def Output.text : Output → List String
  | number n => [toString n.toInt]
  | lines ls => ls

/-- The line of one slot. The method behind the slot is looked up in the source. -/
def slotLine (s : Source) (k : Nat) (slot : Slot) : Except OutOfBounds String :=
  match s.signatures[slot.index]? with
  | none => .error ⟨s.methods.length, slot.index⟩
  | some m =>
    .ok ("  [" ++ toString k ++ "] " ++ slot.signature.render ++ " => " ++ s.name ++ "::" ++ m.name)

/-- The lines of slots, the first of them being slot `k`. -/
def slotLines (s : Source) (k : Nat) : List Slot → Except OutOfBounds (List String)
  | [] => .ok []
  | slot :: rest =>
    (slotLine s k slot).bind fun line => (slotLines s (k + 1) rest).map (line :: ·)

/-- The line of the counters. -/
def statsLine (s : RegistryStats) : String :=
  "  minted " ++ toString s.minted ++ ", cache " ++ toString s.cache.size ++ "/"
    ++ toString s.cache.capacity ++ " (" ++ toString s.cache.hits ++ " hits, "
    ++ toString s.cache.misses ++ " misses, " ++ toString s.cache.evictions ++ " evictions)"

/-- **The report on an adapter type.** -/
def report (fingerprint : Interface → UInt64) (b : Blueprint) (s : Source)
    (stats : RegistryStats) : Except OutOfBounds (List String) :=
  (slotLines s 0 b.slots).map fun slots =>
    [b.name ++ " " ++ b.idText,
     "  interface " ++ b.interface.name ++ " ("
       ++ Text.hex16 (fingerprint b.interface).toNat ++ ")",
     "  source " ++ b.source.shortName]
    ++ slots ++ [statsLine stats]

/-! ## 3. Requests performed -/

/-- What a built adapter gives for a request. -/
def answer (fingerprint : Interface → UInt64) (stats : RegistryStats) (a : Adapter) :
    Request → Except Failure Output
  | .run x y =>
    (valueOf none (addNumbers.call ⟨0, by decide⟩ a (.cons x (.cons y .nil)) target).1).map
      .number
  | .call method x y =>
    let context :=
      method ++ "(" ++ toString x.toInt ++ ", " ++ toString y.toInt ++ ") failed"
    (valueOf (some context) (a.invokeTyped .i32 0 [⟨.i32, x⟩, ⟨.i32, y⟩] target).1).map .number
  | .inspect _ =>
    match report fingerprint a.blueprint source stats with
    | .error e => .error ⟨none, .panic e.message⟩
    | .ok ls => .ok (.lines ls)

/-- The context of a build for a request. -/
def buildContext : Request → Option String
  | .run .. => some "cannot adapt Target to AddNumbers"
  | _ => none

/-- **A request performed.** -/
def perform (fingerprint : Interface → UInt64) (r : Registry) (request : Request) :
    Except Failure Output × Registry :=
  match r.view fingerprint request.interface source 0 with
  | (.error e, after) => (.error ⟨buildContext request, .build e⟩, after)
  | (.ok a, after) => (answer fingerprint after.stats a request, after)

/-- Requests performed one after the other. -/
def performAll (fingerprint : Interface → UInt64) (r : Registry) :
    List Request → List (Except Failure Output) × Registry
  | [] => ([], r)
  | request :: rest =>
    let (first, after) := perform fingerprint r request
    let (others, last) := performAll fingerprint after rest
    (first :: others, last)

end Structural.Demo
