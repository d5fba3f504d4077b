import Structural.Facade
import Structural.Samples.Bodies

/-!
# Sample sources and facades

* `Receiver.published?` -- the description that a sample receiver gives of itself; some give none;
* `ofBodies?` -- a description of a receiver made by hand from sample bodies;
* `facades` -- the sample facades.
-/

namespace Structural.Samples

/-! ## 1. Sources -/

/-- The argument types of a wide join. -/
def joinParams : List Ty :=
  [.i8, .u8, .i16, .u16, .i32, .u32, .i64, .u64]

/-- The arguments of a wide join as text. -/
def joinText : Args joinParams → String
  | .cons a (.cons b (.cons c (.cons d (.cons e (.cons f (.cons g (.cons h .nil))))))) =>
    ",".intercalate
      [shown .i8 a, shown .u8 b, shown .i16 c, shown .u16 d, shown .i32 e, shown .u32 f,
       shown .i64 g, shown .u64 h]

/-- What a target publishes. -/
def targetMethods : List (Method Receiver.target.ty) :=
  [.combining "add" .i32 fun (x y : BitVec 32) => x + y,
   .combining "mul" .i32 fun (x y : BitVec 32) => x * y,
   ⟨"div", [.i32, .i32], .i32,
     .tryArgs fun | .cons x (.cons y .nil) => (quotient x y).mapError raiseDivideByZero⟩,
   ⟨"explode", [], .unit, .panics fun _ => "explode called"⟩]

/-- What an overloaded receiver publishes: three methods of one name. -/
def overloadedMethods : List (Method Receiver.overloaded.ty) :=
  [.combining "add" .i32 fun (x y : BitVec 32) => x + y,
   .combining "add" .i32 fun (x y : BitVec 32) => (x + y) * 2,
   .combining "add" .i64 fun (x y : BitVec 64) => x + y]

/-- What an accumulator publishes. -/
def accMethods : List (Method Receiver.acc.ty) :=
  [⟨"push", [.i64], .i64,
     .plain fun
       | x, .cons amount .nil => let (total, after) := Receiver.acc.bump amount x; (.done total, after)⟩,
   ⟨"total", [], .i64, .plain fun x _ => (.done (Receiver.acc.state x), x)⟩]

/-- What a host publishes. -/
def hostMethods : List (Method Receiver.host.ty) :=
  [⟨"greet", [.string], .string,
     .plain fun | (greeting : String), .cons name .nil => (.done (greeting ++ ", " ++ name), greeting)⟩,
   ⟨"reset", [], .unit, .ofArgs fun _ => ()⟩]

/-- What a wide receiver publishes. -/
def wideMethods : List (Method Receiver.wide.ty) :=
  [⟨"join", joinParams, .string, .ofArgs joinText⟩,
   ⟨"parse", [.string], .i32,
     .tryArgs fun | .cons s .nil => (parseInt s).mapError raiseParseInt⟩,
   ⟨"add", [.i32, .i32], .i64,
     .ofArgs fun | .cons x (.cons y .nil) => BitVec.ofInt 64 (x.toInt + y.toInt)⟩]

/-- **The description that a receiver gives of itself.** -/
def Receiver.published? : Receiver → Option Source
  | .target => some ⟨_, targetMethods⟩
  | .overloaded => some ⟨_, overloadedMethods⟩
  | .acc => some ⟨_, accMethods⟩
  | .host => some ⟨_, hostMethods⟩
  | .empty => some ⟨Receiver.empty.ty, []⟩
  | .wide => some ⟨_, wideMethods⟩
  | _ => none

/-- A description of a receiver by hand: named bodies, in order. -/
def ofBodies? (r : Receiver) (bodies : List (String × SampleBody)) : Option Source :=
  (bodies.mapM fun (b : String × SampleBody) => b.2.method? r b.1).map fun methods => ⟨r.ty, methods⟩

/-! ## 2. Facades -/

/-- A facade from the names, argument types and result types of its methods. -/
def facade (name : String) (methods : List (String × List Ty × Option Ty)) : Facade :=
  ⟨name, methods.map fun m => ⟨m.1, m.2.1, m.2.2⟩⟩

/-- Two numbers taken and one returned. -/
def binary (name : String) : String × List Ty × Option Ty :=
  (name, [.i32, .i32], some .i32)

/-- **The sample facades.** -/
def facades : List Facade :=
  [facade "AddNumbers" [binary "add"],
   facade "MulNumbers" [binary "mul"],
   facade "Divide" [binary "div"],
   facade "Calc" [binary "div", binary "add", binary "mul"],
   facade "FooBar" [("foo", [], none), ("bar", [], none)],
   facade "Explode" [("explode", [], none)],
   facade "Counter" [("push", [.i64], some .i64), ("total", [], some .i64)],
   facade "Nothing" [],
   facade "WideAdd" [("add", [.i32, .i32], some .i64)],
   facade "LongAdd" [("add", [.i64, .i64], some .i64)],
   facade "Secret" [("secret", [], some .i32)],
   facade "Greeter" [("greet", [.string], some .string), ("reset", [], none)],
   facade "Joiner" [("join", joinParams, some .string)],
   facade "Parser" [("parse", [.string], some .i32)]]

/-- The sample facade with a name. -/
def facade? (name : String) : Option Facade :=
  facades.find? (·.name = name)

end Structural.Samples
