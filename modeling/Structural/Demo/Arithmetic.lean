import Structural.Facade

/-!
# The demonstration target

A type without content that publishes arithmetic on numbers of 32 bits.

* `add`, `sub` -- wrapping;
* `mul`, `div` -- fallible: they raise `ArithmeticError` where the result has more than 32 bits or
  the divisor is zero.

`addNumbers` is the facade that the target is adapted to.
-/

namespace Structural.Demo

/-- Why two numbers cannot be combined. -/
inductive ArithmeticError where
  | divisionByZero
  | overflow
deriving DecidableEq, Repr

namespace ArithmeticError

/-- The sentence that reports the error. -/
def message : ArithmeticError → String
  | divisionByZero => "division by zero"
  | overflow => "integer overflow"

/-- The name of the error. -/
def name : ArithmeticError → String
  | divisionByZero => "DivisionByZero"
  | overflow => "Overflow"

/-- The type of the error, its values told apart by name. -/
def ty : Ty := .nominal "demo::ArithmeticError" .string

/-- The error as one that a method raises. -/
def raised (e : ArithmeticError) : Raised where
  payload := ⟨ty, e.name⟩
  message := e.message
  outline := e.name

end ArithmeticError

/-- The product of two numbers of 32 bits, if it has no more. -/
def product (x y : BitVec 32) : Except ArithmeticError (BitVec 32) :=
  if x.smulOverflow y then .error .overflow else .ok (x * y)

/-- The quotient of two numbers of 32 bits, toward zero. Only that of the least number by -1 has
    more bits. -/
def quotient (x y : BitVec 32) : Except ArithmeticError (BitVec 32) :=
  if y = 0 then .error .divisionByZero
  else if x = BitVec.intMin 32 ∧ y = -1 then .error .overflow
  else .ok (x.sdiv y)

/-- The type of the target. -/
def targetTy : Ty := .nominal "demo::Target" .unit

/-- The target itself. -/
def target : Object := ⟨targetTy, ()⟩

/-- **What the target publishes.** -/
def source : Source where
  ty := targetTy
  methods :=
    [.combining "add" .i32 fun (x y : BitVec 32) => x + y,
     .combining "sub" .i32 fun (x y : BitVec 32) => x - y,
     .tryCombining "mul" .i32 fun x y => (product x y).mapError ArithmeticError.raised,
     .tryCombining "div" .i32 fun x y => (quotient x y).mapError ArithmeticError.raised]

/-- The facade of things that add two numbers. -/
def addNumbers : Facade :=
  ⟨"AddNumbers", [⟨"add", [.i32, .i32], some .i32⟩]⟩

end Structural.Demo
