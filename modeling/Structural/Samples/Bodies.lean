import Structural.Samples.Receiver

/-!
# Sample bodies

Methods that any sample receiver can publish under any name. A body fixes the signature.

* `SampleBody` -- the bodies;
* `SampleBody.method?` -- **the method of a receiver with a body**, under a name. There is none
  where a body needs a sample or a text of a type that has no such thing.
-/

namespace Structural.Samples

/-- **The sample bodies.** -/
inductive SampleBody where
  /-- Returns its argument. -/
  | echo (t : Ty)
  /-- Takes an argument and returns nothing. -/
  | drop (t : Ty)
  /-- Returns the sample of a type. -/
  | sample (t : Ty)
  /-- Two arguments as text, joined. -/
  | pair (a b : Ty)
  | add
  | sub
  /-- The exact sum. -/
  | add64
  /-- The quotient, or an error raised. -/
  | div
  /-- The quotient or the error, as a value. -/
  | rawDiv
  | parse
  /-- Always raises. -/
  | fail
  /-- Always panics. -/
  | explode
  | state
  | bump
  | mix8
  /-- The wrapping sum of `n` numbers. -/
  | sum (n : Nat)
  /-- The sum of `n` numbers, or an error raised as soon as it leaves its range. -/
  | trySum (n : Nat)
  /-- `n` texts joined. -/
  | cat (n : Nat)
deriving DecidableEq, Repr

/-- The quotient of two numbers of 32 bits, toward zero and wrapping; the dividend if the divisor
    is zero. -/
def quotient (x y : BitVec 32) : Except (BitVec 32) (BitVec 32) :=
  if y = 0 then .error x else .ok (x.sdiv y)

/-- The sum of numbers from the left, as long as it stays in its range. -/
def checkedSum : BitVec 64 → List (BitVec 64) → Option (BitVec 64)
  | total, [] => some total
  | total, x :: rest => if total.saddOverflow x then none else checkedSum (total + x) rest

/-- A plain value as text, the empty text for others. -/
def shown (t : Ty) (x : t.Carrier) : String :=
  (t.display? x).getD ""

/-- The types whose values a pair joins. -/
def joinable : List Ty := [.i32, .i64, .u8, .string]

/-- The text of a list of numbers. -/
def numbersText (xs : List (BitVec 32)) : String :=
  Text.sequence (xs.map fun x => toString x.toInt)

/-- The argument types of the widest body. -/
def mix8Params : List Ty :=
  [.i8, .u8, .i16, .string, .bool, .char, .unit, .vec .i32]

/-- The arguments of the widest body as text. -/
def mix8Text : Args mix8Params → String
  | .cons a (.cons b (.cons c (.cons d (.cons e (.cons f (.cons _ (.cons h .nil))))))) =>
    " ".intercalate
      [shown .i8 a, shown .u8 b, shown .i16 c, shown .string d, shown .bool e, shown .char f,
       "()", numbersText h]

namespace SampleBody

/-- **The method of a receiver with a body.** -/
def method? (r : Receiver) (name : String) : SampleBody → Option (Method r.ty)
  | echo t => some ⟨name, [t], t, .ofArgs fun | .cons x .nil => x⟩
  | drop t => some ⟨name, [t], .unit, .ofArgs fun _ => ()⟩
  | sample t => t.sample?.map fun x => ⟨name, [], t, .ofArgs fun _ => x⟩
  | pair a b =>
    if a ∈ joinable ∧ b ∈ joinable then
      some ⟨name, [a, b], .string,
        .ofArgs fun | .cons x (.cons y .nil) => shown a x ++ "&" ++ shown b y⟩
    else none
  | add => some ⟨name, [.i32, .i32], .i32, .ofArgs fun | .cons x (.cons y .nil) => x + y⟩
  | sub => some ⟨name, [.i32, .i32], .i32, .ofArgs fun | .cons x (.cons y .nil) => x - y⟩
  | add64 =>
    some ⟨name, [.i32, .i32], .i64,
      .ofArgs fun | .cons x (.cons y .nil) => BitVec.ofInt 64 (x.toInt + y.toInt)⟩
  | div =>
    some ⟨name, [.i32, .i32], .i32,
      .tryArgs fun | .cons x (.cons y .nil) => (quotient x y).mapError raiseDivideByZero⟩
  | rawDiv =>
    some ⟨name, [.i32, .i32], .result .i32 divideByZero,
      .ofArgs fun | .cons x (.cons y .nil) => quotient x y⟩
  | parse =>
    some ⟨name, [.string], .i32,
      .tryArgs fun | .cons s .nil => (parseInt s).mapError raiseParseInt⟩
  | fail => some ⟨name, [.u8], .unit, .tryArgs fun | .cons code .nil => .error (raiseBoom code)⟩
  | explode => some ⟨name, [.string], .unit, .panics fun | .cons s .nil => "explode: " ++ s⟩
  | state => some ⟨name, [], .i64, .plain fun x _ => (.done (r.state x), x)⟩
  | bump =>
    some ⟨name, [.i64], .i64,
      .plain fun
        | x, .cons amount .nil => let (total, after) := r.bump amount x; (.done total, after)⟩
  | mix8 => some ⟨name, mix8Params, .string, .ofArgs mix8Text⟩
  | sum n =>
    some ⟨name, List.replicate n .i64, .i64, .ofArgs fun args => (args.uniform n).foldl (· + ·) 0⟩
  | trySum n =>
    some ⟨name, List.replicate n .i64, .i64,
      .tryArgs fun args =>
        match checkedSum 0 (args.uniform n) with
        | some total => .ok total
        | none => .error raiseOverflow⟩
  | cat n =>
    some ⟨name, List.replicate n .string, .string,
      .ofArgs fun args => "|".intercalate (args.uniform n)⟩

end SampleBody

end Structural.Samples
