import Structural.Data
import Structural.Text.Numeral
import Structural.Toml.Lexical

/-!
# Numbers of a TOML document

Integers of 64 bits in base ten with a sign, or in base 16, 8 or 2 without one; floating-point
numbers, of which only the kind is kept. An underscore may stand between two digits. A number in
base ten other than zero starts with no zero.

* `integer` / `float` -- the two kinds, tried by `number`;
* `overflows` -- whether a decimal rounds to infinity in 64 bits. Such a number is refused where it
  is positive.
-/

namespace Structural.Toml

/-! ## 1. Digits -/

/-- The value of a digit in a base up to 16. -/
def digitIn? (base : Nat) (c : Char) : Option Nat :=
  (hexDigit? c).filter (· < base)

/-- Digits, each with at most one underscore before it, and the rest. -/
def moreDigits (base : Nat) : List Char → List Nat × List Char
  | '_' :: c :: rest =>
    match digitIn? base c with
    | some d => let (ds, after) := moreDigits base rest; (d :: ds, after)
    | none => ([], '_' :: c :: rest)
  | c :: rest =>
    match digitIn? base c with
    | some d => let (ds, after) := moreDigits base rest; (d :: ds, after)
    | none => ([], c :: rest)
  | [] => ([], [])

/-- One or more digits with single underscores between them. -/
def digits (base : Nat) : Reader (List Nat)
  | [] => none
  | c :: rest =>
    (digitIn? base c).map fun d => let (ds, after) := moreDigits base rest; (d :: ds, after)

/-- The number that digits write. -/
def valueOf (base : Nat) (ds : List Nat) : Nat :=
  ds.foldl (fun n d => n * base + d) 0

/-- The digits of an integer in base ten: a zero alone, or digits of which the first is none. -/
def wholeDigits : Reader (List Nat)
  | '0' :: rest => some ([0], rest)
  | cs => digits 10 cs

/-- A sign that may be missing: whether it is a minus. -/
def sign : List Char → Bool × List Char
  | '+' :: rest => (false, rest)
  | '-' :: rest => (true, rest)
  | cs => (false, cs)

/-! ## 2. Integers -/

/-- An integer if 64 bits hold it. -/
def bounded (n : Int) : Option Data :=
  if Text.IntRange.signed64.contains n then some (.int n) else none

/-- An integer in a base, after the letters that say which. -/
def based (base : Nat) (cs : List Char) : Option (Data × List Char) :=
  (digits base cs).bind fun (ds, rest) => (bounded (valueOf base ds)).map (·, rest)

/-- **An integer.** -/
def integer : Reader Data
  | '0' :: 'x' :: rest => based 16 rest
  | '0' :: 'o' :: rest => based 8 rest
  | '0' :: 'b' :: rest => based 2 rest
  | cs =>
    let (negative, rest) := sign cs
    (wholeDigits rest).bind fun (ds, rest) =>
      let n : Int := valueOf 10 ds
      (bounded (if negative then -n else n)).map (·, rest)

/-! ## 3. Floating-point numbers -/

/-- The least number that rounds to infinity, half a step past the greatest one of 64 bits. -/
def firstInfinite : Nat := Nat.pow 2 1024 - Nat.pow 2 970

/-- Whether `m * 10 ^ e` rounds to infinity. Far from the bound the number of digits decides. -/
def overflows (m : Nat) (e : Int) : Bool :=
  let size := (Nat.toDigits 10 m).length + e
  if m = 0 ∨ size < 300 then false
  else if 320 < size then true
  else if 0 ≤ e then firstInfinite ≤ m * Nat.pow 10 e.toNat
  else firstInfinite * Nat.pow 10 (-e).toNat ≤ m

/-- The digits after the point, or none. -/
def fraction : List Char → Option (List Nat × List Char)
  | '.' :: rest => digits 10 rest
  | cs => some ([], cs)

/-- An exponent after its letter. -/
def exponentAfter (cs : List Char) : Option (Int × List Char) :=
  let (negative, rest) := sign cs
  (digits 10 rest).map fun (ds, rest) =>
    let n : Int := valueOf 10 ds
    (if negative then -n else n, rest)

/-- The exponent, or zero. -/
def exponent : List Char → Option (Int × List Char)
  | 'e' :: rest => exponentAfter rest
  | 'E' :: rest => exponentAfter rest
  | cs => some (0, cs)

/-- **A floating-point number**: at least a fraction or an exponent after the digits, or a word for
    infinity or for no number. -/
def float (cs : List Char) : Option (Data × List Char) :=
  let (negative, rest) := sign cs
  match rest with
  | 'i' :: 'n' :: 'f' :: rest => some (.float, rest)
  | 'n' :: 'a' :: 'n' :: rest => some (.float, rest)
  | _ =>
    (wholeDigits rest).bind fun (whole, marked) =>
      (fraction marked).bind fun (part, rest) =>
        (exponent rest).bind fun (e, rest) =>
          if rest.length = marked.length then none
          else if !negative && overflows (valueOf 10 (whole ++ part)) (e - part.length) then none
          else some (.float, rest)

/-- **A number.** -/
def number (cs : List Char) : Option (Data × List Char) :=
  match float cs with
  | some r => some r
  | none => integer cs

end Structural.Toml
