/-!
# Decimal numerals

Reading an integer of a bounded range: an optional sign, then one or more ASCII digits, any number
of leading zeros. A minus sign is a sign only where the range has negative numbers; a sign alone
is no numeral.

* `IntRange` -- the closed range of the integers that are allowed;
* `NumeralError` -- why a text is no numeral of the range;
* `readInt` -- the reader. The digits are read from the left, and the first digit that is none, or
  that leaves the range, decides the error.
-/

namespace Structural.Text

/-- A closed range of integers. -/
structure IntRange where
  lo : Int
  hi : Int
deriving DecidableEq, Repr

namespace IntRange

/-- Integers of 32 bits with a sign. -/
def signed32 : IntRange := ⟨-2147483648, 2147483647⟩

/-- Integers of 64 bits with a sign. -/
def signed64 : IntRange := ⟨-9223372036854775808, 9223372036854775807⟩

/-- Integers of 64 bits without a sign, the sizes. -/
def size : IntRange := ⟨0, 18446744073709551615⟩

/-- Whether an integer is in a range. -/
def contains (range : IntRange) (n : Int) : Bool :=
  range.lo ≤ n && n ≤ range.hi

end IntRange

/-- Why a text is no numeral. -/
inductive NumeralError where
  | empty
  | invalidDigit
  | tooLarge
  | tooSmall
deriving DecidableEq, Repr

namespace NumeralError

/-- The sentence that reports the error. -/
def message : NumeralError → String
  | empty => "cannot parse integer from empty string"
  | invalidDigit => "invalid digit found in string"
  | tooLarge => "number too large to fit in target type"
  | tooSmall => "number too small to fit in target type"

/-- The word that names the error. -/
def kind : NumeralError → String
  | empty => "Empty"
  | invalidDigit => "InvalidDigit"
  | tooLarge => "PosOverflow"
  | tooSmall => "NegOverflow"

end NumeralError

/-- The value of an ASCII digit. -/
def digit? (c : Char) : Option Nat :=
  if '0' ≤ c ∧ c ≤ '9' then some (c.toNat - '0'.toNat) else none

/-- The digits of a numeral read onto a value already read, away from zero on the side of the
    sign. -/
def readDigits (range : IntRange) (negative : Bool) : Int → List Char → Except NumeralError Int
  | value, [] => .ok value
  | value, c :: rest =>
    match digit? c with
    | none => .error .invalidDigit
    | some d =>
      let next := if negative then value * 10 - d else value * 10 + d
      if range.hi < next then .error .tooLarge
      else if next < range.lo then .error .tooSmall
      else readDigits range negative next rest

/-- **The integer that a text writes**, within a range. -/
def readInt (range : IntRange) : List Char → Except NumeralError Int
  | [] => .error .empty
  | ['+'] => .error .invalidDigit
  | ['-'] => .error .invalidDigit
  | '+' :: rest => readDigits range false 0 rest
  | '-' :: rest =>
    if range.lo < 0 then readDigits range true 0 rest else .error .invalidDigit
  | cs => readDigits range false 0 cs

end Structural.Text
