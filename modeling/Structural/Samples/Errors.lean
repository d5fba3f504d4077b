import Structural.Fault
import Structural.Text.Numeral

/-!
# Sample errors

The errors that the sample methods raise, each with its type, its sentence and the way it is
built.
-/

namespace Structural.Samples

/-- The module path of the sample types. -/
def path : String := "oracle::fx::"

/-- A nominal type of the samples. -/
def nominal (name : String) (repr : Ty) : Ty :=
  .nominal (path ++ name) repr

/-- The type of division errors: the dividend. -/
def divideByZero : Ty := nominal "DivideByZero" .i32

/-- The type of the errors that carry a code. -/
def boom : Ty := nominal "Boom" .u8

/-- The type of overflow errors. -/
def overflow : Ty := nominal "Overflow" .unit

/-- The type of the errors of reading a number: the kind of error. -/
def parseIntError : Ty := .nominal "core::num::error::ParseIntError" .string

/-- A division by zero. -/
def raiseDivideByZero (dividend : BitVec 32) : Raised where
  payload := ⟨divideByZero, dividend⟩
  message := "division of " ++ toString dividend.toInt ++ " by zero"
  outline := Text.applied "DivideByZero" (toString dividend.toInt)

/-- An error with a code. -/
def raiseBoom (code : BitVec 8) : Raised where
  payload := ⟨boom, code⟩
  message := "boom " ++ toString code.toNat
  outline := Text.applied "Boom" (toString code.toNat)

/-- A sum that leaves its range. -/
def raiseOverflow : Raised where
  payload := ⟨overflow, ()⟩
  message := "integer overflow"
  outline := "Overflow"

/-- A text that is no number. -/
def raiseParseInt (e : Text.NumeralError) : Raised where
  payload := ⟨parseIntError, e.kind⟩
  message := e.message
  outline := Text.record "ParseIntError" [("kind", e.kind)]

/-- An integer of 32 bits read from a text. -/
def parseInt (s : String) : Except Text.NumeralError (BitVec 32) :=
  (Text.readInt .signed32 s.toList).map (BitVec.ofInt 32)

end Structural.Samples
