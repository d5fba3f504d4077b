import Structural.Interface

/-!
# Fingerprints of interfaces

A fingerprint is a number of 64 bits computed from the name of an interface and its signatures,
return types included. Equal interfaces have equal fingerprints; the converse does not hold.

* `mix` -- one step: the number so far is rotated by five, combined with a word, and multiplied by
  a fixed odd number;
* `byteWords` -- a text of bytes as words: eight bytes at a time, then four, two and one, each read
  with its lowest byte first;
* `Interface.words` -- all that a fingerprint depends on, as one list of words. Types enter through
  a function `hash` that is a parameter: nothing is assumed of it;
* `Interface.fingerprint` -- the fold of `mix` over these words;
* `Ty.digest` -- the hash of a type by its full name, the one the command line uses.
-/

namespace Structural

namespace Fingerprint

/-- The number that multiplies in each step. -/
def multiplier : UInt64 := 0x517cc1b727220a95

/-- A word rotated to the left by five places. -/
def rotate (h : UInt64) : UInt64 :=
  (h <<< 5) ||| (h >>> 59)

/-- **One word added to a fingerprint.** -/
def mix (h w : UInt64) : UInt64 :=
  (rotate h ^^^ w) * multiplier

/-- The number that bytes stand for, lowest byte first. -/
def littleEndian : List UInt8 → UInt64
  | [] => 0
  | b :: rest => b.toUInt64 ||| (littleEndian rest <<< 8)

/-- What is left of at most one byte, as words. -/
def words1 (bytes : List UInt8) : List UInt64 :=
  bytes.map UInt8.toUInt64

/-- What is left of at most three bytes, as words. -/
def words2 : List UInt8 → List UInt64
  | b0 :: b1 :: rest => littleEndian [b0, b1] :: words1 rest
  | rest => words1 rest

/-- What is left of at most seven bytes, as words. -/
def words4 : List UInt8 → List UInt64
  | b0 :: b1 :: b2 :: b3 :: rest => littleEndian [b0, b1, b2, b3] :: words2 rest
  | rest => words2 rest

/-- **Bytes as words**: eight at a time, then four, two and one. -/
def byteWords : List UInt8 → List UInt64
  | b0 :: b1 :: b2 :: b3 :: b4 :: b5 :: b6 :: b7 :: rest =>
    littleEndian [b0, b1, b2, b3, b4, b5, b6, b7] :: byteWords rest
  | rest => words4 rest

/-- The words of a text: those of its bytes, and a mark that ends it. -/
def textWords (s : String) : List UInt64 :=
  byteWords s.toUTF8.data.toList ++ [0xff]

/-- The words of a signature: name, number of arguments, their types, the type of the result. -/
def signatureWords (hash : Ty → UInt64) (s : Signature) : List UInt64 :=
  textWords s.name ++ UInt64.ofNat s.params.length :: s.params.map hash ++ [hash s.result]

end Fingerprint

open Fingerprint in
/-- The hash of a type by its full name. -/
def Ty.digest (t : Ty) : UInt64 :=
  (textWords t.fullName).foldl mix 0

namespace Interface

open Fingerprint

/-- All that the fingerprint of an interface depends on. -/
def words (hash : Ty → UInt64) (i : Interface) : List UInt64 :=
  textWords i.name ++ UInt64.ofNat i.methods.length :: i.methods.flatMap (signatureWords hash)

/-- **The fingerprint of an interface**, for a given hash of types. -/
def fingerprint (hash : Ty → UInt64) (i : Interface) : UInt64 :=
  (i.words hash).foldl mix 0

/-- Interfaces with the same words have the same fingerprint. -/
theorem fingerprint_congr {hash : Ty → UInt64} {i j : Interface} (h : i.words hash = j.words hash) :
    i.fingerprint hash = j.fingerprint hash := by
  simp [fingerprint, h]

end Interface

end Structural
