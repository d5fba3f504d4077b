import Structural.Text.ShortName

/-!
# Types

The types that a method can take, return or belong to, each with the Lean type of its values.

* `Width` -- the widths of integer types;
* `Ty` -- the types: the primitive ones, the generic containers, *nominal* types (a full name and
  the type that represents their values) and *foreign* types, of which only the full name is known
  and which have no values here;
* `Ty.Carrier` -- the values of a type. Two different types never share values, since a value
  always comes with its type (`Structural.Value`), also when their carriers are equal;
* `Ty.fullName`, `Ty.shortName` -- the two texts for a type;
* `Ty.sample?` -- one fixed value of a type.
-/

namespace Structural

/-! ## 1. Integer widths -/

/-- The width of an integer type. A word has 64 bits. -/
inductive Width where
  | w8
  | w16
  | w32
  | w64
  | w128
  | word
deriving DecidableEq, Repr

namespace Width

/-- The number of bits of a width. -/
@[reducible] def bits : Width → Nat
  | w8 => 8
  | w16 => 16
  | w32 => 32
  | w64 => 64
  | w128 => 128
  | word => 64

/-- How a width ends the name of an integer type. -/
def suffix : Width → String
  | w8 => "8"
  | w16 => "16"
  | w32 => "32"
  | w64 => "64"
  | w128 => "128"
  | word => "size"

end Width

/-! ## 2. Types and their values -/

/-- **The types.** -/
inductive Ty where
  | unit
  | bool
  | char
  /-- Floating-point numbers of 64 bits, known by their bits alone. -/
  | float
  /-- Owned text. -/
  | string
  /-- Text that lives as long as the program. -/
  | text
  | int (signed : Bool) (width : Width)
  | vec (elem : Ty)
  | option (elem : Ty)
  | box (elem : Ty)
  | pair (fst snd : Ty)
  | result (ok error : Ty)
  /-- A type of its own, with the full name `name`, whose values are represented by those of
      `repr`. -/
  | nominal (name : String) (repr : Ty)
  /-- A type known by its full name only. -/
  | foreign (name : String)
deriving DecidableEq, Repr

namespace Ty

/-- **The values of a type.** -/
@[reducible] def Carrier : Ty → Type
  | unit => Unit
  | bool => Bool
  | char => Char
  | float => BitVec 64
  | string => String
  | text => String
  | int _ width => BitVec width.bits
  | vec elem => List elem.Carrier
  | option elem => Option elem.Carrier
  | box elem => elem.Carrier
  | pair fst snd => fst.Carrier × snd.Carrier
  | result ok error => Except error.Carrier ok.Carrier
  | nominal _ repr => repr.Carrier
  | foreign _ => Empty

@[match_pattern] abbrev i8 : Ty := int true .w8
@[match_pattern] abbrev i16 : Ty := int true .w16
@[match_pattern] abbrev i32 : Ty := int true .w32
@[match_pattern] abbrev i64 : Ty := int true .w64
@[match_pattern] abbrev i128 : Ty := int true .w128
@[match_pattern] abbrev u8 : Ty := int false .w8
@[match_pattern] abbrev u16 : Ty := int false .w16
@[match_pattern] abbrev u32 : Ty := int false .w32
@[match_pattern] abbrev u64 : Ty := int false .w64
@[match_pattern] abbrev u128 : Ty := int false .w128
@[match_pattern] abbrev usize : Ty := int false .word

/-- The unsized text that both kinds of text hold. -/
def str : Ty := foreign "str"

/-! ## 3. Names -/

/-- **The full name of a type**, module paths included. -/
def fullName : Ty → String
  | unit => "()"
  | bool => "bool"
  | char => "char"
  | float => "f64"
  | string => "alloc::string::String"
  | text => "&str"
  | int signed width => (if signed then "i" else "u") ++ width.suffix
  | vec elem => "alloc::vec::Vec<" ++ elem.fullName ++ ">"
  | option elem => "core::option::Option<" ++ elem.fullName ++ ">"
  | box elem => "alloc::boxed::Box<" ++ elem.fullName ++ ">"
  | pair fst snd => "(" ++ fst.fullName ++ ", " ++ snd.fullName ++ ")"
  | result ok error => "core::result::Result<" ++ ok.fullName ++ ", " ++ error.fullName ++ ">"
  | nominal name _ => name
  | foreign name => name

/-- **The name of a type without its module path.** -/
def shortName (t : Ty) : String :=
  Text.shortName t.fullName

/-! ## 4. Numbers and samples -/

/-- The number that the bits of an integer type stand for. -/
def intValue {n : Nat} (signed : Bool) (x : BitVec n) : Int :=
  if signed then x.toInt else x.toNat

/-- One fixed value of a type: a container holds the sample of its element, a result is a success.
    Foreign types have none. -/
def sample? : (t : Ty) → Option t.Carrier
  | unit => some ()
  | bool => some true
  | char => some 'q'
  | float => some 0x3ff8000000000000#64
  | string => some "sample"
  | text => some "static"
  | int _ width => some (BitVec.ofNat width.bits 7)
  | vec elem => elem.sample?.map fun x => [x]
  | option elem => elem.sample?.map some
  | box elem => elem.sample?
  | pair fst snd =>
    match fst.sample?, snd.sample? with
    | some a, some b => some (a, b)
    | _, _ => none
  | result ok _ => ok.sample?.map .ok
  | nominal _ repr => repr.sample?
  | foreign _ => none

/-- A value of a plain type as a user reads it: numbers in decimal, texts and characters as they
    are. The other types have no such form. -/
def display? : (t : Ty) → t.Carrier → Option String
  | int signed _, x => some (toString (intValue signed x))
  | bool, b => some (if b then "true" else "false")
  | char, c => some c.toString
  | string, s => some s
  | text, s => some s
  | _, _ => none

end Ty

end Structural
