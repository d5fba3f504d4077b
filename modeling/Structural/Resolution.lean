import Structural.Config
import Structural.Error
import Structural.Interface
import Structural.Source

/-!
# Resolution

For every slot of an interface, the method of a source that the slot forwards to: the one with the
same shape. Result types play no part here.

* `NameIndex` -- the indices of the published methods filed by name, each list in order of
  registration, so that a slot only looks at the methods of its own name;
* `candidates` -- the indices of the methods that fit one slot, in order of registration;
* `choose` -- the candidate that a slot is bound to, or why there is none;
* `Binding`, `Table` -- a slot with the index it is bound to, and these for all slots in order;
* `scan` -- the slots from the first on, up to the first one that cannot be bound;
* `resolve` -- **the table of an interface over a source**: all slots are bound, or none is.
-/

namespace Structural

/-! ## 1. Methods filed by name -/

/-- Indices of methods filed by name. -/
abbrev NameIndex := List (String × List Nat)

namespace NameIndex

/-- One more index at the end of a name's list. -/
def file : NameIndex → String → Nat → NameIndex
  | [], name, k => [(name, [k])]
  | (n, ks) :: rest, name, k =>
    if n = name then (n, ks ++ [k]) :: rest else (n, ks) :: file rest name k

/-- The indices filed under a name. -/
def find : NameIndex → String → List Nat
  | [], _ => []
  | (n, ks) :: rest, name => if n = name then ks else find rest name

/-- The index of a list of signatures, the first of them at `start`. -/
def extend (index : NameIndex) (start : Nat) : List Signature → NameIndex
  | [] => index
  | s :: rest => extend (index.file s.name start) (start + 1) rest

/-- The index of a list of signatures. -/
def ofSignatures (signatures : List Signature) : NameIndex :=
  extend [] 0 signatures

/-- Filing an index changes the list of its own name only. -/
theorem find_file : ∀ (index : NameIndex) (name other : String) (k : Nat),
    (index.file name k).find other =
      if other = name then index.find name ++ [k] else index.find other
  | [], name, other, k => by
      by_cases h : other = name
      · simp [file, find, h]
      · simp [file, find, h, Ne.symm h]
  | (n, ks) :: rest, name, other, k => by
      by_cases hn : n = name
      · subst hn
        by_cases h : other = n
        · simp [file, find, h]
        · simp [file, find, h, Ne.symm h]
      · by_cases h : other = name
        · subst h
          simp [file, find, hn, find_file rest other other k]
        · by_cases hno : n = other
          · subst hno
            simp [file, find, h]
          · simp [file, find, hn, hno, h, find_file rest name other k]

end NameIndex

/-! ## 2. Candidates of a slot -/

/-- Whether the method at an index has a shape. -/
def fitsAt (signatures : List Signature) (shape : Shape) (k : Nat) : Bool :=
  match signatures[k]? with
  | some s => s.accepts shape
  | none => false

/-- **The methods that fit a shape**, by index, in order of registration. -/
def candidates (index : NameIndex) (signatures : List Signature) (shape : Shape) : List Nat :=
  (index.find shape.name).filter (fitsAt signatures shape)

/-- **The method that a slot is bound to.** -/
def choose (policy : Ambiguity) (source : String) (shape : Shape) :
    List Nat → Except MatchError Nat
  | [] => .error (.noMatch shape source)
  | [only] => .ok only
  | first :: _ :: rest =>
    match policy with
    | .firstMatch => .ok first
    | .reject => .error (.ambiguous shape source (rest.length + 2))

/-! ## 3. Tables -/

/-- A slot and the index of the method it is bound to. -/
structure Binding where
  slot : Nat
  index : Nat
deriving DecidableEq, Repr

/-- The bindings of an interface, in slot order. -/
abbrev Table := List Binding

/-- The slots bound before the first that cannot be, and why that one cannot. -/
structure Scan where
  bound : Table
  failure : Option MatchError

/-- The slots of an interface bound in order, the first of them being `slot`. -/
def scanFrom (policy : Ambiguity) (source : Source) (index : NameIndex) (slot : Nat) :
    List Signature → Scan
  | [] => ⟨[], none⟩
  | wanted :: rest =>
    match choose policy source.name wanted.shape
        (candidates index source.signatures wanted.shape) with
    | .error e => ⟨[], some e⟩
    | .ok k =>
      let after := scanFrom policy source index (slot + 1) rest
      ⟨⟨slot, k⟩ :: after.bound, after.failure⟩

/-- The slots of an interface bound over a source, up to the first that cannot be. -/
def scan (policy : Ambiguity) (interface : Interface) (source : Source) : Scan :=
  scanFrom policy source (NameIndex.ofSignatures source.signatures) 0 interface.methods

/-- **The table of an interface over a source**, or the error of the first slot that cannot be
    bound. -/
def resolve (policy : Ambiguity) (interface : Interface) (source : Source) :
    Except MatchError Table :=
  let result := scan policy interface source
  match result.failure with
  | some e => .error e
  | none => .ok result.bound

/-- An interface without methods fits every source. -/
theorem resolve_nil (policy : Ambiguity) (name : String) (source : Source) :
    resolve policy ⟨name, []⟩ source = .ok [] := rfl

end Structural
