import Structural.Publish.Options
import Structural.Publish.TypeExpr

/-!
# Publishing a block of methods

A block declares methods on a type. Its attribute publishes those that can be called through an
adapter, and the attributes of single methods take some out or rename them.

* `Declaration` -- a method as it is declared, as far as publishing looks at it;
* `Declaration.isPublished` -- public, on a shared receiver, neither generic nor asynchronous nor
  unsafe;
* `Declaration.register` -- what one method contributes: nothing, a registration or a refusal. The
  options are read of every method, published or not; arguments and result are looked at only of
  the published ones;
* `registrations` -- the contributions of all items in order, up to the first refusal;
* `Block.publish` -- **the publication of a block**. The attribute of the block is read first.
-/

namespace Structural.Publish

/-! ## 1. Declarations -/

/-- Who may use a method. -/
inductive Visibility where
  | inherited
  | restricted
  | everyone
deriving DecidableEq, Repr

/-- The visibility that tokens write. -/
def Visibility.ofTokens : List Token → Visibility
  | [] => .inherited
  | [.name "pub"] => .everyone
  | _ => .restricted

/-- The receiver of a method. -/
structure Receiver where
  /-- Whether it is written as a reference. -/
  reference : Bool
  mutable : Bool
  /-- Whether its type is written out. -/
  typed : Bool
deriving DecidableEq, Repr

namespace Receiver

/-- Whether a receiver is a shared reference. -/
def isShared (r : Receiver) : Bool :=
  r.reference && !r.mutable && !r.typed

/-- The receiver that tokens write. -/
def ofTokens (tokens : List Token) : Receiver where
  reference := tokens.head? = some (.sign "&")
  mutable := (tokens.takeWhile (· ≠ .name "self")).contains (.name "mut")
  typed := (tokens.dropWhile (· ≠ .name "self")).contains (.sign ":")

end Receiver

/-- What an attribute of a method holds. -/
inductive AttributeRest where
  | nothing
  /-- An equals sign and a text. -/
  | text (value : String)
  /-- Clauses between parentheses. -/
  | clauses (clauses : List Clause)
deriving DecidableEq, Repr

/-- An attribute of a method. -/
structure Attribute where
  path : String
  rest : AttributeRest
deriving DecidableEq, Repr

namespace Attribute

/-- Whether an attribute holds options of publishing. -/
def isOption (a : Attribute) : Bool :=
  Token.ofSource a.path = [.name "reflect"]

/-- The options with those of one more attribute. -/
def read (o : MethodOptions) (a : Attribute) : Except Refusal MethodOptions :=
  match a.rest with
  | .nothing => .error .bareAttribute
  | .text _ => .error .attributeValue
  | .clauses cs => o.read (clauseTokens cs)

end Attribute

/-- **A method as it is declared.** -/
structure Declaration where
  name : String
  visibility : Visibility
  isAsync : Bool
  isUnsafe : Bool
  /-- The generic parameters. -/
  generics : List String
  receiver? : Option Receiver
  /-- The types of the arguments after the receiver. -/
  params : List TypeExpr
  /-- The type of the result, if one is written. -/
  result? : Option TypeExpr
  attributes : List Attribute

/-- A method under the name it is published by. -/
structure Registration where
  /-- Whether an error of the method reaches the caller as raised. -/
  fallible : Bool
  published : String
  method : String
deriving DecidableEq, Repr

namespace Declaration

/-- The attributes that hold options of publishing. -/
def optionAttributes (d : Declaration) : List Attribute :=
  d.attributes.filter Attribute.isOption

/-- The attributes that are left. -/
def otherAttributes (d : Declaration) : List Attribute :=
  d.attributes.filter fun a => !a.isOption

/-- **The options of a method**, from its attributes in order. -/
def options (d : Declaration) : Except Refusal MethodOptions :=
  d.optionAttributes.foldlM Attribute.read .unset

/-- **Whether a method is published**, if its options do not say otherwise. -/
def isPublished (d : Declaration) : Bool :=
  d.visibility = .everyone && d.generics.isEmpty && !d.isAsync && !d.isUnsafe
    && d.receiver?.any Receiver.isShared

/-- Why the types of a method keep it from being called through an adapter. Arguments count before
    the result. -/
def borrowed? (d : Declaration) : Option Refusal :=
  if d.params.any TypeExpr.borrows then some .borrowedArgument
  else if d.result?.any TypeExpr.borrows then some .borrowedResult
  else none

/-- Whether a method is a fallible one. -/
def fallible (d : Declaration) : Except Refusal Bool :=
  match d.result? with
  | none => .ok false
  | some t =>
    match t.fallible? with
    | none => .error .noErrorType
    | some b => .ok b

/-- The registration of a method that is published, under a new name if it has one. -/
def registration (d : Declaration) (rename? : Option String) : Except Refusal Registration :=
  match d.borrowed? with
  | some refusal => .error refusal
  | none => d.fallible.map fun b => ⟨b, rename?.getD d.name, d.name⟩

/-- **What a method contributes.** -/
def register (d : Declaration) : Except Refusal (Option Registration) :=
  d.options.bind fun o =>
    if o.skip || !d.isPublished then .ok none
    else (d.registration o.rename?).map some

end Declaration

/-! ## 2. Blocks -/

/-- **An item of a block.** Only methods matter. -/
inductive Item where
  | method (d : Declaration)
  | other

namespace Item

/-- What an item contributes. -/
def register : Item → Except Refusal (Option Registration)
  | method d => d.register
  | other => .ok none

/-- The name of a method and the paths of the attributes that it keeps. -/
def kept? : Item → Option (String × List String)
  | method d => some (d.name, d.otherAttributes.map Attribute.path)
  | other => none

end Item

/-- **What items contribute**, in order, up to the first refusal. -/
def registrations : List Item → Except Refusal (List Registration)
  | [] => .ok []
  | item :: rest =>
    item.register.bind fun r => (registrations rest).map fun rs => r.toList ++ rs

/-- No items, no registrations. -/
theorem registrations_nil : registrations [] = .ok [] := rfl

/-- Items that are no methods do not matter. -/
theorem registrations_other (rest : List Item) :
    registrations (.other :: rest) = registrations rest := by
  simp only [registrations, Item.register, Except.bind]
  cases registrations rest <;> rfl

/-- **A block of methods.** -/
structure Block where
  /-- The trait that the block implements, if it does. -/
  trait? : Option (List Segment)
  generics : List String
  self : TypeExpr
  items : List Item

/-- **What becomes of a block**: the path of what it needs, its registrations, and its items
    without the options. -/
structure Publication where
  home : List Token
  registrations : List Registration
  kept : List (Option (String × List String))
deriving DecidableEq, Repr

namespace Publication

/-- The home as it is written, without blanks. -/
def homeText (p : Publication) : String :=
  String.join (p.home.map Token.source)

/-- What the type is made an instance of. -/
def reflectPath (p : Publication) : String :=
  p.homeText ++ "::Reflect"

/-- The type of what registers the methods. -/
def builderType (p : Publication) : String :=
  "&mut" ++ p.homeText ++ "::TypeBuilder<Self>"

end Publication

/-- **The publication of a block** under an attribute with clauses. -/
def Block.publish (b : Block) (clauses : List Clause) : Except Refusal Publication :=
  (homePath (clauseTokens clauses)).bind fun home =>
    if b.trait?.isSome then .error .traitBlock
    else if !b.generics.isEmpty then .error .genericBlock
    else (registrations b.items).map fun rs => ⟨home, rs, b.items.map Item.kept?⟩

end Structural.Publish
