import Structural.Fault
import Structural.Signature

/-!
# Methods and thunks

A method of a type, with the types of its arguments and of its result known, and the *thunk* made
from it, which takes any receiver and any list of values and checks them first.

* `Args` -- arguments of given types, in order;
* `Args.read` -- such arguments read from a list of values, one by one;
* `Body` -- what a method does, *plain* or *fallible*; it may change its receiver;
* `Method` -- a named body, with the types it takes and returns;
* `Method.thunk` -- **the thunk of a method**. It checks the receiver, then the number of
  arguments, then the arguments from the left; a call that fails a check leaves the receiver as it
  was.

A method is a function of its own receiver and its own arguments. Bodies that keep something apart
from the receiver, or share something with one another, are not among the methods here.
-/

namespace Structural

/-! ## 1. Arguments -/

/-- **Arguments of given types**, in order. -/
inductive Args : List Ty → Type where
  | nil : Args []
  | cons {t : Ty} {ts : List Ty} (x : t.Carrier) (rest : Args ts) : Args (t :: ts)

namespace Args

/-- The arguments as values. -/
def values : {ts : List Ty} → Args ts → List Value
  | [], .nil => []
  | t :: _, .cons x rest => ⟨t, x⟩ :: rest.values

/-- The arguments of one common type, as a list. -/
def uniform {t : Ty} : (n : Nat) → Args (List.replicate n t) → List t.Carrier
  | 0, _ => []
  | n + 1, .cons x rest => x :: uniform n rest

/-- **Arguments read from values**, the first of them at `index`. -/
def read (index : Nat) : (ts : List Ty) → List Value → Except Fault (Args ts)
  | [], _ => .ok .nil
  | _ :: _, [] => .error (.arity (index + 1) index)
  | t :: ts, v :: vs =>
    match v.downcast t with
    | .error back => .error (.argument index t back.ty)
    | .ok x =>
      match read (index + 1) ts vs with
      | .error f => .error f
      | .ok rest => .ok (.cons x rest)

/-- Arguments turned into values read back as themselves. -/
theorem read_values : ∀ {ts : List Ty} (args : Args ts) (index : Nat),
    read index ts args.values = .ok args
  | [], .nil, _ => rfl
  | _ :: _, .cons _ rest, index => by
      simp [values, read, read_values rest (index + 1)]

/-- There are as many values as argument types. -/
@[simp] theorem length_values : ∀ {ts : List Ty} (args : Args ts), args.values.length = ts.length
  | [], .nil => rfl
  | _ :: _, .cons _ rest => by simp [values, length_values rest]

end Args

/-! ## 2. Bodies -/

/-- How the body of a method ends. -/
inductive Ending (α : Type) where
  | done (a : α)
  | panic (message : String)

/-- A function on a receiver and arguments. It returns how it ends, and the receiver after it. There
    is nothing else that it reads or changes: no state that it captured, and none that it shares. -/
abbrev Effect (owner : Ty) (params : List Ty) (α : Type) : Type :=
  owner.Carrier → Args params → Ending α × owner.Carrier

/-- **What a method does.** A plain body returns the result as it is; a fallible one returns the
    result or an error, which the caller gets as raised. -/
inductive Body (owner : Ty) (params : List Ty) (result : Ty) where
  | plain (run : Effect owner params result.Carrier)
  | fallible (run : Effect owner params (Except Raised result.Carrier))

namespace Body

variable {owner result : Ty} {params : List Ty}

/-- A body run on a receiver of its type and arguments of its types. -/
def run : Body owner params result → owner.Carrier → Args params → Reply Value × owner.Carrier
  | plain f, receiver, args =>
    match f receiver args with
    | (.done x, after) => (.value ⟨result, x⟩, after)
    | (.panic m, after) => (.panic m, after)
  | fallible f, receiver, args =>
    match f receiver args with
    | (.done (.ok x), after) => (.value ⟨result, x⟩, after)
    | (.done (.error e), after) => (.fault (.raised e), after)
    | (.panic m, after) => (.panic m, after)

/-- A body that looks at its arguments only. -/
def ofArgs (f : Args params → result.Carrier) : Body owner params result :=
  plain fun receiver args => (.done (f args), receiver)

/-- A fallible body that looks at its arguments only. -/
def tryArgs (f : Args params → Except Raised result.Carrier) : Body owner params result :=
  fallible fun receiver args => (.done (f args), receiver)

/-- A body that panics. -/
def panics (message : Args params → String) : Body owner params result :=
  plain fun receiver args => (.panic (message args), receiver)

end Body

/-! ## 3. Methods -/

/-- An instance as a call sees it. -/
abbrev Object := Value

/-- **A method with its types forgotten**: it takes any receiver and any arguments. As a body does,
    it sees and changes the receiver only. -/
abbrev Thunk := Object → List Value → Reply Value × Object

/-- **A method** of the type `owner`. -/
structure Method (owner : Ty) where
  name : String
  params : List Ty
  result : Ty
  body : Body owner params result

namespace Method

variable {owner : Ty}

/-- The signature under which a method is published. -/
def signature (m : Method owner) : Signature :=
  ⟨⟨m.name, m.params⟩, m.result⟩

/-- A method that combines two values of a type to one. -/
def combining (name : String) (t : Ty) (combine : t.Carrier → t.Carrier → t.Carrier) :
    Method owner :=
  ⟨name, [t, t], t, .ofArgs fun | .cons x (.cons y .nil) => combine x y⟩

/-- A method that combines two values of a type to one, or raises an error. -/
def tryCombining (name : String) (t : Ty)
    (combine : t.Carrier → t.Carrier → Except Raised t.Carrier) : Method owner :=
  ⟨name, [t, t], t, .tryArgs fun | .cons x (.cons y .nil) => combine x y⟩

/-- **The thunk of a method.** -/
def thunk (m : Method owner) : Thunk := fun object args =>
  match object.as? owner with
  | none => (.fault (.receiver owner), object)
  | some receiver =>
    if args.length ≠ m.params.length then
      (.fault (.arity m.params.length args.length), object)
    else
      match Args.read 0 m.params args with
      | .error f => (.fault f, object)
      | .ok typed =>
        let (reply, after) := m.body.run receiver typed
        (reply, ⟨owner, after⟩)

/-- On a receiver of its type and arguments of its types a thunk runs the body. -/
theorem thunk_of_typed (m : Method owner) (receiver : owner.Carrier) (args : Args m.params) :
    m.thunk ⟨owner, receiver⟩ args.values =
      ((m.body.run receiver args).1, ⟨owner, (m.body.run receiver args).2⟩) := by
  simp [thunk, Args.read_values]

end Method

end Structural
