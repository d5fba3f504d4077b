import Structural.Adapter

/-!
# Facades

A facade is an interface whose methods are known where it is used: each has a name, the types of
its arguments and the type of its result, so that a call takes arguments of these types and gives a
result of that type.

* `Declared`, `Facade` -- the methods declared, in order;
* `Facade.interface` -- the interface that a facade stands for;
* `Facade.call` -- **a typed call**: the method declared at position `k` calls slot `k`.
-/

namespace Structural

/-- A method as a facade declares it. No result type means the empty value. -/
structure Declared where
  name : String
  params : List Ty
  result : Option Ty
deriving DecidableEq, Repr

namespace Declared

/-- The type of the result. -/
def resultTy (d : Declared) : Ty :=
  d.result.getD .unit

/-- The signature declared. -/
def signature (d : Declared) : Signature :=
  ⟨⟨d.name, d.params⟩, d.resultTy⟩

end Declared

/-- **A facade**: a name and the methods declared, in order. -/
structure Facade where
  name : String
  methods : List Declared
deriving DecidableEq, Repr

namespace Facade

/-- The interface that a facade stands for. -/
def interface (f : Facade) : Interface :=
  ⟨f.name, f.methods.map Declared.signature⟩

/-- The method declared at a position. -/
def method (f : Facade) (k : Fin f.methods.length) : Declared :=
  f.methods.get k

/-- The position of the first method with a name. -/
def find? (f : Facade) (name : String) : Option (Fin f.methods.length) :=
  (List.finRange f.methods.length).find? fun k => (f.method k).name = name

/-- **A typed call** through an adapter, on the instance as it is. -/
def call (f : Facade) (k : Fin f.methods.length) (a : Adapter) (args : Args (f.method k).params)
    (object : Object) : Reply (f.method k).resultTy.Carrier × Object :=
  a.invokeTyped (f.method k).resultTy k args.values object

/-- How a facade around an adapter shows itself. -/
def outline (f : Facade) (a : Adapter) : String :=
  Text.record f.name [("adapter", a.outline)]

@[simp] theorem length_interface (f : Facade) : f.interface.length = f.methods.length := by
  simp [interface, Interface.length]

/-- The signature in slot `k` is the one declared at position `k`. -/
theorem interface_methods_get (f : Facade) (k : Fin f.methods.length) :
    f.interface.methods[k.val]? = some (f.method k).signature := by
  simp [interface, method]

end Facade

end Structural
