import Structural.Ty

/-!
# Values

A value that carries its type, and the ways to take it out again at a type one names.

* `Value` -- a type with one of its values;
* `Value.as?` -- the value at a given type, nothing if it is of another type;
* `Value.downcast` -- the same, giving the value back if it is of another type.
-/

namespace Structural

/-- **A value with its type.** -/
structure Value where
  ty : Ty
  data : ty.Carrier

namespace Value

/-- The empty value. -/
def unit : Value := ⟨.unit, ()⟩

/-- Whether a value is of the type `t`. -/
def isOf (v : Value) (t : Ty) : Bool :=
  decide (v.ty = t)

/-- **The value at the type `t`**, if it is of that type. -/
def as? (v : Value) (t : Ty) : Option t.Carrier :=
  if h : v.ty = t then some (h ▸ v.data) else none

/-- **The value taken out at the type `t`**, or the value back unchanged. -/
def downcast (v : Value) (t : Ty) : Except Value t.Carrier :=
  match v.as? t with
  | some x => .ok x
  | none => .error v

/-- How a value shows itself: its type only. -/
def outline (v : Value) : String :=
  "Value<" ++ v.ty.shortName ++ ">"

@[simp] theorem as?_mk (t : Ty) (x : t.Carrier) : (Value.mk t x).as? t = some x := by
  simp [as?]

theorem as?_of_ne {v : Value} {t : Ty} (h : v.ty ≠ t) : v.as? t = none := by
  simp [as?, h]

/-- A value that can be taken out at a type is that type's value. -/
theorem eq_mk_of_as? {v : Value} {t : Ty} {x : t.Carrier} (h : v.as? t = some x) : v = ⟨t, x⟩ := by
  unfold as? at h
  split at h
  · rename_i e
    subst e
    cases h
    rfl
  · cases h

@[simp] theorem downcast_mk (t : Ty) (x : t.Carrier) : (Value.mk t x).downcast t = .ok x := by
  simp [downcast]

theorem downcast_of_ne {v : Value} {t : Ty} (h : v.ty ≠ t) : v.downcast t = .error v := by
  simp [downcast, as?_of_ne h]

end Value

end Structural
