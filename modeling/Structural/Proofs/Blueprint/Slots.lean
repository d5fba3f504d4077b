import Mathlib.Data.List.Forall2
import Structural.Blueprint

/-!
# The slots of an interface over a source

What resolution and synthesis give together, without the id and the name of the blueprint.

* `Covers` -- the table that resolution gives: one binding for every slot, in order, each to a
  method with the shape that the slot has (`covers_resolve`);
* `Slot.Serves` -- **a slot forwards to a method of the source with exactly its signature**;
* `slotsOver` -- the slots of an interface over a source, or why there are none;
* `serves_of_slotsOver` / `slotsOver_error` -- the two cases: every slot serves, or the interface
  does not resolve, or a result type differs. A table that points past an end does not occur;
* `Blueprint.IsOver` -- a blueprint has the slots, the type and the name of its interface over a
  source.
-/

namespace Structural

/-! ## 1. Tables that resolution gives -/

theorem mem_of_choose {policy : Ambiguity} {source : String} {shape : Shape} {k : Nat} :
    ∀ {indices : List Nat}, choose policy source shape indices = .ok k → k ∈ indices
  | [], h => by cases h
  | [only], h => by
      cases h
      exact List.mem_singleton_self _
  | first :: second :: rest, h => by
      cases policy with
      | firstMatch =>
          cases h
          exact List.mem_cons_self
      | reject => cases h

/-- A candidate is a published method with the shape asked for. -/
theorem fits_of_mem_candidates {index : NameIndex} {source : Source} {shape : Shape} {k : Nat}
    (h : k ∈ candidates index source.signatures shape) :
    ∃ m, source.methods[k]? = some m ∧ m.signature.shape = shape := by
  have hfits := (List.mem_filter.mp h).2
  unfold fitsAt at hfits
  rw [source.getElem?_signatures] at hfits
  cases hm : source.methods[k]? with
  | none => simp [hm] at hfits
  | some m =>
      rw [hm] at hfits
      exact ⟨m, rfl, Signature.accepts_iff.mp hfits⟩

/-- **A table covers signatures**: it binds the slots from `slot` on, one for every signature, each
    to a published method with the shape of that signature. -/
inductive Covers (source : Source) : Nat → List Signature → Table → Prop where
  | nil (slot : Nat) : Covers source slot [] []
  | cons {slot k : Nat} {wanted : Signature} {rest : List Signature} {table : Table}
      {m : Method source.ty} (hm : source.methods[k]? = some m)
      (hshape : m.signature.shape = wanted.shape) (h : Covers source (slot + 1) rest table) :
      Covers source slot (wanted :: rest) (⟨slot, k⟩ :: table)

theorem covers_scanFrom {policy : Ambiguity} {source : Source} {index : NameIndex} :
    ∀ (wanted : List Signature) (slot : Nat),
      (scanFrom policy source index slot wanted).failure = none →
      Covers source slot wanted (scanFrom policy source index slot wanted).bound
  | [], slot, _ => .nil slot
  | s :: rest, slot, h => by
      unfold scanFrom at h ⊢
      split at h
      · cases h
      · rename_i k hk
        obtain ⟨m, hm, hshape⟩ := fits_of_mem_candidates (mem_of_choose hk)
        exact .cons hm hshape (covers_scanFrom rest (slot + 1) h)

/-- **The table of an interface covers its signatures.** -/
theorem covers_resolve {policy : Ambiguity} {interface : Interface} {source : Source}
    {table : Table} (h : resolve policy interface source = .ok table) :
    Covers source 0 interface.methods table := by
  unfold resolve at h
  dsimp only at h
  split at h
  · cases h
  · rename_i hnone
    cases h
    exact covers_scanFrom interface.methods 0 hnone

/-! ## 2. Slots -/

/-- **A slot serves a signature**: it has this signature, and behind it stands a method of the
    source that has it too. -/
structure Slot.Serves (source : Source) (wanted : Signature) (slot : Slot) : Prop where
  signature : slot.signature = wanted
  method : ∃ m, source.methods[slot.index]? = some m ∧ m.signature = wanted ∧ slot.thunk = m.thunk

namespace Blueprint

/-- The error of a slot whose method returns another type than the interface declares. -/
def Mismatch (interface : Interface) (source : Source) (e : SynthesisError) : Prop :=
  ∃ method expected found, e = .returnMismatch interface.name source.name method expected found

variable {interface : Interface} {source : Source}

/-- What becomes of a binding to a method with the right shape. -/
theorem slotFor_cases {b : Binding} {wanted : Signature} {m : Method source.ty}
    (hw : interface.methods[b.slot]? = some wanted) (hm : source.methods[b.index]? = some m)
    (hshape : m.signature.shape = wanted.shape) :
    (∃ slot, slotFor interface source b = .ok slot ∧ slot.Serves source wanted) ∨
      ∃ e, slotFor interface source b = .error (.refused e) ∧ Mismatch interface source e := by
  unfold slotFor
  rw [hw, hm]
  dsimp only
  by_cases h : wanted.result ≠ m.result
  · rw [if_pos h]
    exact Or.inr ⟨_, rfl, _, _, _, rfl⟩
  · rw [if_neg h]
    have hsig : m.signature = wanted := by
      obtain ⟨shape, result⟩ := wanted
      have hresult : result = m.result := not_not.mp h
      have hs : m.signature.shape = shape := hshape
      rw [← hs, hresult]
      rfl
    exact Or.inl ⟨_, rfl, rfl, m, hm, hsig, rfl⟩

/-- The slots of a table that covers the signatures from `slot` on. -/
theorem slotsFor_cases {slot : Nat} {wanted : List Signature} {table : Table}
    (hc : Covers source slot wanted table) (hw : interface.methods.drop slot = wanted) :
    (∃ slots, slotsFor interface source table = .ok slots ∧
        List.Forall₂ (Slot.Serves source) wanted slots) ∨
      ∃ e, slotsFor interface source table = .error (.refused e) ∧ Mismatch interface source e := by
  induction hc with
  | nil => exact Or.inl ⟨[], rfl, .nil⟩
  | @cons slot k w rest table m hm hshape _ ih =>
      have hhead : interface.methods[slot]? = some w := by
        rw [← List.head?_drop, hw]
        rfl
      have htail : interface.methods.drop (slot + 1) = rest := by
        rw [← List.tail_drop, hw]
        rfl
      unfold slotsFor
      rcases slotFor_cases (b := ⟨slot, k⟩) hhead hm hshape with ⟨s, hs, hserves⟩ | ⟨e, he, hmis⟩
      · rw [hs]
        rcases ih htail with ⟨slots, hslots, hall⟩ | ⟨e, he, hmis⟩
        · rw [hslots]
          exact Or.inl ⟨s :: slots, rfl, .cons hserves hall⟩
        · rw [he]
          exact Or.inr ⟨e, rfl, hmis⟩
      · rw [he]
        exact Or.inr ⟨e, rfl, hmis⟩

end Blueprint

/-! ## 3. Resolution and synthesis together -/

/-- **The slots of an interface over a source**: the interface is resolved first, then the result
    types are compared. -/
def slotsOver (policy : Ambiguity) (interface : Interface) (source : Source) :
    Except BuildError (List Slot) :=
  match resolve policy interface source with
  | .error e => .error (.resolution e)
  | .ok table =>
    match Blueprint.slotsFor interface source table with
    | .error (.refused e) => .error (.synthesis e)
    | .error (.outOfBounds e) => .error (.outOfBounds e)
    | .ok slots => .ok slots

variable {policy : Ambiguity} {interface : Interface} {source : Source}

theorem slotsOver_cases (policy : Ambiguity) (interface : Interface) (source : Source) :
    (∃ slots, slotsOver policy interface source = .ok slots ∧
        List.Forall₂ (Slot.Serves source) interface.methods slots) ∨
      (∃ e, slotsOver policy interface source = .error (.resolution e)) ∨
      ∃ e, slotsOver policy interface source = .error (.synthesis e) ∧
        Blueprint.Mismatch interface source e := by
  unfold slotsOver
  cases hr : resolve policy interface source with
  | error e => exact Or.inr (Or.inl ⟨e, rfl⟩)
  | ok table =>
      dsimp only
      rcases Blueprint.slotsFor_cases (covers_resolve hr) List.drop_zero with
        ⟨slots, hs, hall⟩ | ⟨e, he, hmis⟩
      · rw [hs]
        exact Or.inl ⟨slots, rfl, hall⟩
      · rw [he]
        exact Or.inr (Or.inr ⟨e, rfl, hmis⟩)

/-- **Slots that there are serve the interface**, one by one and in order. -/
theorem serves_of_slotsOver {slots : List Slot}
    (h : slotsOver policy interface source = .ok slots) :
    List.Forall₂ (Slot.Serves source) interface.methods slots := by
  rcases slotsOver_cases policy interface source with ⟨slots', hs, hall⟩ | ⟨e, he⟩ | ⟨e, he, _⟩
  · rw [h] at hs
    cases hs
    exact hall
  · rw [h] at he
    cases he
  · rw [h] at he
    cases he

/-- What stands at the same place of the other list. -/
theorem exists_of_forall₂ {α β : Type} {R : α → β → Prop} {xs : List α} {ys : List β}
    (h : List.Forall₂ R xs ys) {k : Nat} {x : α} (hk : xs[k]? = some x) :
    ∃ y, ys[k]? = some y ∧ R x y := by
  obtain ⟨hlt, hget⟩ := List.getElem?_eq_some_iff.mp hk
  have hlt' : k < ys.length := h.length_eq ▸ hlt
  have hrelated := h.get hlt hlt'
  rw [List.get_eq_getElem, hget] at hrelated
  exact ⟨_, List.getElem?_eq_getElem hlt', hrelated⟩

/-- The slot of a method of the interface. -/
theorem slot_of_slotsOver {slots : List Slot} (h : slotsOver policy interface source = .ok slots)
    {k : Nat} {wanted : Signature} (hk : interface.methods[k]? = some wanted) :
    ∃ slot, slots[k]? = some slot ∧ slot.Serves source wanted :=
  exists_of_forall₂ (serves_of_slotsOver h) hk

/-- **Why there are no slots**: the interface does not resolve, or a result type differs. -/
theorem slotsOver_error {e : BuildError} (h : slotsOver policy interface source = .error e) :
    (∃ m, e = .resolution m) ∨ ∃ s, e = .synthesis s ∧ Blueprint.Mismatch interface source s := by
  rcases slotsOver_cases policy interface source with ⟨slots, hs, _⟩ | ⟨m, hm⟩ | ⟨s, hs, hmis⟩
  · rw [h] at hs
    cases hs
  · rw [h] at hm
    cases hm
    exact Or.inl ⟨m, rfl⟩
  · rw [h] at hs
    cases hs
    exact Or.inr ⟨s, rfl, hmis⟩

namespace Blueprint

/-- The blueprint with an id and slots, of an interface over a source. -/
def ofSlots (id : Nat) (interface : Interface) (source : Source) (slots : List Slot) :
    Blueprint :=
  ⟨id, nameFor interface source, interface, source.ty, slots⟩

/-- **A blueprint is the one of its interface over a source**, whatever its id. -/
structure IsOver (policy : Ambiguity) (b : Blueprint) (source : Source) : Prop where
  slots : slotsOver policy b.interface source = .ok b.slots
  ty : b.source = source.ty
  name : b.name = nameFor b.interface source

end Blueprint

end Structural
