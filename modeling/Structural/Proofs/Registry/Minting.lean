import Structural.Proofs.Registry.Run
import Structural.Proofs.Resolution.PlainScan

/-!
# What is minted, and why nothing is

An adapter type is made in two stages: the interface is resolved, and the result types are compared.

* `FirstFit` -- the method that a slot is bound to;
* `Source.Provides` / `Mistyped` -- this method returns the type that the slot declares, or another;
* `Slot.Forwards` -- **a slot forwards to the first method that fits**: both have one signature, and
  the thunk is the one registered there;
* `slotsFor_cases_of_heads` -- the second stage, on a table that the first one gave: all slots are
  made, or the first mistyped one gives the error. No look-up is past an end;
* `mints_soundly` -- **a mint succeeds exactly if every slot can be bound and is provided**, with
  slots that forward; an interface that does not resolve is reported as such, whatever its result
  types, and otherwise the first mistyped slot gives the error.
-/

namespace Structural

variable {source : Source} {wanted : Signature}

/-! ## 1. The method behind a slot -/

/-- **The method that a slot is bound to**: the first one that fits, with its index. -/
structure FirstFit (source : Source) (wanted : Signature) (k : Nat) (m : Method source.ty) :
    Prop where
  head : (source.fitting wanted).head? = some k
  method : source.methods[k]? = some m

/-- **A source provides a signature**: the method that the slot is bound to returns the type
    declared. -/
def Source.Provides (source : Source) (wanted : Signature) : Prop :=
  ∃ k m, FirstFit source wanted k m ∧ wanted.result = m.result

/-- **A signature is mistyped**: the method that the slot is bound to returns another type. -/
def Mistyped (source : Source) (wanted : Signature) : Prop :=
  ∃ k m, FirstFit source wanted k m ∧ wanted.result ≠ m.result

theorem FirstFit.of_head {k : Nat} (h : (source.fitting wanted).head? = some k) :
    ∃ m, FirstFit source wanted k m ∧ m.signature.shape = wanted.shape := by
  obtain ⟨m, hm, hshape⟩ := Source.method_of_head h
  exact ⟨m, ⟨h, hm⟩, hshape⟩

theorem FirstFit.unique {k l : Nat} {m n : Method source.ty} (h : FirstFit source wanted k m)
    (h' : FirstFit source wanted l n) : k = l ∧ m = n := by
  obtain rfl : k = l := Option.some.inj (h.head.symm.trans h'.head)
  exact ⟨rfl, Option.some.inj (h.method.symm.trans h'.method)⟩

theorem Source.Provides.not_mistyped (h : source.Provides wanted) : ¬ Mistyped source wanted := by
  rintro ⟨l, n, hfit', hne⟩
  obtain ⟨k, m, hfit, heq⟩ := h
  obtain ⟨rfl, rfl⟩ := hfit.unique hfit'
  exact hne heq

/-- A method with the shape and the result type of a signature has this signature. -/
theorem Method.signature_eq {owner : Ty} {m : Method owner}
    (hshape : m.signature.shape = wanted.shape) (hresult : wanted.result = m.result) :
    m.signature = wanted := by
  obtain ⟨shape, result⟩ := wanted
  obtain rfl : m.signature.shape = shape := hshape
  obtain rfl : result = m.result := hresult
  rfl

/-- **A slot forwards to the first method that fits.** -/
structure Slot.Forwards (source : Source) (wanted : Signature) (slot : Slot) : Prop
    extends Slot.Serves source wanted slot where
  first : (source.fitting wanted).head? = some slot.index

/-! ## 2. The slots of a table of first fits -/

namespace Blueprint

variable {interface : Interface}

/-- The error of a slot whose method returns another type. -/
def mismatchOf (interface : Interface) (source : Source) (wanted : Signature)
    (m : Method source.ty) : SynthesisError :=
  .returnMismatch interface.name source.name wanted.shape.render wanted.result m.result

/-- **What becomes of one binding to a first fit.** -/
theorem slotFor_of_head {slot k : Nat} (hw : interface.methods[slot]? = some wanted)
    (hhead : (source.fitting wanted).head? = some k) :
    (source.Provides wanted ∧ ∃ s, slotFor interface source ⟨slot, k⟩ = .ok s ∧
        s.Forwards source wanted) ∨
      Mistyped source wanted ∧ ∃ m, FirstFit source wanted k m ∧
        slotFor interface source ⟨slot, k⟩ =
          .error (.refused (mismatchOf interface source wanted m)) := by
  obtain ⟨m, hfit, hshape⟩ := FirstFit.of_head hhead
  unfold slotFor
  rw [hw, hfit.method]
  dsimp only
  by_cases hne : wanted.result ≠ m.result
  · rw [if_pos hne]
    exact Or.inr ⟨⟨k, m, hfit, hne⟩, m, hfit, rfl⟩
  · rw [if_neg hne]
    have heq : wanted.result = m.result := not_not.mp hne
    have hsig : m.signature = wanted := Method.signature_eq hshape heq
    exact Or.inl ⟨⟨k, m, hfit, heq⟩, _, rfl, ⟨rfl, m, hfit.method, hsig, rfl⟩, hhead⟩

/-- **The slots of a table of first fits**: all of them, or the error of the first mistyped one. -/
theorem slotsFor_cases_of_heads {slot : Nat} {signatures : List Signature} {table : Table}
    (hb : BindsHeads source slot signatures table) (hd : interface.methods.drop slot = signatures) :
    (∃ slots, slotsFor interface source table = .ok slots ∧
        (∀ w ∈ signatures, source.Provides w) ∧
        List.Forall₂ (Slot.Forwards source) signatures slots) ∨
      ∃ j w k m, FirstAt (Mistyped source) signatures j w ∧ FirstFit source w k m ∧
        slotsFor interface source table = .error (.refused (mismatchOf interface source w m)) := by
  induction hb with
  | nil => exact Or.inl ⟨[], rfl, fun w hw => absurd hw List.not_mem_nil, .nil⟩
  | @cons slot k w rest table hhead _ ih =>
      have hw : interface.methods[slot]? = some w := by
        rw [← List.head?_drop, hd]
        rfl
      have htail : interface.methods.drop (slot + 1) = rest := by
        rw [← List.tail_drop, hd]
        rfl
      unfold slotsFor
      rcases slotFor_of_head hw hhead with ⟨hprovides, s, hs, hforwards⟩ | ⟨hmis, m, hfit, he⟩
      · rw [hs]
        rcases ih htail with ⟨slots, hslots, hall, hforall⟩ | ⟨j, v, l, m, hfirst, hfit, he⟩
        · rw [hslots]
          exact Or.inl ⟨s :: slots, rfl, List.forall_mem_cons.mpr ⟨hprovides, hall⟩,
            .cons hforwards hforall⟩
        · rw [he]
          exact Or.inr ⟨j + 1, v, l, m, hfirst.tail hprovides.not_mistyped, hfit, rfl⟩
      · rw [he]
        exact Or.inr ⟨0, w, k, m, .head hmis, hfit, rfl⟩

/-- **A table that resolution gave never points past an end**, whatever the id. -/
theorem synthesize_ne_outOfBounds {policy : Ambiguity} {table : Table}
    (h : resolve policy interface source = .ok table) (id : Nat) (e : OutOfBounds) :
    synthesize id interface source table ≠ .error (.outOfBounds e) := by
  unfold synthesize
  rcases slotsFor_cases_of_heads (bindsHeads_of_resolve h) List.drop_zero with
    ⟨slots, hslots, _⟩ | ⟨_, _, _, _, _, _, he⟩
  · rw [hslots]
    exact fun h => nomatch h
  · rw [he]
    exact fun h => nomatch h

end Blueprint

/-! ## 3. Both stages -/

variable {policy : Ambiguity} {interface : Interface}

/-- **The three ways in which the two stages end.** -/
theorem slotsOver_cases_of_heads (policy : Ambiguity) (interface : Interface) (source : Source) :
    (∃ slots, slotsOver policy interface source = .ok slots ∧
        (∀ w ∈ interface.methods, Settled policy source w ∧ source.Provides w) ∧
        List.Forall₂ (Slot.Forwards source) interface.methods slots) ∨
      (∃ j w e, FirstAt (fun w => ¬ Settled policy source w) interface.methods j w ∧
        Offence policy source w e ∧
        slotsOver policy interface source = .error (.resolution e)) ∨
      ∃ j w k m, (∀ w ∈ interface.methods, Settled policy source w) ∧
        FirstAt (Mistyped source) interface.methods j w ∧ FirstFit source w k m ∧
        slotsOver policy interface source =
          .error (.synthesis (Blueprint.mismatchOf interface source w m)) := by
  unfold slotsOver
  rcases resolve_cases policy interface source with
    ⟨table, hok, hsettled, hbinds⟩ | ⟨j, w, e, herror, hfirst, hoffence⟩
  · rw [hok]
    dsimp only
    rcases Blueprint.slotsFor_cases_of_heads hbinds List.drop_zero with
      ⟨slots, hslots, hprovides, hforall⟩ | ⟨j, w, k, m, hfirst, hfit, he⟩
    · rw [hslots]
      exact Or.inl ⟨slots, rfl, fun w hw => ⟨hsettled w hw, hprovides w hw⟩, hforall⟩
    · rw [he]
      exact Or.inr (Or.inr ⟨j, w, k, m, hsettled, hfirst, hfit, rfl⟩)
  · rw [herror]
    exact Or.inr (Or.inl ⟨j, w, e, hfirst, hoffence, rfl⟩)

/-- There are slots exactly if every slot can be bound and is provided. -/
theorem exists_slotsOver_iff : (∃ slots, slotsOver policy interface source = .ok slots) ↔
    ∀ w ∈ interface.methods, Settled policy source w ∧ source.Provides w := by
  rcases slotsOver_cases_of_heads policy interface source with
    ⟨slots, hok, hall, _⟩ | ⟨j, w, e, hfirst, _, herror⟩ | ⟨j, w, k, m, _, hfirst, _, herror⟩
  · exact ⟨fun _ => hall, fun _ => ⟨slots, hok⟩⟩
  · refine ⟨fun ⟨slots, hok⟩ => ?_, fun hall => absurd (hall w hfirst.mem).1 hfirst.holds⟩
    rw [herror] at hok
    cases hok
  · refine ⟨fun ⟨slots, hok⟩ => ?_,
      fun hall => absurd hfirst.holds (hall w hfirst.mem).2.not_mistyped⟩
    rw [herror] at hok
    cases hok

theorem forwards_of_slotsOver {slots : List Slot}
    (h : slotsOver policy interface source = .ok slots) :
    List.Forall₂ (Slot.Forwards source) interface.methods slots := by
  rcases slotsOver_cases_of_heads policy interface source with
    ⟨slots', hok, _, hforall⟩ | ⟨_, _, _, _, _, herror⟩ | ⟨_, _, _, _, _, _, _, herror⟩
  · rw [h] at hok
    cases hok
    exact hforall
  · rw [h] at herror
    cases herror
  · rw [h] at herror
    cases herror

/-- **An interface that does not resolve is reported as such**: no result type is looked at. -/
theorem slotsOver_eq_resolution_iff {e : MatchError} :
    slotsOver policy interface source = .error (.resolution e) ↔
      ∃ k w, FirstAt (fun w => ¬ Settled policy source w) interface.methods k w ∧
        Offence policy source w e := by
  rw [← resolve_eq_error_iff]
  unfold slotsOver
  cases resolve policy interface source with
  | error e' => simp
  | ok table =>
      dsimp only
      cases Blueprint.slotsFor interface source table with
      | error d => cases d <;> simp
      | ok slots => simp

/-- **The first mistyped slot gives the error**, if all slots can be bound. -/
theorem slotsOver_eq_synthesis_iff {e : SynthesisError} :
    slotsOver policy interface source = .error (.synthesis e) ↔
      (∀ w ∈ interface.methods, Settled policy source w) ∧
        ∃ j w, FirstAt (Mistyped source) interface.methods j w ∧
          ∃ k m, FirstFit source w k m ∧ e = Blueprint.mismatchOf interface source w m := by
  rcases slotsOver_cases_of_heads policy interface source with
    ⟨slots, hok, hall, _⟩ | ⟨j, w, e', hfirst, _, herror⟩ | ⟨j, w, k, m, hall, hfirst, hfit, herror⟩
  · rw [hok]
    refine ⟨(fun h => nomatch h), fun ⟨_, j, w, hfirst, _⟩ => ?_⟩
    exact absurd hfirst.holds (hall w hfirst.mem).2.not_mistyped
  · rw [herror]
    refine ⟨(fun h => nomatch h), fun ⟨hall, _⟩ => ?_⟩
    exact absurd (hall w hfirst.mem) hfirst.holds
  · rw [herror]
    constructor
    · intro h
      cases h
      exact ⟨hall, j, w, hfirst, k, m, hfit, rfl⟩
    · rintro ⟨_, j', w', hfirst', k', m', hfit', rfl⟩
      obtain ⟨rfl, rfl⟩ := hfirst.unique hfirst'
      obtain ⟨rfl, rfl⟩ := hfit.unique hfit'
      rfl

/-! ## 4. Minting -/

namespace Registry

theorem mint_eq_ok_iff {r : Registry} {b : Blueprint} : (r.mint interface source).1 = .ok b ↔
    ∃ slots, slotsOver r.config.ambiguity interface source = .ok slots ∧
      b = Blueprint.ofSlots r.nextId interface source slots := by
  rw [mint_fst]
  cases slotsOver r.config.ambiguity interface source with
  | error e => simp [Except.map]
  | ok slots => simp [Except.map, eq_comm]

theorem mint_eq_error_iff {r : Registry} {e : BuildError} :
    (r.mint interface source).1 = .error e ↔
      slotsOver r.config.ambiguity interface source = .error e := by
  rw [mint_fst]
  cases slotsOver r.config.ambiguity interface source <;> simp [Except.map]

/-- **What a mint replies.** -/
structure MintsSoundly (policy : Ambiguity) (interface : Interface) (source : Source)
    (reply : Except BuildError Blueprint) : Prop where
  /-- It succeeds exactly if every slot can be bound and is provided. -/
  succeeds : (∃ b, reply = .ok b) ↔
    ∀ w ∈ interface.methods, Settled policy source w ∧ source.Provides w
  /-- Every slot then has the signature of the interface and of the first method that fits, and the
      thunk of this method. -/
  forwards : ∀ b, reply = .ok b → b.interface = interface ∧ b.source = source.ty ∧
    List.Forall₂ (Slot.Forwards source) interface.methods b.slots
  /-- An interface that does not resolve gives the error of the first slot that cannot be bound,
      whatever the result types of the others. -/
  unresolved : ∀ e, reply = .error (.resolution e) ↔
    ∃ k w, FirstAt (fun w => ¬ Settled policy source w) interface.methods k w ∧
      Offence policy source w e
  /-- An interface that resolves gives the error of its first mistyped slot, with the types of this
      slot. -/
  mistyped : ∀ e, reply = .error (.synthesis e) ↔
    (∀ w ∈ interface.methods, Settled policy source w) ∧
      ∃ j w, FirstAt (Mistyped source) interface.methods j w ∧
        ∃ k m, FirstFit source w k m ∧
          e = .returnMismatch interface.name source.name w.shape.render w.result m.result

/-- **Minting is sound and complete**, in every registry: a mint succeeds exactly if every slot can
    be bound and is provided, and its slots forward. Errors of resolution come first, and a table
    that resolution gave never points past an end. -/
theorem mints_soundly (r : Registry) (interface : Interface) (source : Source) :
    MintsSoundly r.config.ambiguity interface source (r.mint interface source).1 ∧
      (∀ e, (r.mint interface source).1 ≠ .error (.outOfBounds e)) ∧
      ∀ table, resolve r.config.ambiguity interface source = .ok table →
        ∀ id e, Blueprint.synthesize id interface source table ≠ .error (.outOfBounds e) := by
  refine ⟨⟨?_, fun b hb => ?_, fun e => ?_, fun e => ?_⟩, fun e he => ?_, fun table h =>
    Blueprint.synthesize_ne_outOfBounds h⟩
  · rw [← exists_slotsOver_iff]
    constructor
    · rintro ⟨b, hb⟩
      obtain ⟨slots, hslots, _⟩ := mint_eq_ok_iff.mp hb
      exact ⟨slots, hslots⟩
    · rintro ⟨slots, hslots⟩
      exact ⟨_, mint_eq_ok_iff.mpr ⟨slots, hslots, rfl⟩⟩
  · obtain ⟨slots, hslots, rfl⟩ := mint_eq_ok_iff.mp hb
    exact ⟨rfl, rfl, forwards_of_slotsOver hslots⟩
  · rw [mint_eq_error_iff, slotsOver_eq_resolution_iff]
  · rw [mint_eq_error_iff, slotsOver_eq_synthesis_iff]
    rfl
  · rcases slotsOver_error (mint_eq_error_iff.mp he) with ⟨_, h⟩ | ⟨_, h, _⟩ <;> cases h

end Registry

end Structural
