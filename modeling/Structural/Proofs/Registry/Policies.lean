import Structural.Demo.Arithmetic
import Structural.Proofs.Registry.Minting

/-!
# What the policy for ambiguity decides

With rejection a slot that several methods fit stops resolution; with first match it does not. Both
scans stop at the first slot that they cannot bind, and these need not be the same slot.

* `settled_firstMatch_iff` -- with first match a slot can be bound exactly if some method fits it, so
  that a slot bound under rejection is bound under first match;
* `AmbiguousAt` -- the first slot that is not fitted by exactly one method is fitted by several;
* `Registry.under` -- a registry with another policy and all else as it was;
* `policies_agree` -- **under first match nothing is ambiguous, and unless rejection reports an
  ambiguity both policies give the same**: the same table and the same adapter type, or the same
  error. An ambiguity that rejection reports stands before any slot that first match finds without
  a method.
-/

namespace Structural

variable {interface : Interface} {source : Source} {wanted : Signature}

/-! ## 1. Slots -/

/-- With first match a slot can be bound exactly if some method fits it. -/
theorem settled_firstMatch_iff :
    Settled .firstMatch source wanted ↔ source.fitting wanted ≠ [] := by
  constructor
  · intro h
    exact h.candidate
  · intro h
    exact ⟨h, fun hp => by cases hp⟩

/-- With rejection it can be bound exactly if one method fits it. -/
theorem settled_reject_iff :
    Settled .reject source wanted ↔ (source.fitting wanted).length = 1 := by
  constructor
  · intro h
    exact h.sole rfl
  · intro h
    refine ⟨fun hnil => ?_, fun _ => h⟩
    rw [hnil] at h
    cases h

/-- **A slot that can be bound under rejection can be bound under first match.** -/
theorem Settled.firstMatch (h : Settled .reject source wanted) :
    Settled .firstMatch source wanted :=
  settled_firstMatch_iff.mpr h.candidate

/-- **The first slot that is not fitted by exactly one method is fitted by several.** -/
structure AmbiguousAt (source : Source) (interface : Interface) (k : Nat) (wanted : Signature) :
    Prop where
  slot : interface.methods[k]? = some wanted
  several : 2 ≤ (source.fitting wanted).length
  before : ∀ j < k, ∀ other, interface.methods[j]? = some other →
    (source.fitting other).length = 1

/-- Rejection stops where no method fits, or several do. -/
theorem ambiguousAt_or_none {k : Nat}
    (h : FirstAt (fun w => ¬ Settled .reject source w) interface.methods k wanted) :
    AmbiguousAt source interface k wanted ∨ source.fitting wanted = [] := by
  have hlength : (source.fitting wanted).length ≠ 1 := by
    intro hone
    exact h.holds (settled_reject_iff.mpr hone)
  by_cases hnil : source.fitting wanted = []
  · exact Or.inr hnil
  · refine Or.inl ⟨h.get, ?_, ?_⟩
    · have hpos : 0 < (source.fitting wanted).length := List.length_pos_iff.mpr hnil
      omega
    · intro j hj other hother
      exact settled_reject_iff.mp (not_not.mp (h.before j hj other hother))

/-! ## 2. Resolution -/

/-- **First match never reports an ambiguity.** -/
theorem resolve_firstMatch_ne_ambiguous (shape : Shape) (name : String) (n : Nat) :
    resolve .firstMatch interface source ≠ .error (.ambiguous shape name n) := by
  intro h
  obtain ⟨k, w, _, hoffence⟩ := resolve_eq_error_iff.mp h
  cases hoffence with
  | several hp _ => cases hp

/-- **A table under rejection is the table under first match.** -/
theorem resolve_firstMatch_of_ok {table : Table} (h : resolve .reject interface source = .ok table) :
    resolve .firstMatch interface source = .ok table := by
  have hsettled : ∀ w ∈ interface.methods, Settled .firstMatch source w := by
    intro w hw
    exact (exists_resolve_iff.mp ⟨table, h⟩ w hw).firstMatch
  exact resolve_eq_ok_of_boundBy hsettled (boundBy_of_resolve h)

/-- **So is the error of a slot without a method.** -/
theorem resolve_firstMatch_of_noMatch {shape : Shape} {name : String}
    (h : resolve .reject interface source = .error (.noMatch shape name)) :
    resolve .firstMatch interface source = .error (.noMatch shape name) := by
  obtain ⟨k, w, hfirst, hoffence⟩ := resolve_eq_error_iff.mp h
  cases hoffence with
  | none hnone =>
      refine resolve_eq_error_iff.mpr ⟨k, w, ⟨hfirst.get, ?_, ?_⟩, .none hnone⟩
      · intro hsettled
        exact hsettled.candidate hnone
      · intro j hj other hother hnot
        exact hfirst.before j hj other hother fun hsettled => hnot hsettled.firstMatch

/-- **Unless rejection reports an ambiguity, both policies resolve alike.** -/
theorem resolve_policies_eq
    (h : ∀ shape name n, resolve .reject interface source ≠ .error (.ambiguous shape name n)) :
    resolve .firstMatch interface source = resolve .reject interface source := by
  cases hr : resolve .reject interface source with
  | ok table => exact resolve_firstMatch_of_ok hr
  | error e =>
      cases e with
      | noMatch shape name => exact resolve_firstMatch_of_noMatch hr
      | ambiguous shape name n => exact absurd hr (h shape name n)

/-- **Where rejection reports an ambiguity**, and what it hides: first match goes past this slot, so
    that a slot it finds without a method stands behind it. -/
theorem ambiguousAt_of_resolve {shape : Shape} {name : String} {n : Nat}
    (h : resolve .reject interface source = .error (.ambiguous shape name n)) :
    ∃ k w, AmbiguousAt source interface k w ∧ w.shape = shape ∧ source.name = name ∧
      (source.fitting w).length = n ∧
      ∀ shape' name', resolve .firstMatch interface source = .error (.noMatch shape' name') →
        ∃ l v, k < l ∧ FirstAt (fun v => source.fitting v = []) interface.methods l v ∧
          v.shape = shape' := by
  obtain ⟨k, w, hfirst, hoffence⟩ := resolve_eq_error_iff.mp h
  cases hoffence with
  | several _ hlength =>
      have hambiguous : AmbiguousAt source interface k w := by
        rcases ambiguousAt_or_none hfirst with hambiguous | hnil
        · exact hambiguous
        · rw [hnil] at hlength
          simp at hlength
      refine ⟨k, w, hambiguous, rfl, rfl, rfl, fun shape' name' h' => ?_⟩
      obtain ⟨l, v, hmissing, hoffence'⟩ := resolve_eq_error_iff.mp h'
      cases hoffence' with
      | none hnone =>
          refine ⟨l, v, ?_, ⟨hmissing.get, hnone, ?_⟩, rfl⟩
          · -- up to slot `k` some method fits every slot
            by_contra hle
            rcases Nat.lt_or_eq_of_le (Nat.le_of_not_lt hle) with hlt | rfl
            · have hone := hambiguous.before l hlt v hmissing.get
              simp [hnone] at hone
            · have hv : v = w := Option.some.inj (hmissing.get.symm.trans hambiguous.slot)
              rw [← hv, hnone] at hlength
              simp at hlength
          · intro j hj other hother hnil
            exact hmissing.before j hj other hother fun hsettled => hsettled.candidate hnil

/-! ## 3. Both stages -/

namespace Registry

/-- A registry with another policy for ambiguity. -/
def under (r : Registry) (policy : Ambiguity) : Registry :=
  { r with config := { r.config with ambiguity := policy } }

/-- A mint under a policy is that of the slots under it, with the id that the registry gives. -/
theorem mint_under (r : Registry) (policy : Ambiguity) (interface : Interface) (source : Source) :
    ((r.under policy).mint interface source).1 =
      (slotsOver policy interface source).map (Blueprint.ofSlots r.nextId interface source) :=
  mint_fst (r.under policy) interface source

/-- A mint reports an error of resolution exactly if the interface does not resolve for it. -/
theorem mint_under_eq_resolution_iff {r : Registry} {policy : Ambiguity} {e : MatchError} :
    ((r.under policy).mint interface source).1 = .error (.resolution e) ↔
      resolve policy interface source = .error e := by
  rw [mint_eq_error_iff, slotsOver_eq_resolution_iff, ← resolve_eq_error_iff]
  exact Iff.rfl

/-- Where both policies resolve alike, both mint alike. -/
theorem mint_under_congr {policy policy' : Ambiguity}
    (h : resolve policy interface source = resolve policy' interface source) (r : Registry) :
    ((r.under policy).mint interface source).1 = ((r.under policy').mint interface source).1 := by
  rw [mint_under, mint_under]
  unfold slotsOver
  rw [h]

/-- **Going from rejection to first match changes ambiguous builds only.** -/
theorem policies_agree (interface : Interface) (source : Source) :
    (∀ shape name n,
      resolve .firstMatch interface source ≠ .error (.ambiguous shape name n)) ∧
    ((∀ shape name n, resolve .reject interface source ≠ .error (.ambiguous shape name n)) →
      resolve .firstMatch interface source = resolve .reject interface source) ∧
    (∀ r : Registry,
      (∀ shape name n, ((r.under .firstMatch).mint interface source).1 ≠
        .error (.resolution (.ambiguous shape name n))) ∧
      ((∀ shape name n, ((r.under .reject).mint interface source).1 ≠
          .error (.resolution (.ambiguous shape name n))) →
        ((r.under .firstMatch).mint interface source).1 =
          ((r.under .reject).mint interface source).1)) ∧
    ∀ shape name n, resolve .reject interface source = .error (.ambiguous shape name n) →
      ∃ k w, AmbiguousAt source interface k w ∧ w.shape = shape ∧ source.name = name ∧
        (source.fitting w).length = n ∧
        ∀ shape' name', resolve .firstMatch interface source = .error (.noMatch shape' name') →
          ∃ l v, k < l ∧ FirstAt (fun v => source.fitting v = []) interface.methods l v ∧
            v.shape = shape' := by
  refine ⟨resolve_firstMatch_ne_ambiguous, resolve_policies_eq, fun r => ⟨?_, ?_⟩,
    fun shape name n => ambiguousAt_of_resolve⟩
  · intro shape name n h
    exact resolve_firstMatch_ne_ambiguous shape name n (mint_under_eq_resolution_iff.mp h)
  · intro h
    refine mint_under_congr (resolve_policies_eq fun shape name n hr => ?_) r
    exact h shape name n (mint_under_eq_resolution_iff.mpr hr)

/-- The type of the demonstration target, described with two methods of one shape. -/
def doubled : Source where
  ty := Demo.targetTy
  methods :=
    [.combining "add" .i32 fun (x y : BitVec 32) => x + y,
     .combining "add" .i32 fun (x y : BitVec 32) => x - y]

/-- A sum, and a method that no source has. -/
def sumAndMore : Interface :=
  ⟨"SumAndMore", [⟨⟨"add", [.i32, .i32]⟩, .i32⟩, ⟨⟨"more", []⟩, .unit⟩]⟩

/-- Over the source with two sums, rejection reports the sum and first match the slot behind it; over
    the demonstration target as it describes itself nothing is ambiguous. -/
theorem policies_agree_doubled :
    (resolve .reject sumAndMore doubled =
        .error (.ambiguous ⟨"add", [.i32, .i32]⟩ doubled.name 2) ∧
      resolve .firstMatch sumAndMore doubled = .error (.noMatch ⟨"more", []⟩ doubled.name) ∧
      ∃ k w l v, AmbiguousAt doubled sumAndMore k w ∧ k < l ∧
        FirstAt (fun v => doubled.fitting v = []) sumAndMore.methods l v ∧ v.shape = ⟨"more", []⟩) ∧
    resolve .firstMatch Demo.addNumbers.interface Demo.source =
      resolve .reject Demo.addNumbers.interface Demo.source ∧
    (((empty .default).under .firstMatch).mint Demo.addNumbers.interface Demo.source).1 =
      (((empty .default).under .reject).mint Demo.addNumbers.interface Demo.source).1 := by
  obtain ⟨_, _, _, hhidden⟩ := policies_agree sumAndMore doubled
  obtain ⟨_, hresolve, hmint, _⟩ := policies_agree Demo.addNumbers.interface Demo.source
  have hreject : resolve .reject sumAndMore doubled =
      .error (.ambiguous ⟨"add", [.i32, .i32]⟩ doubled.name 2) := rfl
  have hfirst : resolve .firstMatch sumAndMore doubled =
      .error (.noMatch ⟨"more", []⟩ doubled.name) := rfl
  have htable : resolve .reject Demo.addNumbers.interface Demo.source = .ok [⟨0, 0⟩] := rfl
  refine ⟨⟨hreject, hfirst, ?_⟩, ?_, ?_⟩
  · obtain ⟨k, w, hambiguous, _, _, _, hbehind⟩ := hhidden _ _ _ hreject
    obtain ⟨l, v, hlt, hmissing, hshape⟩ := hbehind _ _ hfirst
    exact ⟨k, w, l, v, hambiguous, hlt, hmissing, hshape⟩
  · refine hresolve fun shape name n h => ?_
    rw [htable] at h
    cases h
  · refine (hmint (empty .default)).2 fun shape name n h => ?_
    have h' := mint_under_eq_resolution_iff.mp h
    rw [htable] at h'
    cases h'

end Registry

end Structural
