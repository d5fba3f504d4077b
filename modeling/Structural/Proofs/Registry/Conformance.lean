import Structural.Proofs.Registry.Origin

/-!
# Adapters conform to what was asked for

Fingerprints may clash; an adapter of another interface is never given for it.

* `keyed_after` -- **everything kept is filed under the key of its own interface and type**;
* `Adapter.Conforms` -- an adapter has the interface, the type and the instance asked for, and a
  slot for every method, with its signature;
* `Answered` -- a reply, good or bad, is what the registry before it calls for: an adapter conforms,
  a clash is reported exactly where another interface stands under the key, and an instance is
  refused exactly where there is an adapter type and the instance is of another type;
* `builds_conform` -- **every reply after every run is one of these**, for any fingerprints; around
  an instance of the type described none is refused.
-/

namespace Structural

/-- **An adapter conforms to what was asked for.** -/
structure Adapter.Conforms (a : Adapter) (interface : Interface) (source : Source)
    (target : Target) : Prop where
  asked : a.blueprint.interface = interface
  ty : a.blueprint.source = source.ty
  wraps : a.target = target
  fits : target.ty = source.ty
  /-- One slot for every method, in order, and each has its signature. -/
  slots : a.blueprint.slots.map Slot.signature = interface.methods

/-- Slots that serve signatures have them. -/
theorem map_signature_of_serves {source : Source} {wanted : List Signature} {slots : List Slot}
    (h : List.Forall₂ (Slot.Serves source) wanted slots) : slots.map Slot.signature = wanted := by
  induction h with
  | nil => rfl
  | cons hserves _ ih => rw [List.map_cons, ih, hserves.signature]

namespace Registry

variable {fingerprint : Interface → UInt64} {config : Config} {interface : Interface}
  {source : Source}

/-! ## 1. Keys -/

/-- **Everything kept after a run is filed under the key of its own interface and type.** -/
theorem keyed_after (fingerprint : Interface → UInt64) (config : Config) (moves : List Move) :
    ∀ e ∈ ((empty config).after fingerprint moves).cache.entries,
      e.key = key fingerprint e.item.interface e.item.source := by
  intro e he
  have hk : ((empty config).after fingerprint moves).cache.Keeps e.key e.item :=
    Cache.keeps_iff.mpr ⟨e, he, rfl, rfl⟩
  obtain ⟨origin, hkey, hminted⟩ := origin_of_kept moves hk
  rw [hkey, hminted.mintedIn.isOver.ty]

/-! ## 2. Adapter types -/

/-- **A clash is reported exactly where another interface stands under the key.** -/
theorem blueprint_eq_collision_iff {r : Registry} (hr : Regular config r) {name : String}
    {id : UInt64} : (r.blueprint fingerprint interface source).1 =
        .error (.synthesis (.identityCollision name id)) ↔
      name = interface.name ∧ id = fingerprint interface ∧ 0 < r.cache.capacity ∧
        ∃ b, r.cache.Keeps (key fingerprint interface source.ty) b ∧ b.interface ≠ interface := by
  constructor
  · intro h
    rcases blueprint_eq_error hr.bounded h with ⟨b, hk, hi, he⟩ | ⟨_, he⟩
    · have hpos := Nat.pos_of_ne_zero (hk.capacity_ne_zero hr.bounded)
      cases he
      exact ⟨rfl, rfl, hpos, b, hk, hi⟩
    · rcases slotsOver_error he with ⟨_, h⟩ | ⟨_, h, _, _, _, rfl⟩ <;> cases h
  · rintro ⟨rfl, rfl, _, b, hk, hi⟩
    rw [blueprint_of_keeps hr hk, if_neg hi]

/-- A build reports a clash exactly where asking for the adapter type does. -/
theorem build_eq_collision_iff {r : Registry} (hr : Regular config r) {name : String} {id : UInt64}
    (target : Target) : (r.build fingerprint interface source target).1 =
        .error (.synthesis (.identityCollision name id)) ↔
      name = interface.name ∧ id = fingerprint interface ∧ 0 < r.cache.capacity ∧
        ∃ b, r.cache.Keeps (key fingerprint interface source.ty) b ∧ b.interface ≠ interface := by
  rw [build_eq_error_iff, ← blueprint_eq_collision_iff hr]
  constructor
  · rintro (h | ⟨_, _, _, h⟩)
    · exact h
    · cases h
  · exact Or.inl

/-- No adapter type is refused for the instance, which is not looked at before there is one. -/
theorem blueprint_ne_mismatch {r : Registry} (hr : Regular config r) (name : String)
    (expected : Ty) : (r.blueprint fingerprint interface source).1 ≠
      .error (.synthesis (.targetMismatch name expected)) := by
  intro h
  rcases blueprint_eq_error hr.bounded h with ⟨_, _, _, he⟩ | ⟨_, he⟩
  · cases he
  · rcases slotsOver_error he with ⟨_, h⟩ | ⟨_, h, _, _, _, rfl⟩ <;> cases h

/-! ## 3. Replies -/

/-- **A reply is what the registry before it calls for.** -/
structure Answered (fingerprint : Interface → UInt64) (r : Registry) (interface : Interface)
    (source : Source) (target : Target) (reply : Except BuildError Adapter) : Prop where
  conforms : ∀ a, reply = .ok a → a.Conforms interface source target
  collision : ∀ name id, reply = .error (.synthesis (.identityCollision name id)) ↔
    name = interface.name ∧ id = fingerprint interface ∧ 0 < r.cache.capacity ∧
      ∃ b, r.cache.Keeps (key fingerprint interface source.ty) b ∧ b.interface ≠ interface
  mismatch : ∀ name expected, reply = .error (.synthesis (.targetMismatch name expected)) ↔
    target.ty ≠ source.ty ∧ expected = source.ty ∧
      ∃ b, (r.blueprint fingerprint interface source).1 = .ok b ∧ name = b.name

theorem answered_build (fingerprint : Interface → UInt64) (config : Config) (moves : List Move)
    (interface : Interface) (source : Source) (target : Target) :
    Answered fingerprint ((empty config).after fingerprint moves) interface source target
      (((empty config).after fingerprint moves).build fingerprint interface source target).1 where
  conforms := by
    intro a ha
    obtain ⟨b, hb, htarget, rfl⟩ := build_eq_ok_iff.mp ha
    obtain ⟨rfl, origin, _, hover, _⟩ := origin_of_blueprint hb
    have hsource := source_of_blueprint hb
    exact ⟨rfl, hsource, rfl, htarget.trans hsource,
      map_signature_of_serves (serves_of_slotsOver hover.slots)⟩
  collision := by
    intro name id
    exact build_eq_collision_iff (regular_after fingerprint config moves) target
  mismatch := by
    intro name expected
    rw [build_eq_error_iff]
    constructor
    · rintro (h | ⟨b, hb, hne, h⟩)
      · exact absurd h
          (blueprint_ne_mismatch (regular_after fingerprint config moves) name expected)
      · cases h
        rw [source_of_blueprint hb] at hne
        exact ⟨hne, source_of_blueprint hb, b, hb, rfl⟩
    · rintro ⟨hne, rfl, b, hb, rfl⟩
      rw [← source_of_blueprint hb] at hne ⊢
      exact Or.inr ⟨b, hb, hne, rfl⟩

/-- **Every reply after every run is what the registry calls for**, whatever the fingerprints, and
    everything kept there is filed under its own key. Around an instance of the type described no
    build is refused for the instance. -/
theorem builds_conform (fingerprint : Interface → UInt64) (config : Config) (moves : List Move) :
    (∀ e ∈ ((empty config).after fingerprint moves).cache.entries,
      e.key = key fingerprint e.item.interface e.item.source) ∧
    ∀ interface source,
      (∀ target, Answered fingerprint ((empty config).after fingerprint moves) interface source
        target (((empty config).after fingerprint moves).build fingerprint interface source
          target).1) ∧
      ∀ ref, Answered fingerprint ((empty config).after fingerprint moves) interface source
          ⟨ref, source.ty⟩
          (((empty config).after fingerprint moves).view fingerprint interface source ref).1 ∧
        ∀ name expected,
          (((empty config).after fingerprint moves).view fingerprint interface source ref).1 ≠
            .error (.synthesis (.targetMismatch name expected)) := by
  refine ⟨keyed_after fingerprint config moves, fun interface source =>
    ⟨answered_build fingerprint config moves interface source, fun ref => ?_⟩⟩
  have hanswered := answered_build fingerprint config moves interface source ⟨ref, source.ty⟩
  refine ⟨hanswered, fun name expected h => ?_⟩
  exact ((hanswered.mismatch name expected).mp h).1 rfl

end Registry

end Structural
