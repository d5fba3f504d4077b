import Structural.Demo.Arithmetic
import Structural.Proofs.Adapter.Calls
import Structural.Proofs.Registry.Origin

/-!
# What an adapter is bound to

The adapter that a registry gives forwards to the source that its adapter type was made from.

* `forwarding_faithful` -- **every call with arguments of the declared types is one direct call** of
  a method of that source;
* `BoundTo` -- a build is bound to a source: its adapter forwards to it, or it fails as this source
  does;
* `Binds` / `build_binds` -- **when a build is bound to the source at hand**, and what it is bound
  to otherwise. Since methods are not part of a key, an adapter type kept from another description
  of the same type is handed out as it is (`not_boundTo_second`).
-/

namespace Structural.Registry

variable {fingerprint : Interface → UInt64} {config : Config} {interface : Interface}
  {source : Source}

/-! ## 1. Calls -/

/-- **Forwarding is faithful.** Every adapter that a run gives has a slot for every method of its
    interface and no more. Behind it stands a method, with the signature declared, of the source
    that the adapter type was made from; and a call with arguments of the types declared is one
    direct call of this method. -/
theorem forwarding_faithful {moves : List Move} {a : Adapter}
    (h : some (.ok a) ∈ (empty config).replies fingerprint moves) :
    ∃ origin, MintedIn fingerprint config moves a.blueprint origin ∧ a.target.ty = origin.ty ∧
      a.blueprint.slots.length = a.interface.methods.length ∧
      ∀ k wanted, a.interface.methods[k]? = some wanted →
        ∃ slot m, a.blueprint.slots[k]? = some slot ∧ origin.methods[slot.index]? = some m ∧
          m.signature = wanted ∧
          ∀ args object, args.map Value.ty = wanted.params → object.ty = a.target.ty →
            a.CallsDirectly m wanted.result k args object := by
  obtain ⟨origin, hminted, htarget⟩ := origin_of_reply h
  have hover := hminted.isOver
  refine ⟨origin, hminted, htarget, (serves_of_slotsOver hover.slots).length_eq.symm, ?_⟩
  intro k wanted hk
  obtain ⟨slot, m, hslot, hm, rfl, hinvoke⟩ :=
    Adapter.forwardsTo_of_isOver hover a.target k wanted hk
  refine ⟨slot, m, hslot, hm, rfl, fun args object hargs hobject => ?_⟩
  exact Adapter.callsDirectly_of_thunk (hinvoke args object) hargs (hobject.trans htarget)

/-- The demonstration target adds two and three by one direct call. -/
theorem forwarding_faithful_add :
    ∃ (a : Adapter) (origin : Source) (m : Method origin.ty),
      some (.ok a) ∈ (empty .default).replies (Interface.fingerprint Ty.digest)
        [.view Demo.addNumbers.interface Demo.source 0] ∧
      MintedIn (Interface.fingerprint Ty.digest) .default
        [.view Demo.addNumbers.interface Demo.source 0] a.blueprint origin ∧
      m ∈ origin.methods ∧
      a.CallsDirectly m .i32 0 [⟨.i32, (2 : BitVec 32)⟩, ⟨.i32, (3 : BitVec 32)⟩] Demo.target := by
  obtain ⟨a, ha, hinterface, htarget⟩ : ∃ a : Adapter,
      (empty .default).replies (Interface.fingerprint Ty.digest)
        [.view Demo.addNumbers.interface Demo.source 0] = [some (.ok a)] ∧
      a.interface = Demo.addNumbers.interface ∧ a.target.ty = Demo.targetTy := ⟨_, rfl, rfl, rfl⟩
  have hmem : some (.ok a) ∈ (empty .default).replies (Interface.fingerprint Ty.digest)
      [.view Demo.addNumbers.interface Demo.source 0] := by
    rw [ha]
    exact List.mem_singleton_self _
  obtain ⟨origin, hminted, _, _, hslots⟩ := forwarding_faithful hmem
  obtain ⟨slot, m, _, hm, _, hcalls⟩ :=
    hslots 0 ⟨⟨"add", [.i32, .i32]⟩, .i32⟩ (by rw [hinterface]; rfl)
  exact ⟨a, origin, m, hmem, hminted, List.mem_of_getElem? hm, hcalls _ _ rfl htarget.symm⟩

/-! ## 2. Bound to a source -/

/-- **A build is bound to a source**: the adapter it gives has the interface asked for and forwards
    to this source; and where the interface has no slots over this source, it fails as that says,
    or since another interface stands under the key. -/
structure BoundTo (policy : Ambiguity) (interface : Interface) (source : Source)
    (reply : Except BuildError Adapter) : Prop where
  forwards : ∀ a, reply = .ok a → a.interface = interface ∧ a.ForwardsTo source
  fails : ∀ e, slotsOver policy interface source = .error e →
    reply = .error e ∨ ∃ name id, reply = .error (.synthesis (.identityCollision name id))

/-- **A build is bound to the source at hand if nothing kept for it was made from another.** -/
theorem OnlyFrom.boundTo {past : List Move}
    (h : OnlyFrom fingerprint config past interface source) (target : Target) :
    BoundTo config.ambiguity interface source
      (((empty config).after fingerprint past).build fingerprint interface source target).1 where
  forwards := by
    intro a ha
    obtain ⟨b, hb, _, rfl⟩ := build_eq_ok_iff.mp ha
    obtain ⟨hi, hover⟩ := h.isOver hb
    exact ⟨hi, Adapter.forwardsTo_of_isOver hover target⟩
  fails := by
    intro e he
    have hregular := regular_after fingerprint config past
    cases hb : (((empty config).after fingerprint past).blueprint fingerprint
        interface source).1 with
    | ok b =>
        -- it would be over this source, which has no slots to give
        obtain ⟨rfl, hover⟩ := h.isOver hb
        rw [hover.slots] at he
        cases he
    | error e' =>
        rw [build_eq_error_iff.mpr (Or.inl hb)]
        rcases blueprint_eq_error hregular.bounded hb with ⟨_, _, _, rfl⟩ | ⟨_, he'⟩
        · exact Or.inr ⟨_, _, rfl⟩
        · rw [hregular.settings, he] at he'
          cases he'
          exact Or.inl rfl

/-- **What a build is bound to after a run**, by what is kept under its key. -/
structure Binds (fingerprint : Interface → UInt64) (config : Config) (past : List Move)
    (interface : Interface) (source : Source) (target : Target)
    (reply : Except BuildError Adapter) : Prop where
  /-- Nothing is kept for the interface. -/
  anew : (∀ b, ((empty config).after fingerprint past).cache.Keeps
      (key fingerprint interface source.ty) b → b.interface ≠ interface) →
    BoundTo config.ambiguity interface source reply
  /-- An adapter type is kept for the interface: it is bound to the instance, and forwards to the
      source that it was made from. -/
  kept : ∀ b, ((empty config).after fingerprint past).cache.Keeps
      (key fingerprint interface source.ty) b → b.interface = interface →
    reply = (b.bind target).mapError .synthesis ∧
      ∃ origin : Source, origin.ty = source.ty ∧ MintedSince fingerprint config past b origin ∧
        BoundTo config.ambiguity interface origin reply
  /-- The type was not presented for the interface by another source since the last clearing. -/
  same : (∀ origin, PresentedSince past interface origin → origin.ty = source.ty →
      origin = source) →
    BoundTo config.ambiguity interface source reply

/-- A build that finds an adapter type kept binds it, and so is bound to what that was made from. -/
theorem boundTo_of_keeps {past : List Move} {b : Blueprint}
    (hk : ((empty config).after fingerprint past).cache.Keeps
      (key fingerprint interface source.ty) b) (hi : b.interface = interface) {origin : Source}
    (hminted : MintedSince fingerprint config past b origin) (target : Target) :
    BoundTo config.ambiguity interface origin
      (((empty config).after fingerprint past).build fingerprint interface source target).1 where
  forwards := by
    intro a ha
    obtain ⟨b', hb', _, rfl⟩ := build_eq_ok_iff.mp ha
    rw [blueprint_of_keeps (regular_after fingerprint config past) hk, if_pos hi] at hb'
    cases hb'
    exact ⟨hi, Adapter.forwardsTo_of_isOver hminted.mintedIn.isOver target⟩
  fails := by
    intro e he
    rw [← hi, hminted.mintedIn.isOver.slots] at he
    cases he

/-- What a build replies once there is an adapter type. -/
theorem build_of_blueprint {r : Registry} {b : Blueprint}
    (h : (r.blueprint fingerprint interface source).1 = .ok b) (target : Target) :
    (r.build fingerprint interface source target).1 = (b.bind target).mapError .synthesis := by
  unfold Blueprint.bind
  by_cases hty : target.ty = b.source
  · rw [if_pos hty]
    exact build_eq_ok_iff.mpr ⟨b, h, hty, rfl⟩
  · rw [if_neg hty]
    exact build_eq_error_iff.mpr (Or.inr ⟨b, h, hty, rfl⟩)

/-- **What every build after every run is bound to**, around any instance or one of the type that
    the source describes. -/
theorem build_binds (fingerprint : Interface → UInt64) (config : Config) (past : List Move)
    (interface : Interface) (source : Source) :
    (∀ target, Binds fingerprint config past interface source target
      (((empty config).after fingerprint past).build fingerprint interface source target).1) ∧
    ∀ ref, Binds fingerprint config past interface source ⟨ref, source.ty⟩
      (((empty config).after fingerprint past).view fingerprint interface source ref).1 := by
  have hbuild : ∀ target, Binds fingerprint config past interface source target
      (((empty config).after fingerprint past).build fingerprint interface source target).1 := by
    intro target
    refine ⟨fun hnone => ?_, fun b hk hi => ⟨?_, ?_⟩, fun hsame => ?_⟩
    · have honly : OnlyFrom fingerprint config past interface source :=
        fun b _ hk hi => absurd hi (hnone b hk)
      exact honly.boundTo target
    · refine build_of_blueprint ?_ target
      rw [blueprint_of_keeps (regular_after fingerprint config past) hk, if_pos hi]
    · obtain ⟨origin, hkey, hminted⟩ := origin_of_kept past hk
      have hty : source.ty = origin.ty := congrArg Key.source hkey
      exact ⟨origin, hty.symm, hminted, boundTo_of_keeps hk hi hminted target⟩
    · exact (onlyFrom_of_presented hsame).boundTo target
  exact ⟨hbuild, fun ref => hbuild ⟨ref, source.ty⟩⟩

/-- The type of the demonstration target, described without methods. -/
def bare : Source := ⟨Demo.targetTy, []⟩

/-- The demonstration target, adapted once. -/
def adapted : List Move := [.build Demo.addNumbers.interface Demo.source ⟨0, Demo.targetTy⟩]

/-- **A build is not always bound to the source at hand.** Once the demonstration target is adapted,
    an adapter for another description of its type, one without methods, is given all the same. -/
theorem not_boundTo_second :
    ¬ BoundTo .reject Demo.addNumbers.interface bare
      (((empty .default).after (Interface.fingerprint Ty.digest) adapted).build
        (Interface.fingerprint Ty.digest) Demo.addNumbers.interface bare ⟨1, Demo.targetTy⟩).1 := by
  intro h
  -- the two builds have the same key, whatever the fingerprint of their interface is
  generalize Interface.fingerprint Ty.digest = fingerprint at h
  obtain ⟨e, he⟩ : ∃ e, slotsOver .reject Demo.addNumbers.interface bare = .error e := ⟨_, rfl⟩
  obtain ⟨b, hk, hi, hty⟩ : ∃ b, ((empty .default).after fingerprint adapted).cache.Keeps
        (key fingerprint Demo.addNumbers.interface Demo.targetTy) b ∧
      b.interface = Demo.addNumbers.interface ∧ b.source = Demo.targetTy :=
    ⟨_, List.mem_singleton_self _, rfl, rfl⟩
  have hreply : (((empty .default).after fingerprint adapted).build fingerprint
      Demo.addNumbers.interface bare ⟨1, Demo.targetTy⟩).1 = .ok ⟨b, ⟨1, Demo.targetTy⟩⟩ := by
    refine build_eq_ok_iff.mpr ⟨b, ?_, hty.symm, rfl⟩
    rw [blueprint_of_keeps (regular_after fingerprint .default _) hk, if_pos hi]
  rw [hreply] at h
  rcases h.fails e he with h | ⟨_, _, h⟩
  · cases h
  · cases h

end Structural.Registry
