import Structural.Demo.Arithmetic
import Structural.Proofs.Registry.Conformance

/-!
# Keeping adapter types is not seen

The same moves made on a registry that keeps adapter types and on one that keeps none.

* `Blueprint.Alike`, `Adapter.Alike` -- the same but for the id;
* `Compares` -- how two answers to the same move may differ: one of them reports that another
  interface stands under the key, otherwise both fail for the same reason or both are alike;
* `Consistent` -- moves that always present a type by the same source;
* `Separates` -- no two interfaces of the moves share a fingerprint;
* `caching_transparent` -- **consistent moves are answered alike**, and if the fingerprints separate
  the interfaces no clash is reported.

Without `Consistent` this fails: a kept adapter type forwards to the source that it was made from.
-/

namespace Structural

/-! ## 1. The same but for the id -/

/-- **Two blueprints that differ at most in their ids.** -/
structure Blueprint.Alike (b b' : Blueprint) : Prop where
  interface : b.interface = b'.interface
  source : b.source = b'.source
  name : b.name = b'.name
  slots : b.slots = b'.slots

/-- **Two adapters that no call tells apart**: their blueprints differ at most in their ids, and
    they wrap the same instance. -/
structure Adapter.Alike (a a' : Adapter) : Prop where
  blueprint : a.blueprint.Alike a'.blueprint
  target : a.target = a'.target
  invoke : ∀ slot args object, a.invoke slot args object = a'.invoke slot args object
  invokeTyped : ∀ t slot args object,
    a.invokeTyped t slot args object = a'.invokeTyped t slot args object

/-- Bound to the same instance, blueprints that are alike give adapters that are alike. -/
theorem Blueprint.Alike.bound {b b' : Blueprint} (h : b.Alike b') (target : Target) :
    Adapter.Alike ⟨b, target⟩ ⟨b', target⟩ := by
  have hinvoke : ∀ slot args object, Adapter.invoke ⟨b, target⟩ slot args object =
      Adapter.invoke ⟨b', target⟩ slot args object := by
    intro slot args object
    unfold Adapter.invoke
    rw [h.slots]
  refine ⟨h, rfl, hinvoke, fun t slot args object => ?_⟩
  unfold Adapter.invokeTyped
  rw [hinvoke]

/-- Two blueprints of one interface over one source are alike. -/
theorem Blueprint.IsOver.alike {policy : Ambiguity} {source : Source} {b b' : Blueprint}
    (h : b.IsOver policy source) (h' : b'.IsOver policy source)
    (hi : b.interface = b'.interface) : b.Alike b' where
  interface := hi
  source := h.ty.trans h'.ty.symm
  name := by rw [h.name, h'.name, hi]
  slots := by
    have hslots := h.slots
    rw [hi, h'.slots] at hslots
    exact (Except.ok.inj hslots).symm

namespace Registry

/-! ## 2. Answers compared -/

/-- **How two answers to the same move compare.** The first registry keeps adapter types, the second
    keeps none. -/
inductive Compares :
    Option (Except BuildError Adapter) → Option (Except BuildError Adapter) → Prop where
  | cleared : Compares none none
  /-- Another interface stands under the key. -/
  | clashed (name : String) (id : UInt64) (other : Except BuildError Adapter) :
      Compares (some (.error (.synthesis (.identityCollision name id)))) (some other)
  | failed (e : BuildError) : Compares (some (.error e)) (some (.error e))
  | built (a a' : Adapter) (h : a.Alike a') : Compares (some (.ok a)) (some (.ok a'))

/-- **Every type is always presented by the same source.** -/
def Consistent (moves : List Move) : Prop :=
  ∀ m ∈ moves, ∀ m' ∈ moves, ∀ interface source interface' source',
    m.asked? = some (interface, source) → m'.asked? = some (interface', source') →
      source.ty = source'.ty → source = source'

/-- **No two interfaces of the moves share a fingerprint.** -/
def Separates (fingerprint : Interface → UInt64) (moves : List Move) : Prop :=
  ∀ m ∈ moves, ∀ m' ∈ moves, ∀ interface source interface' source',
    m.asked? = some (interface, source) → m'.asked? = some (interface', source') →
      fingerprint interface = fingerprint interface' → interface = interface'

variable {fingerprint : Interface → UInt64} {policy : Ambiguity} {past : List Move}
  {interface : Interface} {source : Source}

/-- A registry that keeps none makes what it is asked for, after every run. -/
theorem blueprint_disabled (fingerprint : Interface → UInt64) (policy : Ambiguity)
    (past : List Move) (interface : Interface) (source : Source) :
    (((empty ⟨.disabled, policy⟩).after fingerprint past).blueprint fingerprint
        interface source).1 =
      (slotsOver policy interface source).map
        (.ofSlots ((empty ⟨.disabled, policy⟩).after fingerprint past).nextId interface source) := by
  have hregular := regular_after fingerprint ⟨.disabled, policy⟩ past
  have hnone : ∀ b, ¬ ((empty ⟨.disabled, policy⟩).after fingerprint past).cache.Keeps
      (key fingerprint interface source.ty) b := by
    intro b hk
    exact hk.capacity_ne_zero hregular.bounded hregular.capacity
  rw [blueprint_of_vacant hregular.bounded hnone, hregular.settings]

/-- **The adapter types that the two registries hand out.** That what is kept was made from the
    source at hand is all that has to be known of the past. -/
theorem blueprint_compares {c : Nat}
    (h : OnlyFrom fingerprint ⟨.lru c, policy⟩ past interface source) :
    (((empty ⟨.lru c, policy⟩).after fingerprint past).blueprint fingerprint
        interface source).1 =
      .error (.synthesis (.identityCollision interface.name (fingerprint interface))) ∨
    (∃ e, (((empty ⟨.lru c, policy⟩).after fingerprint past).blueprint fingerprint
          interface source).1 = .error e ∧
        (((empty ⟨.disabled, policy⟩).after fingerprint past).blueprint fingerprint
          interface source).1 = .error e) ∨
    ∃ b b', (((empty ⟨.lru c, policy⟩).after fingerprint past).blueprint fingerprint
          interface source).1 = .ok b ∧
        (((empty ⟨.disabled, policy⟩).after fingerprint past).blueprint fingerprint
          interface source).1 = .ok b' ∧ b.Alike b' := by
  rw [blueprint_disabled]
  have hregular := regular_after fingerprint ⟨.lru c, policy⟩ past
  cases hb : (((empty ⟨.lru c, policy⟩).after fingerprint past).blueprint fingerprint
      interface source).1 with
  | error e =>
      rcases blueprint_eq_error hregular.bounded hb with ⟨_, _, _, rfl⟩ | ⟨_, he⟩
      · exact Or.inl rfl
      · rw [hregular.settings] at he
        exact Or.inr (Or.inl ⟨e, rfl, by rw [he]; rfl⟩)
  | ok b =>
      obtain ⟨rfl, hover⟩ := h.isOver hb
      have hslots : slotsOver policy b.interface source = .ok b.slots := hover.slots
      rw [hslots]
      exact Or.inr (Or.inr ⟨b, _, rfl, rfl, hover.alike ⟨hslots, rfl, rfl⟩ rfl⟩)

/-! ## 3. Runs compared -/

/-- A build around an instance, compared. -/
theorem build_compares {c : Nat} (h : OnlyFrom fingerprint ⟨.lru c, policy⟩ past interface source)
    (target : Target) : Compares
      (some (((empty ⟨.lru c, policy⟩).after fingerprint past).build fingerprint
        interface source target).1)
      (some (((empty ⟨.disabled, policy⟩).after fingerprint past).build fingerprint
        interface source target).1) := by
  rcases blueprint_compares h with h | ⟨e, h, h'⟩ | ⟨b, b', h, h', halike⟩
  · rw [build_eq_error_iff.mpr (Or.inl h)]
    exact .clashed _ _ _
  · rw [build_eq_error_iff.mpr (Or.inl h), build_eq_error_iff.mpr (Or.inl h')]
    exact .failed e
  · by_cases hty : target.ty = b.source
    · rw [build_eq_ok_iff.mpr ⟨b, h, hty, rfl⟩,
        build_eq_ok_iff.mpr ⟨b', h', hty.trans halike.source, rfl⟩]
      exact .built _ _ (halike.bound target)
    · have hty' : target.ty ≠ b'.source := fun ht => hty (ht.trans halike.source.symm)
      rw [build_eq_error_iff.mpr (Or.inr ⟨b, h, hty, rfl⟩),
        build_eq_error_iff.mpr (Or.inr ⟨b', h', hty', rfl⟩), halike.name, halike.source]
      exact .failed _

/-- Where fingerprints separate the interfaces, what is kept under the key of a move is an adapter type
    of the interface that the move asks for. -/
theorem Separates.interface_eq {config : Config} {m : Move} {rest : List Move}
    (h : Separates fingerprint (past ++ m :: rest)) (hm : m.asked? = some (interface, source))
    {b : Blueprint} (hk : ((empty config).after fingerprint past).cache.Keeps
      (key fingerprint interface source.ty) b) : b.interface = interface := by
  -- what is kept was asked for in the past
  obtain ⟨origin, hkey, hminted⟩ := origin_of_kept past hk
  obtain ⟨m', hm', hasked'⟩ := hminted.presented.asked
  have hfp : fingerprint interface = fingerprint b.interface := congrArg Key.interface hkey
  exact h m' (List.mem_append_left _ hm') m (List.mem_append_right _ List.mem_cons_self)
    _ _ _ _ hasked' hm hfp.symm

/-- Where fingerprints separate the interfaces, no clash is reported. -/
theorem no_collision {config : Config} {moves : List Move} (h : Separates fingerprint moves)
    {name : String} {id : UInt64} :
    some (.error (.synthesis (.identityCollision name id))) ∉
      (empty config).replies fingerprint moves := by
  intro hmem
  obtain ⟨past, m, rest, rfl, hreply⟩ := mem_replies hmem
  rcases m.clear_or_asked with rfl | ⟨interface, source, hasked⟩
  · cases hreply
  obtain ⟨target, hmove⟩ :=
    move_of_asked fingerprint hasked ((empty config).after fingerprint past)
  rw [hmove] at hreply
  obtain ⟨_, _, _, b, hk, hi⟩ := (build_eq_collision_iff
    (regular_after fingerprint config past) target).mp (Option.some.inj hreply).symm
  exact hi (h.interface_eq hasked hk)

/-- **Keeping adapter types is not seen.** Moves that present every type by one source are answered
    by a registry of any capacity as by one that keeps none, up to ids and reported clashes; and
    where the fingerprints separate the interfaces there are no clashes. -/
theorem caching_transparent (fingerprint : Interface → UInt64) (c : Nat) (policy : Ambiguity)
    (moves : List Move) (hmoves : Consistent moves) :
    List.Forall₂ Compares ((empty ⟨.lru c, policy⟩).replies fingerprint moves)
        ((empty ⟨.disabled, policy⟩).replies fingerprint moves) ∧
      (Separates fingerprint moves → ∀ name id,
        some (.error (.synthesis (.identityCollision name id))) ∉
          (empty ⟨.lru c, policy⟩).replies fingerprint moves) := by
  refine ⟨forall₂_replies fun past m rest hsplit => ?_, fun h _ _ => no_collision h⟩
  subst hsplit
  have hm : m ∈ past ++ m :: rest := List.mem_append_right _ List.mem_cons_self
  have honly : ∀ {interface : Interface} {source : Source},
      m.asked? = some (interface, source) →
        OnlyFrom fingerprint ⟨.lru c, policy⟩ past interface source := by
    intro interface source hasked
    refine onlyFrom_of_presented fun origin hpresented hty => ?_
    obtain ⟨m', hm', hasked'⟩ := hpresented.asked
    exact hmoves m' (List.mem_append_left _ hm') m hm _ _ _ _ hasked' hasked hty
  cases m with
  | build interface source target => exact build_compares (honly rfl) target
  | view interface source ref => exact build_compares (honly rfl) ⟨ref, source.ty⟩
  | clear => exact .cleared

/-- The interface without methods and that of the demonstration, asked for in turn. -/
def inTurn : List Move :=
  [.view Demo.addNumbers.interface Demo.source 0, .build ⟨"Nothing", []⟩ Demo.source ⟨1, .string⟩,
   .view ⟨"Nothing", []⟩ Demo.source 1, .clear,
   .build Demo.addNumbers.interface Demo.source ⟨2, .i32⟩,
   .build Demo.addNumbers.interface Demo.source ⟨2, Demo.targetTy⟩]

theorem asked_inTurn : ∀ m ∈ inTurn, ∀ interface source, m.asked? = some (interface, source) →
    (interface = Demo.addNumbers.interface ∨ interface = ⟨"Nothing", []⟩) ∧
      source = Demo.source := by
  intro m hm interface source hasked
  simp only [inTurn, List.mem_cons, List.not_mem_nil, or_false] at hm
  rcases hm with rfl | rfl | rfl | rfl | rfl | rfl <;> cases hasked <;> simp

theorem separates_inTurn : Separates (Interface.fingerprint Ty.digest) inTurn := by
  intro m hm m' hm' _ _ _ _ h h' hfp
  rcases (asked_inTurn m hm _ _ h).1 with rfl | rfl <;>
    rcases (asked_inTurn m' hm' _ _ h').1 with rfl | rfl
  · rfl
  · exact absurd hfp (by decide)
  · exact absurd hfp (by decide)
  · rfl

/-- A registry that keeps one adapter type. -/
theorem caching_transparent_inTurn :
    Consistent inTurn ∧ Separates (Interface.fingerprint Ty.digest) inTurn ∧
      List.Forall₂ Compares
        ((empty ⟨.lru 1, .reject⟩).replies (Interface.fingerprint Ty.digest) inTurn)
        ((empty ⟨.disabled, .reject⟩).replies (Interface.fingerprint Ty.digest) inTurn) ∧
      ∀ name id, some (.error (.synthesis (.identityCollision name id))) ∉
        (empty ⟨.lru 1, .reject⟩).replies (Interface.fingerprint Ty.digest) inTurn := by
  have hconsistent : Consistent inTurn := by
    intro m hm m' hm' _ _ _ _ h h' _
    rw [(asked_inTurn m hm _ _ h).2, (asked_inTurn m' hm' _ _ h').2]
  obtain ⟨hcompares, hclash⟩ :=
    caching_transparent (Interface.fingerprint Ty.digest) 1 .reject inTurn hconsistent
  exact ⟨hconsistent, separates_inTurn, hcompares, hclash separates_inTurn⟩

end Registry

end Structural
