import Structural.Demo.Arithmetic
import Structural.Proofs.Interface.Padding
import Structural.Proofs.Registry.Origin

/-!
# Interfaces that share a fingerprint

Two interfaces with one fingerprint have one key over every type, so that a registry keeps an adapter
type of one of them at a time. Such interfaces can be made on purpose, by NULs behind a name.

* `keeps_of_blueprint`, `build_of_vacant` -- a registry that keeps any keeps the adapter type handed
  out, and where nothing is kept under the key a mintable interface is built;
* `Clash` / `clash_of_fingerprint_eq` -- **what becomes of the two in one registry**: after the one,
  the other is refused as long as the first is kept; a registry that keeps none makes both;
* `padding_clashes` -- **a padded name is such a case**, for every interface and hash of types, after
  every run.
-/

namespace Structural

/-- An adapter type of the interface can be made over the source. -/
def Interface.Mintable (policy : Ambiguity) (interface : Interface) (source : Source) : Prop :=
  ∃ slots, slotsOver policy interface source = .ok slots

namespace Registry

variable {fingerprint : Interface → UInt64} {config : Config} {interface : Interface}
  {source : Source}

/-! ## 1. Adapter types kept and made -/

/-- **An adapter type handed out is kept**, if the registry keeps any. -/
theorem keeps_of_blueprint {r : Registry} (hr : r.cache.size ≤ r.cache.capacity)
    (hpos : r.cache.capacity ≠ 0) {b : Blueprint}
    (h : (r.blueprint fingerprint interface source).1 = .ok b) :
    (r.blueprint fingerprint interface source).2.cache.Keeps
      (key fingerprint interface source.ty) b := by
  have hasks := asks_blueprint fingerprint hr interface source
  generalize r.blueprint fingerprint interface source = p at hasks h
  cases hasks with
  | hit b' hk =>
      cases h
      unfold Cache.Keeps
      rw [contents_looked]
      exact hk
  | clash => cases h
  | refused => cases h
  | made slots _ hs =>
      cases h
      have hcapacity : ((r.looked fingerprint interface source.ty).mint interface
          source).2.cache.capacity ≠ 0 := by
        rw [mint_cache, looked_capacity]
        exact hpos
      obtain ⟨rest, hcontents, _⟩ := Cache.contents_insert hcapacity
        (key fingerprint interface source.ty) (.ofSlots r.nextId interface source slots)
      show _ ∈ (filed _ _ _).cache.contents
      rw [filed, hcontents]
      exact List.mem_cons_self

/-- A mintable interface of which nothing is kept is built. -/
theorem build_of_vacant {r : Registry} (hr : r.cache.size ≤ r.cache.capacity)
    (hk : ∀ b, ¬ r.cache.Keeps (key fingerprint interface source.ty) b)
    (hm : interface.Mintable r.config.ambiguity source) {target : Target}
    (ht : target.ty = source.ty) :
    ∃ a, (r.build fingerprint interface source target).1 = .ok a ∧ a.interface = interface := by
  obtain ⟨slots, hslots⟩ := hm
  have hb := blueprint_of_vacant hr hk
  rw [hslots] at hb
  exact ⟨_, build_eq_ok_iff.mpr ⟨_, hb, ht, rfl⟩, rfl⟩

/-! ## 2. Two interfaces under one key -/

/-- **Two interfaces that clash** in a registry, over a source. -/
structure Clash (fingerprint : Interface → UInt64) (r : Registry) (first second : Interface)
    (source : Source) : Prop where
  /-- While an adapter type of the first is kept, every build of the second reports a clash. -/
  resident : ∀ b, r.cache.Keeps (key fingerprint first source.ty) b → b.interface = first →
    ∀ target, (r.build fingerprint second source target).1 =
      .error (.synthesis (.identityCollision second.name (fingerprint second)))
  /-- No build of the second ever gives an adapter of the first. -/
  never : ∀ target a, (r.build fingerprint second source target).1 = .ok a → a.interface ≠ first
  /-- The first is kept as soon as it is built, so that the build of the second after it reports a
      clash. -/
  following : r.cache.capacity ≠ 0 → ∀ target a,
    (r.build fingerprint first source target).1 = .ok a →
      ∀ target', ((r.build fingerprint first source target).2.build fingerprint second source
        target').1 = .error (.synthesis (.identityCollision second.name (fingerprint second)))
  /-- It is built wherever nothing is kept under the key. -/
  built : (∀ b, ¬ r.cache.Keeps (key fingerprint first source.ty) b) →
    first.Mintable r.config.ambiguity source → ∀ target, target.ty = source.ty →
      ∃ a, (r.build fingerprint first source target).1 = .ok a ∧ a.interface = first
  /-- A registry that keeps none builds both. -/
  uncached : r.cache.capacity = 0 → first.Mintable r.config.ambiguity source →
    second.Mintable r.config.ambiguity source → ∀ target, target.ty = source.ty →
      (∃ a, (r.build fingerprint first source target).1 = .ok a ∧ a.interface = first) ∧
        ∃ a, (r.build fingerprint second source target).1 = .ok a ∧ a.interface = second

/-- While another interface stands under the key, a build reports a clash. -/
theorem build_of_resident {r : Registry} (hr : Regular config r) {first second : Interface}
    (hfingerprint : fingerprint second = fingerprint first) (hne : second ≠ first)
    {b : Blueprint} (hk : r.cache.Keeps (key fingerprint first source.ty) b)
    (hi : b.interface = first) (target : Target) :
    (r.build fingerprint second source target).1 =
      .error (.synthesis (.identityCollision second.name (fingerprint second))) := by
  have hkey : key fingerprint first source.ty = key fingerprint second source.ty := by
    unfold key
    rw [hfingerprint]
  rw [hkey] at hk
  have hother : b.interface ≠ second := by
    rw [hi]
    exact hne.symm
  have hblueprint := blueprint_of_keeps hr hk
  rw [if_neg hother] at hblueprint
  exact build_eq_error_iff.mpr (Or.inl hblueprint)

/-- **Two interfaces with one fingerprint clash** in every registry that is as runs leave it. -/
theorem clash_of_fingerprint_eq {r : Registry} (hr : Regular config r) {first second : Interface}
    (hfingerprint : fingerprint second = fingerprint first) (hne : second ≠ first)
    (source : Source) : Clash fingerprint r first second source where
  resident b hk hi target := build_of_resident hr hfingerprint hne hk hi target
  never target a ha := by
    obtain ⟨b, hb, _, rfl⟩ := build_eq_ok_iff.mp ha
    have hinterface : b.interface = second := (blueprint_eq_ok hr.bounded hb).1
    show b.interface ≠ first
    rw [hinterface]
    exact hne
  following hpos target a ha target' := by
    obtain ⟨b, hb, _, rfl⟩ := build_eq_ok_iff.mp ha
    have hinterface : b.interface = first := (blueprint_eq_ok hr.bounded hb).1
    rw [build_registry]
    have hafter : Regular config (r.blueprint fingerprint first source).2 :=
      hr.blueprint fingerprint first source
    have hkept := keeps_of_blueprint hr.bounded hpos hb
    exact build_of_resident hafter hfingerprint hne hkept hinterface target'
  built hk hm target ht := build_of_vacant hr.bounded hk hm ht
  uncached hzero hfirst hsecond target ht := by
    -- nothing is kept under any key
    have hnone : ∀ k b, ¬ r.cache.Keeps k b :=
      fun k b hk => hk.capacity_ne_zero hr.bounded hzero
    exact ⟨build_of_vacant hr.bounded (hnone _) hfirst ht,
      build_of_vacant hr.bounded (hnone _) hsecond ht⟩

/-! ## 3. Padded names -/

/-- **A name can be padded to a clash.** An interface and the same with NULs for which there is room
    behind one of its names are different and have one fingerprint, whatever the hash of types, and
    clash over every source after every run. -/
theorem padding_clashes (hash : Ty → UInt64) {first second : Interface} (h : first.PadsTo second) :
    second.fingerprint hash = first.fingerprint hash ∧ second ≠ first ∧
      ∀ config moves source, Clash (Interface.fingerprint hash)
        ((empty config).after (Interface.fingerprint hash) moves) first second source := by
  have hfingerprint := h.fingerprint_eq hash
  refine ⟨hfingerprint, h.ne, fun config moves source => ?_⟩
  exact clash_of_fingerprint_eq (regular_after _ config moves) hfingerprint h.ne source

/-- The demonstration interface, its name of ten letters with two NULs behind it: the second build in
    a new registry is refused, and one that keeps none makes both. -/
theorem padding_clashes_addNumbers :
    ∃ second : Interface, second.name = "AddNumbers\x00\x00" ∧
      Demo.addNumbers.interface.PadsTo second ∧
      second.fingerprint Ty.digest = Demo.addNumbers.interface.fingerprint Ty.digest ∧
      ((((empty .default).build (Interface.fingerprint Ty.digest) Demo.addNumbers.interface
        Demo.source ⟨0, Demo.targetTy⟩).2.build (Interface.fingerprint Ty.digest) second
          Demo.source ⟨0, Demo.targetTy⟩).1 =
        .error (.synthesis (.identityCollision second.name (second.fingerprint Ty.digest)))) ∧
      ∃ a, ((empty .uncached).build (Interface.fingerprint Ty.digest) second Demo.source
        ⟨0, Demo.targetTy⟩).1 = .ok a ∧ a.interface = second := by
  have hpads : Demo.addNumbers.interface.PadsTo (Demo.addNumbers.interface.padName 2) :=
    .own (.two (by decide))
  obtain ⟨hfingerprint, _, hclash⟩ := padding_clashes Ty.digest hpads
  have hcached := hclash .default [] Demo.source
  have huncached := hclash .uncached [] Demo.source
  obtain ⟨a, ha, _⟩ := hcached.built (fun b hb => nomatch hb) ⟨_, rfl⟩ ⟨0, Demo.targetTy⟩ rfl
  have hpos : (empty .default).cache.capacity ≠ 0 := by decide
  exact ⟨_, by decide, hpads, hfingerprint, hcached.following hpos _ a ha _,
    (huncached.uncached rfl ⟨_, rfl⟩ ⟨_, rfl⟩ ⟨0, Demo.targetTy⟩ rfl).2⟩

end Registry

end Structural
