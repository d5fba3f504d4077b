import Structural.Adapter
import Structural.Cache
import Structural.Interface.Fingerprint

/-!
# Registries

A registry makes adapter types and keeps some of them, so that builds for the same interface over
the same type share one.

* `Key` -- what an adapter type is kept under: the fingerprint of its interface and the type it
  wraps. The methods that a description of the type lists are *not* part of the key;
* `Registry.mint` -- a new adapter type. An id is used up as soon as the interface is resolved;
* `Registry.blueprint` -- **the adapter type for an interface over a source**, kept or new. A
  registry that keeps none does not count hits and misses either;
* `Registry.build` -- **an adapter around an instance**;
* `Registry.view` -- the same for an instance that is known to be of the type described.

Fingerprints come in as a function from interfaces to numbers; nothing is assumed of it. The next
id and the number of adapter types made are natural numbers, as the counters of a cache are; words
of 64 bits are the same for fewer than `2 ^ 63` requests, each of which is at most two operations of
the cache.
-/

namespace Structural

/-- What an adapter type is kept under. -/
structure Key where
  interface : UInt64
  source : Ty
deriving DecidableEq, Repr

/-- **A registry of adapter types.** -/
structure Registry where
  config : Config
  /-- The id that the next adapter type gets. -/
  nextId : Nat
  /-- How many adapter types were made. -/
  minted : Nat
  cache : Cache Key Blueprint

/-- What a registry reports of itself. -/
structure RegistryStats where
  minted : Nat
  cache : CacheStats
deriving DecidableEq, Repr

namespace Registry

/-- A registry that has made nothing yet. -/
def empty (config : Config) : Registry :=
  ⟨config, 0, 0, .empty config.cache.capacity⟩

/-- The key of an interface over a type. -/
def key (fingerprint : Interface → UInt64) (interface : Interface) (source : Ty) : Key :=
  ⟨fingerprint interface, source⟩

/-- **A new adapter type.** -/
def mint (r : Registry) (interface : Interface) (source : Source) :
    Except BuildError Blueprint × Registry :=
  match resolve r.config.ambiguity interface source with
  | .error e => (.error (.resolution e), r)
  | .ok table =>
    let spent := { r with nextId := r.nextId + 1 }
    match Blueprint.synthesize r.nextId interface source table with
    | .error (.refused e) => (.error (.synthesis e), spent)
    | .error (.outOfBounds e) => (.error (.outOfBounds e), spent)
    | .ok b => (.ok b, { spent with minted := r.minted + 1 })

/-- **The adapter type for an interface over a source.** -/
def blueprint (fingerprint : Interface → UInt64) (r : Registry) (interface : Interface)
    (source : Source) : Except BuildError Blueprint × Registry :=
  if r.cache.capacity = 0 then r.mint interface source
  else
    let key := key fingerprint interface source.ty
    match r.cache.lookup key fun b => decide (b.interface = interface) with
    | (.hit b, cache) => (.ok b, { r with cache := cache })
    | (.clash _, cache) =>
      (.error (.synthesis (.identityCollision interface.name (fingerprint interface))),
        { r with cache := cache })
    | (.miss, cache) =>
      match mint { r with cache := cache } interface source with
      | (.error e, after) => (.error e, after)
      | (.ok b, after) => (.ok b, { after with cache := (after.cache.insert key b).2 })

/-- **An adapter around an instance.** -/
def build (fingerprint : Interface → UInt64) (r : Registry) (interface : Interface)
    (source : Source) (target : Target) : Except BuildError Adapter × Registry :=
  match r.blueprint fingerprint interface source with
  | (.error e, after) => (.error e, after)
  | (.ok b, after) =>
    match b.bind target with
    | .error e => (.error (.synthesis e), after)
    | .ok a => (.ok a, after)

/-- **An adapter around an instance of the type described.** -/
def view (fingerprint : Interface → UInt64) (r : Registry) (interface : Interface)
    (source : Source) (ref : Nat) : Except BuildError Adapter × Registry :=
  r.build fingerprint interface source ⟨ref, source.ty⟩

/-- The adapter types kept are dropped. Adapters that exist keep theirs. -/
def clear (r : Registry) : Registry :=
  { r with cache := r.cache.clear }

/-- What a registry reports of itself. -/
def stats (r : Registry) : RegistryStats :=
  ⟨r.minted, r.cache.stats⟩

/-- A mint leaves the cache as it is. -/
theorem mint_cache (r : Registry) (interface : Interface) (source : Source) :
    (r.mint interface source).2.cache = r.cache := by
  unfold mint
  split
  · rfl
  · split <;> rfl

end Registry

end Structural
