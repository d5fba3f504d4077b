import Structural.Text.Outline

/-!
# Configuration

* `CachePolicy` -- whether adapter types are kept for reuse, and how many of them;
* `Ambiguity` -- what happens when several methods fit one slot;
* `Config` -- the two together. By default up to 256 adapter types are kept and an ambiguous match
  is an error.
-/

namespace Structural

/-- **How adapter types are reused.** -/
inductive CachePolicy where
  /-- A new adapter type for every build. -/
  | disabled
  /-- Up to `capacity` adapter types, the least recently used one makes room. A capacity of 0
      keeps none. -/
  | lru (capacity : Nat)
deriving DecidableEq, Repr

namespace CachePolicy

/-- How many adapter types are kept. -/
def capacity : CachePolicy → Nat
  | disabled => 0
  | lru n => n

/-- How a cache policy is built. -/
def outline : CachePolicy → String
  | disabled => "Disabled"
  | lru n => Text.record "Lru" [("capacity", toString n)]

end CachePolicy

/-- **What happens when several methods fit one slot.** -/
inductive Ambiguity where
  /-- The first one registered is taken. -/
  | firstMatch
  /-- The build fails. -/
  | reject
deriving DecidableEq, Repr

namespace Ambiguity

/-- The name of an ambiguity policy. -/
def outline : Ambiguity → String
  | firstMatch => "FirstMatch"
  | reject => "Reject"

end Ambiguity

/-- **The configuration of a registry.** -/
structure Config where
  cache : CachePolicy
  ambiguity : Ambiguity
deriving DecidableEq, Repr

namespace Config

/-- The default configuration. -/
def default : Config := ⟨.lru 256, .reject⟩

/-- The default configuration, nothing kept. -/
def uncached : Config := ⟨.disabled, .reject⟩

/-- How a configuration is built. -/
def outline (c : Config) : String :=
  Text.record "AdapterConfig" [("cache", c.cache.outline), ("ambiguity", c.ambiguity.outline)]

end Config

end Structural
