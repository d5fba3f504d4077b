import Structural.Config
import Structural.Text.Blank
import Structural.Text.Numeral

/-!
# Configuration from variables

Two variables override a configuration, each its own field. Blanks around a value do not count.

* `CachePolicy.ofText?` -- `off`, `disabled` or `none`, or a number of adapter types to keep;
* `Ambiguity.ofText?` -- `first` or `first_match`, or `reject`;
* `Config.override` -- **both variables applied**. A value that is neither is reported and leaves
  its field as it was.
-/

namespace Structural

/-- The variable that sets the cache policy. -/
def cacheVariable : String := "GRAFT_CACHE"

/-- The variable that sets the ambiguity policy. -/
def ambiguityVariable : String := "GRAFT_AMBIGUITY"

/-- **The cache policy that a text names.** -/
def CachePolicy.ofText? (value : String) : Option CachePolicy :=
  let word := Text.trimBlanks value.toList
  if word ∈ ["off".toList, "disabled".toList, "none".toList] then some .disabled
  else
    match Text.readInt .size word with
    | .ok n => some (.lru n.toNat)
    | .error _ => none

/-- **The ambiguity policy that a text names.** -/
def Ambiguity.ofText? (value : String) : Option Ambiguity :=
  let word := Text.trimBlanks value.toList
  if word ∈ ["first".toList, "first_match".toList] then some .firstMatch
  else if word = "reject".toList then some .reject
  else none

/-- A variable whose value names no policy. -/
inductive Ignored where
  | cache (value : String)
  | ambiguity (value : String)
deriving DecidableEq, Repr

namespace Config

/-- The cache policy of a variable, or the one there was. -/
def overrideCache (c : Config) : Option String → Config × List Ignored
  | none => (c, [])
  | some value =>
    match CachePolicy.ofText? value with
    | some policy => ({ c with cache := policy }, [])
    | none => (c, [.cache value])

/-- The ambiguity policy of a variable, or the one there was. -/
def overrideAmbiguity (c : Config) : Option String → Config × List Ignored
  | none => (c, [])
  | some value =>
    match Ambiguity.ofText? value with
    | some policy => ({ c with ambiguity := policy }, [])
    | none => (c, [.ambiguity value])

/-- **A configuration overridden by variables**, and the values that were ignored. -/
def override (c : Config) (valueOf : String → Option String) : Config × List Ignored :=
  let (cached, ignored) := c.overrideCache (valueOf cacheVariable)
  let (decided, ignored') := cached.overrideAmbiguity (valueOf ambiguityVariable)
  (decided, ignored ++ ignored')

/-- The cache variable leaves the ambiguity policy alone. -/
theorem overrideCache_ambiguity (c : Config) (value : Option String) :
    (c.overrideCache value).1.ambiguity = c.ambiguity := by
  unfold overrideCache
  split
  · rfl
  · split <;> rfl

/-- The ambiguity variable leaves the cache policy alone. -/
theorem overrideAmbiguity_cache (c : Config) (value : Option String) :
    (c.overrideAmbiguity value).1.cache = c.cache := by
  unfold overrideAmbiguity
  split
  · rfl
  · split <;> rfl

end Config

end Structural
