/-!
# A cache with a bounded number of entries

A cache keeps items under keys, at most `capacity` of them. When a new key finds the cache full,
the item whose last use lies furthest back makes room. Uses are told apart by stamps of a clock
that moves with every look-up and every insertion.

* `Cache.lookup` -- **the item under a key**, if it is one that the caller accepts: a hit, which
  counts as a use. An item under the key that is not accepted is a *clash*; it stays, its last use
  stays, and the look-up counts as a miss;
* `Cache.insert` -- **an item put under a key**. The item it replaces, if any, is dropped silently;
  an item that has to make room for a new key is returned. At capacity 0 nothing happens;
* `Cache.clear` -- all items dropped, the counters kept;
* `Cache.stats` -- the counters, the number of items and the capacity.

Clock and counters are natural numbers. Each operation moves each of them by at most one, so words
of 64 bits are the same for fewer than `2 ^ 64` operations.
-/

namespace Structural

/-- An item with its key and the stamp of its last use. -/
structure Entry (κ α : Type) where
  key : κ
  item : α
  stamp : Nat

/-- **A cache.** -/
structure Cache (κ α : Type) where
  capacity : Nat
  clock : Nat
  entries : List (Entry κ α)
  hits : Nat
  misses : Nat
  evictions : Nat

/-- What a look-up finds. -/
inductive Lookup (α : Type) where
  | hit (item : α)
  | miss
  /-- The key is taken by an item that the caller does not accept. -/
  | clash (item : α)

/-- The counters of a cache, the number of its items and its capacity. -/
structure CacheStats where
  hits : Nat
  misses : Nat
  evictions : Nat
  size : Nat
  capacity : Nat
deriving DecidableEq, Repr

namespace Cache

variable {κ α : Type}

/-! ## 1. Reading -/

/-- A cache without items. -/
def empty (capacity : Nat) : Cache κ α :=
  ⟨capacity, 0, [], 0, 0, 0⟩

/-- The number of items. -/
def size (c : Cache κ α) : Nat :=
  c.entries.length

/-- The counters, the number of items and the capacity. -/
def stats (c : Cache κ α) : CacheStats :=
  ⟨c.hits, c.misses, c.evictions, c.size, c.capacity⟩

/-- The entry under a key. -/
def entry? [DecidableEq κ] (c : Cache κ α) (key : κ) : Option (Entry κ α) :=
  c.entries.find? (·.key = key)

/-- Of two entries the one whose last use lies further back. -/
def older (a b : Entry κ α) : Entry κ α :=
  if b.stamp < a.stamp then b else a

/-- **The entry whose last use lies furthest back.** -/
def oldest? : List (Entry κ α) → Option (Entry κ α)
  | [] => none
  | e :: rest => some (rest.foldl older e)

/-! ## 2. Writing -/

/-- The entries without the one under a key. -/
def without [DecidableEq κ] (key : κ) (entries : List (Entry κ α)) : List (Entry κ α) :=
  entries.filter (·.key ≠ key)

/-- The entries with the one under a key marked as used at a stamp. -/
def touch [DecidableEq κ] (key : κ) (stamp : Nat) (entries : List (Entry κ α)) :
    List (Entry κ α) :=
  entries.map fun e => if e.key = key then { e with stamp := stamp } else e

/-- **The item under a key, if it is one that the caller accepts.** -/
def lookup [DecidableEq κ] (c : Cache κ α) (key : κ) (accepts : α → Bool) :
    Lookup α × Cache κ α :=
  let now := c.clock + 1
  match c.entry? key with
  | none => (.miss, { c with clock := now, misses := c.misses + 1 })
  | some e =>
    if accepts e.item then
      (.hit e.item,
        { c with clock := now, hits := c.hits + 1, entries := touch key now c.entries })
    else
      (.clash e.item, { c with clock := now, misses := c.misses + 1 })

/-- The entry furthest back dropped, and its item. -/
def evict [DecidableEq κ] (c : Cache κ α) : Option α × Cache κ α :=
  match oldest? c.entries with
  | none => (none, c)
  | some e =>
    (some e.item,
      { c with entries := without e.key c.entries, evictions := c.evictions + 1 })

/-- **An item put under a key**, and the item that made room for it. -/
def insert [DecidableEq κ] (c : Cache κ α) (key : κ) (item : α) : Option α × Cache κ α :=
  if c.capacity = 0 then (none, c)
  else
    let now := c.clock + 1
    let full := (c.entry? key).isNone && c.capacity ≤ c.size
    let (evicted, roomy) := if full then c.evict else (none, c)
    (evicted,
      { roomy with clock := now, entries := ⟨key, item, now⟩ :: without key roomy.entries })

/-- All items dropped. -/
def clear (c : Cache κ α) : Cache κ α :=
  { c with entries := [] }

/-! ## 3. What an operation leaves as it was -/

@[simp] theorem stats_empty (capacity : Nat) :
    (empty capacity : Cache κ α).stats = ⟨0, 0, 0, 0, capacity⟩ := rfl

@[simp] theorem lookup_capacity [DecidableEq κ] (c : Cache κ α) (key : κ) (accepts : α → Bool) :
    (c.lookup key accepts).2.capacity = c.capacity := by
  unfold lookup
  split
  · rfl
  · split <;> rfl

@[simp] theorem lookup_evictions [DecidableEq κ] (c : Cache κ α) (key : κ)
    (accepts : α → Bool) : (c.lookup key accepts).2.evictions = c.evictions := by
  unfold lookup
  split
  · rfl
  · split <;> rfl

/-- A look-up neither adds nor drops items. -/
@[simp] theorem lookup_size [DecidableEq κ] (c : Cache κ α) (key : κ) (accepts : α → Bool) :
    (c.lookup key accepts).2.size = c.size := by
  unfold lookup
  split
  · rfl
  · split
    · simp [size, touch]
    · rfl

/-- An insertion does nothing at capacity 0. -/
theorem insert_of_capacity_eq_zero [DecidableEq κ] {c : Cache κ α} (h : c.capacity = 0)
    (key : κ) (item : α) : c.insert key item = (none, c) := by
  simp [insert, h]

end Cache

end Structural
