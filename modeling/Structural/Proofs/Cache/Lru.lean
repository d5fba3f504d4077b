import Structural.Proofs.Cache.Recency

/-!
# A cache is a list in order of last use

A cache beside a plain list of items under their keys, the one used last first, without stamps.

* `Lru` -- such a list with a capacity and counters. `Lru.lookup`, `Lru.insert` and `Lru.clear` say
  what the operations of a cache are meant to do;
* `Use` -- an operation with its arguments; `Cache.responses`, `Lru.responses` -- what a list of
  uses answers, with the counters after each;
* `Responds` -- the same for a cache whose entries may be stored in another order before each use;
* `Follows` / `Follows.use` -- **one use of a cache is one use of the list**;
* `DropsAtMostOne` -- an insertion takes one item away at most, the one it returns;
* `refines_lru` -- **every list of uses is answered as by the list**, however the entries are stored.
-/

namespace Structural

variable {κ α : Type}

/-! ## 1. The list -/

/-- **Items under their keys, the one used last first**, with a capacity and counters. -/
structure Lru (κ α : Type) where
  capacity : Nat
  items : Recency κ α
  hits : Nat
  misses : Nat
  evictions : Nat

namespace Lru

/-- A list without items. -/
def empty (capacity : Nat) : Lru κ α :=
  ⟨capacity, [], 0, 0, 0⟩

/-- The counters, the number of items and the capacity. -/
def stats (l : Lru κ α) : CacheStats :=
  ⟨l.hits, l.misses, l.evictions, l.items.length, l.capacity⟩

/-- All items dropped, the counters kept. -/
def clear (l : Lru κ α) : Lru κ α :=
  { l with items := [] }

variable [DecidableEq κ]

/-- **The item listed under a key, if it is one that the caller accepts**, goes to the front. One
    that is not accepted stays where it is. -/
def lookup (l : Lru κ α) (key : κ) (accepts : α → Bool) : Lookup α × Lru κ α :=
  match l.items.lookup key with
  | none => (.miss, { l with misses := l.misses + 1 })
  | some item =>
    if accepts item then
      (.hit item, { l with items := l.items.toFront key item, hits := l.hits + 1 })
    else (.clash item, { l with misses := l.misses + 1 })

/-- **An item put under a key**, and the item that made room for it: the last one, if the key is new
    and the list full. -/
def insert (l : Lru κ α) (key : κ) (item : α) : Option α × Lru κ α :=
  if l.capacity = 0 then (none, l)
  else if key ∈ l.items.keys then (none, { l with items := l.items.toFront key item })
  else if l.items.length < l.capacity then (none, { l with items := (key, item) :: l.items })
  else
    (l.items.getLast?.map Prod.snd,
      { l with items := (key, item) :: l.items.dropLast, evictions := l.evictions + 1 })

end Lru

/-! ## 2. Uses -/

namespace Cache

/-- **An operation of a cache.** -/
inductive Use (κ α : Type) where
  | lookup (key : κ) (accepts : α → Bool)
  | insert (key : κ) (item : α)
  | clear

/-- **What an operation answers.** -/
inductive Response (α : Type) where
  | found (l : Lookup α)
  /-- The item that made room, if any did. -/
  | evicted (item : Option α)
  | cleared

end Cache

variable [DecidableEq κ]

/-- One use of the list. -/
def Lru.use (l : Lru κ α) : Cache.Use κ α → Cache.Response α × Lru κ α
  | .lookup key accepts => (.found (l.lookup key accepts).1, (l.lookup key accepts).2)
  | .insert key item => (.evicted (l.insert key item).1, (l.insert key item).2)
  | .clear => (.cleared, l.clear)

/-- What a list of uses answers, and the counters after each. -/
def Lru.responses (l : Lru κ α) : List (Cache.Use κ α) → List (Cache.Response α × CacheStats)
  | [] => []
  | u :: rest => ((l.use u).1, (l.use u).2.stats) :: (l.use u).2.responses rest

namespace Cache

/-- One use of a cache. -/
def use (c : Cache κ α) : Use κ α → Response α × Cache κ α
  | .lookup key accepts => (.found (c.lookup key accepts).1, (c.lookup key accepts).2)
  | .insert key item => (.evicted (c.insert key item).1, (c.insert key item).2)
  | .clear => (.cleared, c.clear)

/-- What a list of uses answers, and the counters after each. -/
def responses (c : Cache κ α) : List (Use κ α) → List (Response α × CacheStats)
  | [] => []
  | u :: rest => ((c.use u).1, (c.use u).2.stats) :: (c.use u).2.responses rest

/-- The cache after a list of uses. -/
def afterUses (c : Cache κ α) : List (Use κ α) → Cache κ α
  | [] => c
  | u :: rest => (c.use u).2.afterUses rest

/-- The same entries, stored in another order. -/
def stored (c : Cache κ α) (entries : List (Entry κ α)) : Cache κ α :=
  { c with entries := entries }

/-- **What a list of uses may answer** if the entries are stored in any order before each use. -/
inductive Responds : Cache κ α → List (Use κ α) → List (Response α × CacheStats) → Prop where
  | nil (c : Cache κ α) : Responds c [] []
  | cons {c : Cache κ α} {entries : List (Entry κ α)} (h : entries.Perm c.entries) (u : Use κ α)
      {rest : List (Use κ α)} {later : List (Response α × CacheStats)}
      (hrest : Responds ((c.stored entries).use u).2 rest later) :
      Responds c (u :: rest)
        ((((c.stored entries).use u).1, ((c.stored entries).use u).2.stats) :: later)

theorem responds_responses : ∀ (c : Cache κ α) (uses : List (Use κ α)),
    Responds c uses (c.responses uses)
  | c, [] => .nil c
  | c, u :: rest => .cons (.refl c.entries) u (responds_responses (c.use u).2 rest)

/-! ## 3. One use -/

/-- **A cache follows a list**: the list is an order of last use, and the counters agree. -/
structure Follows (c : Cache κ α) (l : Lru κ α) : Prop where
  ranks : c.Ranks l.items
  bounded : c.size ≤ c.capacity
  capacity : c.capacity = l.capacity
  hits : c.hits = l.hits
  misses : c.misses = l.misses
  evictions : c.evictions = l.evictions

variable {c : Cache κ α} {l : Lru κ α}

omit [DecidableEq κ] in
theorem follows_empty (capacity : Nat) : (empty capacity : Cache κ α).Follows (.empty capacity) :=
  ⟨ranks_empty capacity, Nat.zero_le _, rfl, rfl, rfl, rfl⟩

omit [DecidableEq κ] in
theorem Follows.stats (h : c.Follows l) : c.stats = l.stats := by
  unfold Cache.stats Lru.stats
  rw [h.hits, h.misses, h.evictions, h.capacity, h.ranks.length]

omit [DecidableEq κ] in
/-- How the entries are stored plays no part. -/
theorem Follows.stored (h : c.Follows l) {entries : List (Entry κ α)}
    (hperm : entries.Perm c.entries) : (c.stored entries).Follows l :=
  ⟨h.ranks.of_perm hperm (Nat.le_refl _), Nat.le_trans (Nat.le_of_eq hperm.length_eq) h.bounded,
    h.capacity, h.hits, h.misses, h.evictions⟩

omit [DecidableEq κ] in
theorem Follows.clear (h : c.Follows l) : c.clear.Follows l.clear :=
  ⟨ranks_clear c, Nat.zero_le _, h.capacity, h.hits, h.misses, h.evictions⟩

theorem Follows.lookup (h : c.Follows l) (key : κ) (accepts : α → Bool) :
    (c.lookup key accepts).1 = (l.lookup key accepts).1 ∧
      (c.lookup key accepts).2.Follows (l.lookup key accepts).2 := by
  have hbounded : (c.lookup key accepts).2.size ≤ (c.lookup key accepts).2.capacity := by
    rw [lookup_size, lookup_capacity]
    exact h.bounded
  have hcapacity : (c.lookup key accepts).2.capacity = l.capacity :=
    (lookup_capacity c key accepts).trans h.capacity
  have hfound := found_lookup c key accepts
  generalize hanswer : (c.lookup key accepts).1 = answer at hfound
  -- a look-up that does not hit leaves the list as it is
  have hother : (∀ item, c.Keeps key item → accepts item = false) →
      (c.lookup key accepts).2.Follows { l with misses := l.misses + 1 } := by
    intro ha
    have hranks := h.ranks.lookup_unaccepted ha
    rw [lookup_snd_unaccepted ha] at hranks hbounded hcapacity ⊢
    exact ⟨hranks, hbounded, hcapacity, h.hits, congrArg (· + 1) h.misses, h.evictions⟩
  unfold Lru.lookup
  cases hfound with
  | hit item hk ha =>
      rw [Recency.lookup_eq_some_of_mem h.ranks.nodup (h.ranks.keeps_iff.mp hk)]
      dsimp only
      rw [if_pos ha]
      have hranks := h.ranks.lookup_hit accepts hk ha
      rw [lookup_eq_hit h.ranks.wellKeyed accepts hk ha] at hranks hbounded hcapacity ⊢
      exact ⟨rfl, hranks, hbounded, hcapacity, congrArg (· + 1) h.hits, h.misses, h.evictions⟩
  | clash item hk ha =>
      rw [Recency.lookup_eq_some_of_mem h.ranks.nodup (h.ranks.keeps_iff.mp hk)]
      dsimp only
      rw [if_neg (by rw [ha]; exact Bool.false_ne_true)]
      exact ⟨rfl, hother fun other hother => by rwa [hother.unique h.ranks.wellKeyed hk]⟩
  | miss hk =>
      have hnot : key ∉ l.items.keys := by
        rw [Recency.mem_keys]
        rintro ⟨item, hmem⟩
        exact hk item (h.ranks.keeps_iff.mpr hmem)
      rw [Recency.lookup_eq_none_of_not_mem hnot]
      exact ⟨rfl, hother fun item hitem => absurd hitem (hk item)⟩

theorem Follows.insert (h : c.Follows l) (key : κ) (item : α) :
    (c.insert key item).1 = (l.insert key item).1 ∧
      (c.insert key item).2.Follows (l.insert key item).2 := by
  unfold Lru.insert
  by_cases hzero : l.capacity = 0
  · rw [if_pos hzero, insert_of_capacity_eq_zero (h.capacity.trans hzero)]
    exact ⟨rfl, h⟩
  have hpos : c.capacity ≠ 0 := fun hc => hzero (h.capacity.symm.trans hc)
  -- what is left to compare is the order and the number of evictions
  have hfollows : ∀ {items : Recency κ α} {evictions : Nat},
      (c.insert key item).2.Ranks items → (c.insert key item).2.evictions = evictions →
        (c.insert key item).2.Follows { l with items := items, evictions := evictions } := by
    intro items evictions hranks hevictions
    refine ⟨hranks, ?_, (insert_snd_capacity c key item).trans h.capacity,
      (insert_snd_hits c key item).trans h.hits, (insert_snd_misses c key item).trans h.misses,
      hevictions⟩
    rw [insert_snd_capacity]
    exact size_insert_le h.bounded key item
  rw [if_neg hzero]
  by_cases hmem : key ∈ l.items.keys
  · obtain ⟨hnone, hevictions, hranks⟩ := h.ranks.insert_roomy hpos (Or.inl hmem) item
    rw [if_pos hmem]
    exact ⟨hnone, hfollows hranks (hevictions.trans h.evictions)⟩
  rw [if_neg hmem]
  by_cases hlt : l.items.length < l.capacity
  · rw [h.ranks.length, ← h.capacity] at hlt
    obtain ⟨hnone, hevictions, hranks⟩ := h.ranks.insert_roomy hpos (Or.inr hlt) item
    rw [if_pos (by rwa [h.ranks.length, ← h.capacity])]
    rw [Recency.toFront_of_not_mem hmem] at hranks
    exact ⟨hnone, hfollows hranks (hevictions.trans h.evictions)⟩
  · have hfull : c.capacity ≤ c.size := by
      rw [← h.ranks.length, h.capacity]
      exact Nat.not_lt.mp hlt
    obtain ⟨hlast, hevictions, hranks⟩ := h.ranks.insert_full hpos hmem hfull item
    rw [if_neg hlt]
    rw [Recency.toFront_of_not_mem (Recency.not_mem_keys_dropLast hmem)] at hranks
    exact ⟨hlast, hfollows hranks (hevictions.trans (congrArg (· + 1) h.evictions))⟩

/-- **One use of a cache is one use of the list that it follows.** -/
theorem Follows.use (h : c.Follows l) (u : Use κ α) :
    (c.use u).1 = (l.use u).1 ∧ (c.use u).2.Follows (l.use u).2 := by
  cases u with
  | lookup key accepts =>
      obtain ⟨hanswer, hafter⟩ := h.lookup key accepts
      exact ⟨congrArg Response.found hanswer, hafter⟩
  | insert key item =>
      obtain ⟨hanswer, hafter⟩ := h.insert key item
      exact ⟨congrArg Response.evicted hanswer, hafter⟩
  | clear => exact ⟨rfl, h.clear⟩

/-! ## 4. Lists of uses -/

theorem Follows.responses : ∀ {c : Cache κ α} {l : Lru κ α}, c.Follows l →
    ∀ uses : List (Use κ α), c.responses uses = l.responses uses
  | _, _, _, [] => rfl
  | c, l, h, u :: rest => by
      obtain ⟨hanswer, hafter⟩ := h.use u
      unfold Cache.responses Lru.responses
      rw [hanswer, hafter.stats, hafter.responses rest]

/-- Whatever order the entries are stored in, the answers are those of the list. -/
theorem Responds.eq_responses {uses : List (Use κ α)} {answers : List (Response α × CacheStats)}
    (h : Responds c uses answers) : ∀ {l : Lru κ α}, c.Follows l → answers = l.responses uses := by
  induction h with
  | nil => exact fun _ => rfl
  | cons hperm u _ ih =>
      intro l hl
      obtain ⟨hanswer, hafter⟩ := (hl.stored hperm).use u
      unfold Lru.responses
      rw [hanswer, hafter.stats, ih hafter]

theorem use_capacity (c : Cache κ α) (u : Use κ α) : (c.use u).2.capacity = c.capacity := by
  cases u with
  | lookup key accepts => exact lookup_capacity c key accepts
  | insert key item => exact insert_snd_capacity c key item
  | clear => rfl

/-- After every list of uses there is a list that the cache follows, of the same capacity. -/
theorem Follows.afterUses : ∀ {c : Cache κ α} {l : Lru κ α}, c.Follows l →
    ∀ uses : List (Use κ α),
      (c.afterUses uses).capacity = c.capacity ∧ ∃ l' : Lru κ α, (c.afterUses uses).Follows l'
  | _, l, h, [] => ⟨rfl, l, h⟩
  | c, l, h, u :: rest => by
      obtain ⟨hcapacity, hfollows⟩ := (h.use u).2.afterUses rest
      exact ⟨hcapacity.trans (use_capacity c u), hfollows⟩

/-- **An insertion takes one item away at most**, beside one that it replaces: the item that it
    returns and counts. All else that was kept under other keys still is. -/
def DropsAtMostOne (c : Cache κ α) (key : κ) (item : α) : Prop :=
  ∃ dropped : Recency κ α, dropped.length ≤ 1 ∧
    (c.insert key item).1 = dropped.head?.map Prod.snd ∧
    (c.insert key item).2.evictions = c.evictions + dropped.length ∧
    (Recency.without key (c.insert key item).2.contents ++ dropped).Perm
      (Recency.without key c.contents)

theorem Follows.dropsAtMostOne (h : c.Follows l) (key : κ) (item : α) :
    c.DropsAtMostOne key item := by
  by_cases hpos : c.capacity = 0
  · refine ⟨[], Nat.zero_le _, ?_⟩
    rw [insert_of_capacity_eq_zero hpos, List.append_nil]
    exact ⟨rfl, rfl, .refl _⟩
  -- under other keys there is after the insertion what the new order lists behind its front
  have hrest : ∀ {items : Recency κ α}, (c.insert key item).2.Ranks (items.toFront key item) →
      (Recency.without key (c.insert key item).2.contents).Perm (items.without key) := by
    intro items hranks
    have hperm := (hranks.perm.symm.filter fun p => decide (p.1 ≠ key))
    have hfront : Recency.without key (items.toFront key item) = items.without key := by
      simp [Recency.toFront, Recency.without]
    exact hfront ▸ hperm
  have hbefore : (l.items.without key).Perm (Recency.without key c.contents) :=
    h.ranks.perm.filter _
  by_cases hroom : key ∈ l.items.keys ∨ c.size < c.capacity
  · obtain ⟨hnone, hevictions, hranks⟩ := h.ranks.insert_roomy hpos hroom item
    refine ⟨[], Nat.zero_le _, hnone, hevictions, ?_⟩
    rw [List.append_nil]
    exact (hrest hranks).trans hbefore
  · obtain ⟨hnew, hfull⟩ := not_or.mp hroom
    obtain ⟨hlast, hevictions, hranks⟩ :=
      h.ranks.insert_full hpos hnew (Nat.not_lt.mp hfull) item
    have hne : l.items ≠ [] := by
      intro hnil
      have hlength := h.ranks.length
      rw [hnil, List.length_nil] at hlength
      omega
    have hsplit := List.dropLast_append_getLast hne
    rw [Recency.without_of_not_mem hnew] at hbefore
    refine ⟨[l.items.getLast hne], Nat.le_refl _, ?_, hevictions, ?_⟩
    · rw [hlast, List.getLast?_eq_some_getLast hne]
      rfl
    · have hperm := hrest hranks
      rw [Recency.without_of_not_mem (Recency.not_mem_keys_dropLast hnew)] at hperm
      exact ((hperm.append_right _).trans (.of_eq hsplit)).trans hbefore

/-- **A cache is a list in order of last use.** It answers every list of uses as the list does, in
    whatever order the entries are stored before each use; it never holds more than its capacity, and
    an insertion takes one item away at most. -/
theorem refines_lru (capacity : Nat) (uses : List (Use κ α)) :
    (empty capacity).responses uses = (Lru.empty capacity).responses uses ∧
      (∀ answers, Responds (empty capacity) uses answers ↔
        answers = (Lru.empty capacity).responses uses) ∧
      ((empty capacity).afterUses uses).size ≤ capacity ∧
      ∀ key item, ((empty capacity).afterUses uses).DropsAtMostOne key item := by
  have hresponses := (follows_empty capacity).responses uses
  obtain ⟨hcapacity, l, hl⟩ := (follows_empty capacity).afterUses uses
  refine ⟨hresponses, fun answers => ⟨fun h => h.eq_responses (follows_empty capacity), ?_⟩, ?_,
    hl.dropsAtMostOne⟩
  · rintro rfl
    exact hresponses ▸ responds_responses (empty capacity) uses
  · exact Nat.le_trans hl.bounded (Nat.le_of_eq hcapacity)

end Cache

end Structural
