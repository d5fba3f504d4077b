import Structural.Proofs.Cache.Contents

/-!
# A cache with a gap in its time

Two caches that went through the same operations, except that one of them was asked in vain a few
times more. Its clock is ahead, and so are the stamps of all that was used since; nothing else tells
the two apart. As a function from one cache to the other, which may rename the items as well, this
commutes with every operation.

* `skip` -- a number moved up by a gap, if it is not below a bound;
* `Cache.displaced` -- **the cache behind a gap**: items renamed, stamps not below a bound moved up,
  and as many misses more;
* `oldest?_displaced` -- the entry furthest back is the same one, since a gap keeps stamps in order;
* `lookup_displaced`, `insert_displaced`, `clear_displaced` -- **every operation does the same on both
  sides of a gap**, as long as its stamps are not below the bound;
* `displaced_of_before` -- a cache that holds nothing newer than the bound only gets ahead in time.
-/

namespace Structural

/-- A number, moved up by a gap if it is not below a bound. -/
def skip (bound gap n : Nat) : Nat :=
  if n < bound then n else n + gap

theorem skip_of_lt {bound n : Nat} (h : n < bound) (gap : Nat) : skip bound gap n = n :=
  if_pos h

theorem skip_of_le {bound n : Nat} (h : bound ≤ n) (gap : Nat) : skip bound gap n = n + gap :=
  if_neg (Nat.not_lt.mpr h)

/-- A gap keeps numbers in order. -/
theorem skip_lt_skip_iff (bound gap : Nat) {m n : Nat} :
    skip bound gap m < skip bound gap n ↔ m < n := by
  unfold skip
  split <;> split <;> omega

variable {κ α β : Type}

/-- The entry behind a gap. -/
def Entry.displaced (f : α → β) (bound gap : Nat) (e : Entry κ α) : Entry κ β :=
  ⟨e.key, f e.item, skip bound gap e.stamp⟩

/-- What is found, its item renamed. -/
def Lookup.map (f : α → β) : Lookup α → Lookup β
  | hit item => hit (f item)
  | miss => miss
  | clash item => clash (f item)

namespace Cache

/-- **The cache behind a gap.** -/
def displaced (f : α → β) (bound gap : Nat) (c : Cache κ α) : Cache κ β where
  capacity := c.capacity
  clock := c.clock + gap
  entries := c.entries.map (Entry.displaced f bound gap)
  hits := c.hits
  misses := c.misses + gap
  evictions := c.evictions

variable (f : α → β) (bound gap : Nat)

theorem size_displaced (c : Cache κ α) : (c.displaced f bound gap).size = c.size :=
  List.length_map _

/-! ## 1. The entry furthest back -/

theorem older_displaced (a b : Entry κ α) :
    older (a.displaced f bound gap) (b.displaced f bound gap) =
      (older a b).displaced f bound gap := by
  unfold older
  rw [apply_ite (Entry.displaced f bound gap)]
  exact if_congr (skip_lt_skip_iff bound gap) rfl rfl

theorem foldl_older_displaced (rest : List (Entry κ α)) (e : Entry κ α) :
    (rest.map (Entry.displaced f bound gap)).foldl older (e.displaced f bound gap) =
      (rest.foldl older e).displaced f bound gap := by
  induction rest generalizing e with
  | nil => rfl
  | cons b rest ih =>
      rw [List.map_cons, List.foldl_cons, List.foldl_cons, older_displaced]
      exact ih (older e b)

/-- **The entry furthest back is the same one** behind a gap. -/
theorem oldest?_displaced (entries : List (Entry κ α)) :
    oldest? (entries.map (Entry.displaced f bound gap)) =
      (oldest? entries).map (Entry.displaced f bound gap) := by
  cases entries with
  | nil => rfl
  | cons e rest => exact congrArg some (foldl_older_displaced f bound gap rest e)

/-! ## 2. Operations -/

/-- Dropping all entries leaves nothing to displace. -/
theorem clear_displaced (c : Cache κ α) :
    (c.displaced f bound gap).clear = c.clear.displaced f bound gap := rfl

variable [DecidableEq κ]

theorem find_displaced (c : Cache κ α) (key : κ) :
    Cache.entry? (c.displaced f bound gap) key =
      (Cache.entry? c key).map (Entry.displaced f bound gap) := by
  unfold entry? displaced
  rw [List.find?_map]
  rfl

theorem without_displaced (key : κ) (entries : List (Entry κ α)) :
    without key (entries.map (Entry.displaced f bound gap)) =
      (without key entries).map (Entry.displaced f bound gap) := by
  unfold without
  rw [List.filter_map]
  rfl

/-- A mark that is not below the bound is moved up as all others are. -/
theorem touch_displaced {stamp : Nat} (h : bound ≤ stamp) (key : κ) (entries : List (Entry κ α)) :
    touch key (stamp + gap) (entries.map (Entry.displaced f bound gap)) =
      (touch key stamp entries).map (Entry.displaced f bound gap) := by
  unfold touch
  rw [List.map_map, List.map_map]
  refine List.map_congr_left fun e _ => ?_
  by_cases hkey : e.key = key
  · simp [Entry.displaced, hkey, skip_of_le h]
  · simp [Entry.displaced, hkey]

/-- **A look-up finds the same** behind a gap, and leaves the same behind. -/
theorem lookup_displaced {c : Cache κ α} (h : bound ≤ c.clock + 1) (key : κ) (accepts : α → Bool)
    (accepts' : β → Bool) (ha : ∀ item, accepts' (f item) = accepts item) :
    (c.displaced f bound gap).lookup key accepts' =
      ((c.lookup key accepts).1.map f, (c.lookup key accepts).2.displaced f bound gap) := by
  have hnow : c.clock + gap + 1 = c.clock + 1 + gap := Nat.add_right_comm _ _ _
  have hmisses : c.misses + gap + 1 = c.misses + 1 + gap := Nat.add_right_comm _ _ _
  unfold lookup
  rw [find_displaced]
  cases he : c.entry? key with
  | none => simp only [Option.map_none, Lookup.map, displaced, hnow, hmisses]
  | some e =>
      have hitem : accepts' (e.displaced f bound gap).item = accepts e.item := ha e.item
      simp only [Option.map_some, hitem]
      split
      · simp only [Lookup.map, Entry.displaced, displaced, hnow,
          touch_displaced f bound gap h key c.entries]
      · simp only [Lookup.map, Entry.displaced, displaced, hnow, hmisses]

theorem evict_displaced (c : Cache κ α) :
    (c.displaced f bound gap).evict.2 = c.evict.2.displaced f bound gap := by
  have holdest : oldest? (c.displaced f bound gap).entries =
      (oldest? c.entries).map (Entry.displaced f bound gap) :=
    oldest?_displaced f bound gap c.entries
  unfold evict
  rw [holdest]
  cases oldest? c.entries with
  | none => rfl
  | some e =>
      have hrest := without_displaced f bound gap e.key c.entries
      simp only [Option.map_some, Entry.displaced, displaced] at hrest ⊢
      rw [hrest]

/-- **An insertion leaves the same** behind a gap: the same item makes room. -/
theorem insert_displaced {c : Cache κ α} (h : bound ≤ c.clock + 1) (key : κ) (item : α) :
    ((c.displaced f bound gap).insert key (f item)).2 =
      (c.insert key item).2.displaced f bound gap := by
  have hnow : c.clock + gap + 1 = c.clock + 1 + gap := Nat.add_right_comm _ _ _
  have hstored : ∀ roomy : Cache κ α,
      ({ roomy.displaced f bound gap with
          clock := c.clock + gap + 1,
          entries := ⟨key, f item, c.clock + gap + 1⟩ ::
            without key (roomy.displaced f bound gap).entries } : Cache κ β) =
        ({ roomy with
            clock := c.clock + 1,
            entries := ⟨key, item, c.clock + 1⟩ :: without key roomy.entries } :
          Cache κ α).displaced f bound gap := by
    intro roomy
    have hrest := without_displaced f bound gap key roomy.entries
    unfold displaced at hrest ⊢
    rw [hrest, hnow, List.map_cons, Entry.displaced, skip_of_le h]
  unfold insert
  rw [find_displaced, size_displaced, Option.isNone_map]
  have hcap : (c.displaced f bound gap).capacity = c.capacity := rfl
  have hclock : (c.displaced f bound gap).clock = c.clock + gap := rfl
  rw [hcap, hclock]
  by_cases hzero : c.capacity = 0
  · rw [if_pos hzero, if_pos hzero]
  · rw [if_neg hzero, if_neg hzero]
    dsimp only
    split
    · rw [evict_displaced]
      exact hstored c.evict.2
    · exact hstored c

/-! ## 3. The clock -/

theorem clock_lookup (c : Cache κ α) (key : κ) (accepts : α → Bool) :
    (c.lookup key accepts).2.clock = c.clock + 1 := by
  unfold lookup
  split
  · rfl
  · split <;> rfl

theorem clock_le_insert (c : Cache κ α) (key : κ) (item : α) :
    c.clock ≤ (c.insert key item).2.clock := by
  unfold insert
  split
  · exact Nat.le_refl _
  · exact Nat.le_succ _

omit [DecidableEq κ] in
/-- **A cache that holds nothing newer than the bound**, and nothing that is renamed, only gets ahead
    in time. -/
theorem displaced_of_before {g : α → α} {c : Cache κ α} (h : ∀ e ∈ c.entries, e.stamp < bound)
    (hg : ∀ e ∈ c.entries, g e.item = e.item) :
    c.displaced g bound gap = { c with clock := c.clock + gap, misses := c.misses + gap } := by
  have hentries : c.entries.map (Entry.displaced g bound gap) = c.entries := by
    conv_rhs => rw [← List.map_id c.entries]
    refine List.map_congr_left fun e he => ?_
    unfold Entry.displaced
    rw [hg e he, skip_of_lt (h e he)]
    rfl
  unfold displaced
  rw [hentries]

end Cache

end Structural
