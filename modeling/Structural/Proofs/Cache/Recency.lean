import Structural.Proofs.Cache.Contents

/-!
# The order of last use

A cache tells uses apart by stamps, and how it stores its entries does not matter. Here it is read
as a list of items under their keys, the one used last first.

* `Recency`, `Recency.toFront` -- such a list, and an item put at its front under its key;
* `Cache.oldest?_eq_some_of` -- the entry furthest back is the one with the least stamp, wherever it
  is stored;
* `Cache.InOrder` -- the entries sorted by their stamps, none of them ahead of the clock;
* `Cache.Ranks` -- **a cache has its items in an order of last use**;
* `Ranks.lookup_hit`, `Ranks.lookup_unaccepted`, `Ranks.evict`, `Ranks.insert_roomy`,
  `Ranks.insert_full` -- what an operation does to the order. A hit and an insertion put an item at
  the front, and the item that makes room is the last one;
* `Ranks.insert` -- the two insertions in one: as many of the items as there is room for.
-/

namespace Structural

variable {κ α : Type}

/-! ## 1. Lists in order of last use -/

/-- Items under their keys, the one used last first. -/
abbrev Recency (κ α : Type) := List (κ × α)

namespace Recency

/-- The keys, the one used last first. -/
def keys (items : Recency κ α) : List κ :=
  items.map Prod.fst

theorem mem_keys {items : Recency κ α} {key : κ} :
    key ∈ items.keys ↔ ∃ item, (key, item) ∈ items := by
  simp [keys]

theorem length_keys (items : Recency κ α) : items.keys.length = items.length :=
  List.length_map _

theorem keys_take (items : Recency κ α) (n : Nat) : keys (items.take n) = items.keys.take n :=
  List.map_take

theorem not_mem_keys_dropLast {items : Recency κ α} {key : κ} (h : key ∉ items.keys) :
    key ∉ keys items.dropLast :=
  fun hmem => h (((List.dropLast_sublist items).map _).subset hmem)

variable [DecidableEq κ]

/-- The items under other keys. -/
def without (key : κ) (items : Recency κ α) : Recency κ α :=
  items.filter (·.1 ≠ key)

/-- **An item put at the front under its key**; what stood there before is dropped. -/
def toFront (items : Recency κ α) (key : κ) (item : α) : Recency κ α :=
  (key, item) :: items.without key

theorem without_of_not_mem {items : Recency κ α} {key : κ} (h : key ∉ items.keys) :
    items.without key = items := by
  refine List.filter_eq_self.mpr fun p hp => decide_eq_true fun hkey => h ?_
  rw [← hkey]
  exact List.mem_map_of_mem hp

/-- A new key is put in front of all that there is. -/
theorem toFront_of_not_mem {items : Recency κ α} {key : κ} (h : key ∉ items.keys) (item : α) :
    items.toFront key item = (key, item) :: items := by
  rw [toFront, without_of_not_mem h]

/-- Dropping a key that is listed makes the list shorter. -/
theorem length_without_lt {items : Recency κ α} {key : κ} (h : key ∈ items.keys) :
    (items.without key).length < items.length := by
  obtain ⟨p, hp, hkey⟩ := List.mem_map.mp h
  exact List.length_filter_lt_length_iff_exists.mpr ⟨p, hp, by simp [hkey]⟩

theorem keys_without (items : Recency κ α) (key : κ) :
    (items.without key).keys = items.keys.filter (· ≠ key) := by
  unfold keys without
  rw [List.filter_map]
  rfl

theorem keys_toFront (items : Recency κ α) (key : κ) (item : α) :
    (items.toFront key item).keys = key :: items.keys.filter (· ≠ key) := by
  rw [← keys_without]
  rfl

theorem nodup_toFront {items : Recency κ α} (h : items.keys.Nodup) (key : κ) (item : α) :
    (items.toFront key item).keys.Nodup := by
  rw [keys_toFront, List.nodup_cons]
  exact ⟨fun hmem => of_decide_eq_true (List.mem_filter.mp hmem).2 rfl, h.filter _⟩

/-- Where no key stands twice, dropping one takes one item away at most. -/
theorem length_le_without {items : Recency κ α} (h : items.keys.Nodup) (key : κ) :
    items.length ≤ (items.without key).length + 1 := by
  have hcount := List.nodup_iff_count_le_one.mp h key
  have hsplit := List.length_eq_countP_add_countP (fun p : κ × α => p.1 == key) (l := items)
  have hkey : items.keys.count key = items.countP fun p => p.1 == key := by
    unfold keys List.count
    rw [List.countP_map]
    rfl
  have hother : (items.without key).length = items.countP fun p => ¬ (p.1 == key) = true := by
    unfold without
    rw [List.countP_eq_length_filter]
    simp
  omega

/-- A key that is listed makes the list no longer. -/
theorem length_toFront_of_mem {items : Recency κ α} (h : items.keys.Nodup) {key : κ}
    (hmem : key ∈ items.keys) (item : α) : (items.toFront key item).length = items.length := by
  have hle := length_le_without h key
  have hlt := length_without_lt hmem
  rw [toFront, List.length_cons]
  omega

/-- Where no key stands twice, what is listed under a key is what a search for it finds. -/
theorem lookup_eq_some_of_mem {items : Recency κ α} {key : κ} {item : α} (h : items.keys.Nodup)
    (hmem : (key, item) ∈ items) : items.lookup key = some item := by
  obtain ⟨front, back, rfl⟩ := List.append_of_mem hmem
  rw [keys, List.map_append, List.nodup_append] at h
  refine List.lookup_eq_some_iff.mpr ⟨front, back, rfl, fun p hp => bne_iff_ne.mpr fun heq => ?_⟩
  exact h.2.2 _ (List.mem_map_of_mem hp) _ List.mem_cons_self heq.symm

theorem lookup_eq_none_of_not_mem {items : Recency κ α} {key : κ} (h : key ∉ items.keys) :
    items.lookup key = none := by
  refine List.lookup_eq_none_iff.mpr fun p hp => bne_iff_ne.mpr fun heq => h ?_
  rw [heq]
  exact List.mem_map_of_mem hp

end Recency

namespace Cache

/-! ## 2. The least stamp -/

theorem foldl_older_le : ∀ (rest : List (Entry κ α)) (e : Entry κ α),
    ∀ x ∈ e :: rest, (rest.foldl older e).stamp ≤ x.stamp
  | [], e, x, hx => by
      rw [List.mem_singleton.mp hx]
      exact Nat.le_refl _
  | b :: rest, e, x, hx => by
      rw [List.foldl_cons]
      have hle := foldl_older_le rest (older e b)
      have hhead := hle (older e b) List.mem_cons_self
      -- the older of the two has a stamp that is not above either
      have hboth : (older e b).stamp ≤ e.stamp ∧ (older e b).stamp ≤ b.stamp := by
        unfold older
        split <;> omega
      rcases List.mem_cons.mp hx with rfl | hx
      · exact Nat.le_trans hhead hboth.1
      · rcases List.mem_cons.mp hx with rfl | hx
        · exact Nat.le_trans hhead hboth.2
        · exact hle x (List.mem_cons_of_mem _ hx)

/-- **No entry has a lesser stamp than the one furthest back.** -/
theorem oldest?_le : ∀ {entries : List (Entry κ α)} {e : Entry κ α},
    oldest? entries = some e → ∀ x ∈ entries, e.stamp ≤ x.stamp
  | [], _, h => by cases h
  | first :: rest, e, h => by
      have he : rest.foldl older first = e := Option.some.inj h
      rw [← he]
      exact foldl_older_le rest first

/-- **Where no two stamps are the same, the entry furthest back is the one with the least.** The
    order in which the entries are stored plays no part. -/
theorem oldest?_eq_some_of {entries : List (Entry κ α)} {e : Entry κ α} (he : e ∈ entries)
    (hleast : ∀ x ∈ entries, x = e ∨ e.stamp < x.stamp) : oldest? entries = some e := by
  cases ho : oldest? entries with
  | none =>
      cases entries with
      | nil => cases he
      | cons first rest => cases ho
  | some o =>
      rcases hleast o (oldest?_mem ho) with rfl | hlt
      · rfl
      · exact absurd hlt (Nat.not_lt.mpr (oldest?_le ho e he))

/-! ## 3. Caches in order -/

/-- **The entries in order of last use**, the one used last first. -/
structure InOrder (c : Cache κ α) (order : List (Entry κ α)) : Prop where
  perm : order.Perm c.entries
  falling : order.Pairwise fun a b => b.stamp < a.stamp
  past : ∀ e ∈ order, e.stamp ≤ c.clock

/-- **A cache has its items in an order of last use**, and none of its keys stands twice. -/
structure Ranks (c : Cache κ α) (items : Recency κ α) : Prop where
  wellKeyed : c.WellKeyed
  inOrder : ∃ order, c.InOrder order ∧ order.map Entry.pair = items

variable {c : Cache κ α} {items : Recency κ α}

theorem wellKeyed_iff : c.WellKeyed ↔ (c.entries.map Entry.key).Nodup := by
  unfold WellKeyed contents
  rw [List.map_map]
  rfl

/-- Where no key stands twice, the other entries have other keys. -/
theorem key_ne_of_nodup {front back : List (Entry κ α)} {e : Entry κ α}
    (h : ((front ++ e :: back).map Entry.key).Nodup) :
    (∀ x ∈ front, x.key ≠ e.key) ∧ ∀ x ∈ back, x.key ≠ e.key := by
  rw [List.map_append, List.map_cons, List.nodup_append, List.nodup_cons] at h
  obtain ⟨_, ⟨hback, _⟩, hfront⟩ := h
  refine ⟨fun x hx => ?_, fun x hx heq => hback ?_⟩
  · exact hfront _ (List.mem_map_of_mem hx) _ List.mem_cons_self
  · exact List.mem_map.mpr ⟨x, hx, heq⟩

theorem ranks_empty (capacity : Nat) : (empty capacity : Cache κ α).Ranks [] :=
  ⟨wellKeyed_empty capacity, [], ⟨.refl _, .nil, fun _ h => by cases h⟩, rfl⟩

theorem ranks_clear (c : Cache κ α) : c.clear.Ranks [] :=
  ⟨wellKeyed_clear c, [], ⟨.refl _, .nil, fun _ h => by cases h⟩, rfl⟩

theorem Ranks.perm (h : c.Ranks items) : items.Perm c.contents := by
  obtain ⟨order, horder, rfl⟩ := h.inOrder
  exact horder.perm.map Entry.pair

/-- What is kept is listed, and nothing else. -/
theorem Ranks.keeps_iff (h : c.Ranks items) {key : κ} {item : α} :
    c.Keeps key item ↔ (key, item) ∈ items :=
  h.perm.mem_iff.symm

theorem Ranks.length (h : c.Ranks items) : items.length = c.size := by
  rw [h.perm.length_eq, length_contents]

theorem Ranks.nodup (h : c.Ranks items) : items.keys.Nodup :=
  (h.perm.map Prod.fst).nodup_iff.mpr h.wellKeyed

/-- An order of last use is one however the entries are stored, and at any later time. -/
theorem Ranks.of_perm {c' : Cache κ α} (h : c.Ranks items) (hperm : c'.entries.Perm c.entries)
    (hclock : c.clock ≤ c'.clock) : c'.Ranks items := by
  obtain ⟨order, horder, rfl⟩ := h.inOrder
  refine ⟨?_, order, ⟨horder.perm.trans hperm.symm, horder.falling, fun e he => ?_⟩, rfl⟩
  · exact wellKeyed_iff.mpr ((hperm.map Entry.key).nodup_iff.mpr (wellKeyed_iff.mp h.wellKeyed))
  · exact Nat.le_trans (horder.past e he) hclock

variable [DecidableEq κ]

theorem touch_of_not_mem {key : κ} {entries : List (Entry κ α)} (h : ∀ e ∈ entries, e.key ≠ key)
    (stamp : Nat) : touch key stamp entries = entries := by
  unfold touch
  conv_rhs => rw [← List.map_id entries]
  exact List.map_congr_left fun e he => if_neg (h e he)

theorem without_of_not_mem {key : κ} {entries : List (Entry κ α)} (h : ∀ e ∈ entries, e.key ≠ key) :
    without key entries = entries :=
  List.filter_eq_self.mpr fun e he => decide_eq_true (h e he)

/-- Marking an entry as used and storing it before the others is the same, up to order. -/
theorem touch_perm {entries : List (Entry κ α)} {e : Entry κ α}
    (h : (entries.map Entry.key).Nodup) (he : e ∈ entries) (stamp : Nat) :
    (touch e.key stamp entries).Perm ({ e with stamp := stamp } :: without e.key entries) := by
  obtain ⟨front, back, rfl⟩ := List.append_of_mem he
  obtain ⟨hfront, hback⟩ := key_ne_of_nodup h
  have htouch : touch e.key stamp (front ++ e :: back) =
      front ++ { e with stamp := stamp } :: back := by
    have hsplit : touch e.key stamp (front ++ e :: back) =
        touch e.key stamp front ++ { e with stamp := stamp } :: touch e.key stamp back := by
      simp [touch]
    rw [hsplit, touch_of_not_mem hfront, touch_of_not_mem hback]
  have hwithout : without e.key (front ++ e :: back) = front ++ back := by
    have hsplit : without e.key (front ++ e :: back) =
        without e.key front ++ without e.key back := by
      simp [without]
    rw [hsplit, without_of_not_mem hfront, without_of_not_mem hback]
  rw [htouch, hwithout]
  exact List.perm_middle

theorem map_pair_without (key : κ) (entries : List (Entry κ α)) :
    (without key entries).map Entry.pair = Recency.without key (entries.map Entry.pair) := by
  unfold without Recency.without
  rw [List.filter_map]
  rfl

/-- **An entry with the newest stamp of all goes to the front.** -/
theorem Ranks.put {c' : Cache κ α} (h : c.Ranks items) {key : κ} {item : α}
    (hclock : c.clock < c'.clock)
    (hperm : c'.entries.Perm (⟨key, item, c'.clock⟩ :: without key c.entries)) :
    c'.Ranks (items.toFront key item) := by
  have hnodup := h.nodup
  obtain ⟨order, horder, rfl⟩ := h.inOrder
  have hnew : (⟨key, item, c'.clock⟩ :: without key order : List (Entry κ α)).Perm c'.entries :=
    ((horder.perm.filter _).cons _).trans hperm.symm
  have hitems : (⟨key, item, c'.clock⟩ :: without key order : List (Entry κ α)).map Entry.pair =
      Recency.toFront (order.map Entry.pair) key item := by
    rw [List.map_cons, map_pair_without]
    rfl
  have hsub := without_sublist key order
  refine ⟨?_, _, ⟨hnew, ?_, ?_⟩, hitems⟩
  · refine (((hnew.map Entry.pair).map Prod.fst).nodup_iff).mp ?_
    rw [hitems]
    exact Recency.nodup_toFront hnodup key item
  · refine List.pairwise_cons.mpr ⟨fun e he => ?_, horder.falling.sublist hsub⟩
    exact Nat.lt_of_le_of_lt (horder.past e (hsub.subset he)) hclock
  · intro e he
    rcases List.mem_cons.mp he with rfl | he
    · exact Nat.le_refl _
    · exact Nat.le_trans (horder.past e (hsub.subset he)) (Nat.le_of_lt hclock)

/-! ## 4. Looking up -/

/-- A look-up that hits. -/
theorem lookup_eq_hit (hc : c.WellKeyed) {key : κ} {item : α} (accepts : α → Bool)
    (hk : c.Keeps key item) (ha : accepts item = true) :
    c.lookup key accepts = (.hit item,
      { c with clock := c.clock + 1, hits := c.hits + 1,
               entries := touch key (c.clock + 1) c.entries }) := by
  cases he : c.entry? key with
  | none => exact absurd hk (not_keeps_of_entry_none he item)
  | some e =>
      have hitem : e.item = item := (keeps_of_entry_some he).unique hc hk
      subst hitem
      unfold lookup
      rw [he]
      dsimp only
      rw [if_pos ha]

/-- A look-up that does not hit. -/
theorem lookup_snd_unaccepted {key : κ} {accepts : α → Bool}
    (ha : ∀ item, c.Keeps key item → accepts item = false) :
    (c.lookup key accepts).2 = { c with clock := c.clock + 1, misses := c.misses + 1 } := by
  unfold lookup
  split
  · rfl
  · rename_i e he
    rw [if_neg (by rw [ha e.item (keeps_of_entry_some he)]; exact Bool.false_ne_true)]

/-- **A hit puts the item found at the front.** -/
theorem Ranks.lookup_hit (h : c.Ranks items) {key : κ} {item : α} (accepts : α → Bool)
    (hk : c.Keeps key item) (ha : accepts item = true) :
    (c.lookup key accepts).2.Ranks (items.toFront key item) := by
  obtain ⟨e, he, rfl, rfl⟩ := Cache.keeps_iff.mp hk
  rw [lookup_eq_hit h.wellKeyed accepts hk ha]
  exact h.put (Nat.lt_succ_self _) (touch_perm (wellKeyed_iff.mp h.wellKeyed) he _)

/-- **A look-up that finds nothing acceptable leaves the order as it is.** -/
theorem Ranks.lookup_unaccepted (h : c.Ranks items) {key : κ} {accepts : α → Bool}
    (ha : ∀ item, c.Keeps key item → accepts item = false) :
    (c.lookup key accepts).2.Ranks items := by
  rw [lookup_snd_unaccepted ha]
  exact h.of_perm (.refl _) (Nat.le_succ _)

/-! ## 5. Inserting -/

@[simp] theorem insert_snd_hits (c : Cache κ α) (key : κ) (item : α) :
    (c.insert key item).2.hits = c.hits := by
  unfold Cache.insert Cache.evict
  split
  · rfl
  · dsimp only
    split
    · split <;> rfl
    · rfl

@[simp] theorem insert_snd_misses (c : Cache κ α) (key : κ) (item : α) :
    (c.insert key item).2.misses = c.misses := by
  unfold Cache.insert Cache.evict
  split
  · rfl
  · dsimp only
    split
    · split <;> rfl
    · rfl

/-- **The item that makes room is the last one.** -/
theorem Ranks.evict (h : c.Ranks items) :
    c.evict.1 = items.getLast?.map Prod.snd ∧ c.evict.2.Ranks items.dropLast := by
  have hkeys : (c.entries.map Entry.key).Nodup := wellKeyed_iff.mp h.wellKeyed
  obtain ⟨order, horder, rfl⟩ := h.inOrder
  rcases List.eq_nil_or_concat order with rfl | ⟨init, e, rfl⟩
  · have hnil : c.entries = [] := horder.perm.nil_eq.symm
    have hevict : c.evict = (none, c) := by
      unfold Cache.evict
      rw [hnil]
      rfl
    rw [hevict]
    exact ⟨rfl, h⟩
  · rw [List.concat_eq_append] at horder ⊢
    have hlast : oldest? c.entries = some e := by
      refine oldest?_eq_some_of (horder.perm.subset (by simp)) fun x hx => ?_
      rcases List.mem_append.mp (horder.perm.symm.subset hx) with hx | hx
      · exact Or.inr ((List.pairwise_append.mp horder.falling).2.2 x hx e (by simp))
      · exact Or.inl (List.mem_singleton.mp hx)
    have hevict : c.evict = (some e.item,
        { c with entries := without e.key c.entries, evictions := c.evictions + 1 }) := by
      unfold Cache.evict
      rw [hlast]
    have hnodup : ((init ++ [e]).map Entry.key).Nodup :=
      (horder.perm.map _).nodup_iff.mpr hkeys
    have hrest : without e.key (init ++ [e]) = init := by
      have hsplit : without e.key (init ++ [e]) = without e.key init := by
        simp [without]
      rw [hsplit, without_of_not_mem (key_ne_of_nodup hnodup).1]
    have hperm : init.Perm (without e.key c.entries) := by
      have hfilter := horder.perm.filter fun x => decide (x.key ≠ e.key)
      rw [← hrest]
      exact hfilter
    have hsub : init.Sublist (init ++ [e]) := List.sublist_append_left _ _
    rw [hevict]
    refine ⟨by simp [Entry.pair], ?_, init, ⟨hperm, horder.falling.sublist hsub, ?_⟩, by simp⟩
    · exact wellKeyed_iff.mpr (((without_sublist e.key c.entries).map _).nodup hkeys)
    · exact fun x hx => horder.past x (hsub.subset hx)

/-- The key is found exactly where it is listed. -/
theorem Ranks.entry?_isNone_iff (h : c.Ranks items) (key : κ) :
    (c.entry? key).isNone = true ↔ key ∉ items.keys := by
  rw [Recency.mem_keys, not_exists, Option.isNone_iff_eq_none]
  constructor
  · intro hnone item hmem
    exact not_keeps_of_entry_none hnone item (h.keeps_iff.mpr hmem)
  · intro hnot
    cases he : c.entry? key with
    | none => rfl
    | some e => exact absurd (h.keeps_iff.mp (keeps_of_entry_some he)) (hnot e.item)

/-- An insertion that needs no room: its item goes to the front. -/
theorem Ranks.insert_roomy (h : c.Ranks items) (hpos : c.capacity ≠ 0) {key : κ}
    (hroom : key ∈ items.keys ∨ c.size < c.capacity) (item : α) :
    (c.insert key item).1 = none ∧ (c.insert key item).2.evictions = c.evictions ∧
      (c.insert key item).2.Ranks (items.toFront key item) := by
  have hfull : ((c.entry? key).isNone && decide (c.capacity ≤ c.size)) = false := by
    rw [Bool.and_eq_false_iff]
    rcases hroom with hmem | hlt
    · exact Or.inl (Bool.eq_false_iff.mpr fun hnone => (h.entry?_isNone_iff key).mp hnone hmem)
    · exact Or.inr (decide_eq_false (Nat.not_le.mpr hlt))
  have hinsert : c.insert key item = (none,
      { c with clock := c.clock + 1,
               entries := ⟨key, item, c.clock + 1⟩ :: Cache.without key c.entries }) := by
    unfold Cache.insert
    rw [if_neg hpos, hfull]
    rfl
  rw [hinsert]
  exact ⟨rfl, rfl, h.put (Nat.lt_succ_self _) (.refl _)⟩

/-- **An insertion of a new key into a full cache**: the last item makes room. -/
theorem Ranks.insert_full (h : c.Ranks items) (hpos : c.capacity ≠ 0) {key : κ}
    (hnew : key ∉ items.keys) (hfull : c.capacity ≤ c.size) (item : α) :
    (c.insert key item).1 = items.getLast?.map Prod.snd ∧
      (c.insert key item).2.evictions = c.evictions + 1 ∧
      (c.insert key item).2.Ranks (Recency.toFront items.dropLast key item) := by
  have hcond : ((c.entry? key).isNone && decide (c.capacity ≤ c.size)) = true := by
    rw [Bool.and_eq_true, decide_eq_true_eq]
    exact ⟨(h.entry?_isNone_iff key).mpr hnew, hfull⟩
  obtain ⟨hitem, hranks⟩ := h.evict
  have hinsert : c.insert key item = (c.evict.1,
      { c.evict.2 with clock := c.clock + 1,
                       entries := ⟨key, item, c.clock + 1⟩ ::
                         Cache.without key c.evict.2.entries }) := by
    unfold Cache.insert
    rw [if_neg hpos, hcond]
    rfl
  have hclock : c.evict.2.clock = c.clock := by
    unfold Cache.evict
    split <;> rfl
  have hevictions : c.evict.2.evictions = c.evictions + 1 := by
    unfold Cache.evict
    split
    · rename_i hnone
      cases hent : c.entries with
      | nil => simp [size, hent] at hfull; exact absurd hfull hpos
      | cons first rest => simp [oldest?, hent] at hnone
    · rfl
  rw [hinsert]
  refine ⟨hitem, hevictions, hranks.put ?_ (.refl _)⟩
  rw [hclock]
  exact Nat.lt_succ_self _

/-- **A new key adds one item**, which stays or makes another one be counted as evicted. -/
theorem Ranks.insert_count (h : c.Ranks items) {key : κ} (hnew : key ∉ items.keys) (item : α) :
    (c.insert key item).2.evictions + (c.insert key item).2.size =
      c.evictions + c.size + if c.capacity = 0 then 0 else 1 := by
  have hlength := h.length
  by_cases hpos : c.capacity = 0
  · rw [insert_of_capacity_eq_zero hpos, if_pos hpos, Nat.add_zero]
  · rw [if_neg hpos]
    by_cases hlt : c.size < c.capacity
    · obtain ⟨_, hevictions, hranks⟩ := h.insert_roomy hpos (Or.inr hlt) item
      have hsize := hranks.length
      rw [Recency.toFront_of_not_mem hnew, List.length_cons] at hsize
      omega
    · obtain ⟨_, hevictions, hranks⟩ := h.insert_full hpos hnew (Nat.not_lt.mp hlt) item
      have hsize := hranks.length
      rw [Recency.toFront_of_not_mem (Recency.not_mem_keys_dropLast hnew), List.length_cons,
        List.length_dropLast] at hsize
      omega

/-- **An insertion, with room or without**: the item goes to the front, and as many of the items stay
    as there is room for. -/
theorem Ranks.insert (h : c.Ranks items) (hc : c.size ≤ c.capacity) (key : κ) (item : α) :
    (c.insert key item).2.Ranks ((items.toFront key item).take c.capacity) := by
  have hlength := h.length
  by_cases hpos : c.capacity = 0
  · rw [insert_of_capacity_eq_zero hpos, hpos, List.take_zero]
    have hnil : items = [] := List.eq_nil_of_length_eq_zero (by omega)
    exact hnil ▸ h
  · by_cases hroom : key ∈ items.keys ∨ c.size < c.capacity
    · have hle : (items.toFront key item).length ≤ c.capacity := by
        rw [Recency.toFront, List.length_cons]
        rcases hroom with hmem | hlt
        · have hshorter := Recency.length_without_lt hmem
          omega
        · have hshorter : (items.without key).length ≤ items.length :=
            List.filter_sublist.length_le
          omega
      rw [List.take_of_length_le hle]
      exact (h.insert_roomy hpos hroom item).2.2
    · obtain ⟨hnew, hfull⟩ := not_or.mp hroom
      have hranks := (h.insert_full hpos hnew (Nat.not_lt.mp hfull) item).2.2
      rw [Recency.toFront_of_not_mem (Recency.not_mem_keys_dropLast hnew)] at hranks
      obtain ⟨n, hn⟩ := Nat.exists_eq_succ_of_ne_zero hpos
      rw [Recency.toFront_of_not_mem hnew, hn, List.take_succ_cons,
        List.take_eq_dropLast (by omega)]
      exact hranks

end Cache

end Structural
