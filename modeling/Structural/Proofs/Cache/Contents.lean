import Mathlib.Data.List.Nodup
import Structural.Cache

/-!
# What a cache keeps

A cache read as the list of its keys and items, without the stamps. Every operation is described
by what it does to this list, so that the entries themselves are opened nowhere else.

* `Cache.contents` -- the keys with their items;
* `Cache.Keeps` -- an item stands under a key;
* `Cache.WellKeyed` -- no key stands twice, so that a key has one item (`Keeps.unique`);
* `Cache.Found` / `found_lookup` -- **what a look-up finds**, one case for each answer;
* `contents_lookup`, `contents_insert`, `contents_clear` -- what an operation does to the contents.
  A look-up changes none of them; an insertion puts its item in front of a part of what was there,
  short enough to leave the cache within its capacity.
-/

namespace Structural

variable {κ α : Type}

/-- The key and the item of an entry. -/
def Entry.pair (e : Entry κ α) : κ × α :=
  (e.key, e.item)

namespace Cache

/-! ## 1. Contents -/

/-- **The keys that a cache keeps, with their items.** -/
def contents (c : Cache κ α) : List (κ × α) :=
  c.entries.map Entry.pair

/-- The cache keeps an item under a key. -/
def Keeps (c : Cache κ α) (key : κ) (item : α) : Prop :=
  (key, item) ∈ c.contents

/-- No key stands twice. -/
def WellKeyed (c : Cache κ α) : Prop :=
  (c.contents.map Prod.fst).Nodup

theorem length_contents (c : Cache κ α) : c.contents.length = c.size := by
  simp [contents, size]

@[simp] theorem contents_empty (capacity : Nat) : (empty capacity : Cache κ α).contents = [] := rfl

@[simp] theorem contents_clear (c : Cache κ α) : c.clear.contents = [] := rfl

/-- What is kept is kept by an entry. -/
theorem keeps_iff {c : Cache κ α} {key : κ} {item : α} :
    c.Keeps key item ↔ ∃ e ∈ c.entries, e.key = key ∧ e.item = item := by
  simp [Keeps, contents, Entry.pair]

/-- Where no key stands twice, a key has one item. -/
theorem Keeps.unique {c : Cache κ α} {key : κ} {a b : α} (hc : c.WellKeyed)
    (ha : c.Keeps key a) (hb : c.Keeps key b) : a = b := by
  have h := List.inj_on_of_nodup_map hc ha hb rfl
  exact congrArg Prod.snd h

/-- A cache that keeps something, and no more than its capacity, has one. -/
theorem Keeps.capacity_ne_zero {c : Cache κ α} {key : κ} {item : α} (h : c.Keeps key item)
    (hc : c.size ≤ c.capacity) : c.capacity ≠ 0 := by
  have hpos : 0 < c.size := by
    rw [← length_contents]
    exact List.length_pos_of_mem h
  omega

theorem wellKeyed_empty (capacity : Nat) : (empty capacity : Cache κ α).WellKeyed :=
  List.nodup_nil

theorem wellKeyed_clear (c : Cache κ α) : c.clear.WellKeyed :=
  List.nodup_nil

/-! ## 2. The entry furthest back -/

theorem older_eq_or (a b : Entry κ α) : older a b = a ∨ older a b = b := by
  unfold older
  split
  · exact Or.inr rfl
  · exact Or.inl rfl

theorem foldl_older_mem : ∀ (rest : List (Entry κ α)) (e : Entry κ α),
    rest.foldl older e ∈ e :: rest
  | [], e => List.mem_singleton_self e
  | b :: rest, e => by
      rw [List.foldl_cons]
      rcases older_eq_or e b with h | h
      · rw [h]
        rcases List.mem_cons.mp (foldl_older_mem rest e) with hm | hm
        · rw [hm]
          exact List.mem_cons_self
        · exact List.mem_cons_of_mem _ (List.mem_cons_of_mem _ hm)
      · rw [h]
        exact List.mem_cons_of_mem _ (foldl_older_mem rest b)

/-- The entry furthest back is one of the entries. -/
theorem oldest?_mem : ∀ {entries : List (Entry κ α)} {e : Entry κ α},
    oldest? entries = some e → e ∈ entries
  | [], _, h => by cases h
  | first :: rest, e, h => by
      have he : rest.foldl older first = e := Option.some.inj h
      rw [← he]
      exact foldl_older_mem rest first

/-! ## 3. Looking up -/

variable [DecidableEq κ]

/-- A mark changes neither keys nor items. -/
theorem map_pair_touch (key : κ) (stamp : Nat) (entries : List (Entry κ α)) :
    (touch key stamp entries).map Entry.pair = entries.map Entry.pair := by
  unfold touch
  rw [List.map_map]
  refine List.map_congr_left fun e _ => ?_
  by_cases h : e.key = key <;> simp [Entry.pair, h]

@[simp] theorem contents_lookup (c : Cache κ α) (key : κ) (accepts : α → Bool) :
    (c.lookup key accepts).2.contents = c.contents := by
  unfold lookup
  split
  · rfl
  · split
    · exact map_pair_touch key _ c.entries
    · rfl

/-- **What a look-up finds**, said through what the cache keeps. -/
inductive Found (c : Cache κ α) (key : κ) (accepts : α → Bool) : Lookup α → Prop where
  | hit (item : α) (hk : c.Keeps key item) (ha : accepts item = true) :
      Found c key accepts (.hit item)
  | miss (hk : ∀ item, ¬ c.Keeps key item) : Found c key accepts .miss
  | clash (item : α) (hk : c.Keeps key item) (ha : accepts item = false) :
      Found c key accepts (.clash item)

/-- The entry found under a key is one that the cache keeps there. -/
theorem keeps_of_entry_some {c : Cache κ α} {key : κ} {e : Entry κ α} (h : c.entry? key = some e) :
    c.Keeps key e.item := by
  have hkey : e.key = key := by simpa using List.find?_some h
  exact keeps_iff.mpr ⟨e, List.mem_of_find?_eq_some h, hkey, rfl⟩

/-- Where no entry is found under a key, nothing is kept there. -/
theorem not_keeps_of_entry_none {c : Cache κ α} {key : κ} (h : c.entry? key = none) (item : α) :
    ¬ c.Keeps key item := by
  intro hk
  obtain ⟨e, he, hkey, _⟩ := keeps_iff.mp hk
  have := List.find?_eq_none.mp h e he
  simp [hkey] at this

theorem found_lookup (c : Cache κ α) (key : κ) (accepts : α → Bool) :
    Found c key accepts (c.lookup key accepts).1 := by
  unfold lookup
  split
  · rename_i h
    exact .miss (not_keeps_of_entry_none h)
  · rename_i e h
    split
    · rename_i ha
      exact .hit e.item (keeps_of_entry_some h) ha
    · rename_i ha
      exact .clash e.item (keeps_of_entry_some h) (by simpa using ha)

/-! ## 4. Inserting -/

theorem without_sublist (key : κ) (entries : List (Entry κ α)) :
    (without key entries).Sublist entries :=
  List.filter_sublist

/-- Dropping a key that is there makes the list shorter. -/
theorem length_without_lt {entries : List (Entry κ α)} {e : Entry κ α} (he : e ∈ entries) :
    (without e.key entries).length < entries.length := by
  unfold without
  rw [List.length_filter_lt_length_iff_exists]
  exact ⟨e, he, by simp⟩

/-- Making room keeps a part of what was there. -/
theorem evict_sublist (c : Cache κ α) : c.evict.2.entries.Sublist c.entries := by
  unfold evict
  split
  · exact List.Sublist.refl _
  · exact without_sublist _ _

theorem evict_capacity (c : Cache κ α) : c.evict.2.capacity = c.capacity := by
  unfold evict
  split <;> rfl

/-- Making room in a cache that is not empty drops something. -/
theorem size_evict_lt {c : Cache κ α} (h : 0 < c.size) : c.evict.2.size < c.size := by
  unfold evict
  split
  · rename_i hnone
    cases he : c.entries with
    | nil => simp [size, he] at h
    | cons first rest => simp [oldest?, he] at hnone
  · rename_i e he
    exact length_without_lt (oldest?_mem he)

/-- The entries that an insertion leaves beside its own. -/
def others (c : Cache κ α) (key : κ) : List (Entry κ α) :=
  without key
    (if (c.entry? key).isNone && decide (c.capacity ≤ c.size) then c.evict.2 else c).entries

theorem others_sublist (c : Cache κ α) (key : κ) : (c.others key).Sublist c.entries := by
  unfold others
  split
  · exact (without_sublist _ _).trans c.evict_sublist
  · exact without_sublist _ _

/-- An insertion leaves room for its own entry. -/
theorem length_others_lt {c : Cache κ α} (hpos : c.capacity ≠ 0) (hc : c.size ≤ c.capacity)
    (key : κ) : (c.others key).length < c.capacity := by
  unfold others
  split
  · rename_i hfull
    rw [Bool.and_eq_true, decide_eq_true_eq] at hfull
    have hevict : c.evict.2.size < c.size := size_evict_lt (by omega)
    have hle := (without_sublist key c.evict.2.entries).length_le
    unfold size at *
    omega
  · rename_i hroom
    cases he : c.entry? key with
    | none =>
        have hlt : c.size < c.capacity := by simpa [he] using hroom
        have hle := (without_sublist key c.entries).length_le
        unfold size at hlt
        omega
    | some e =>
        have hkey : e.key = key := by simpa using List.find?_some he
        have hlt := length_without_lt (List.mem_of_find?_eq_some he)
        rw [hkey] at hlt
        unfold size at hc
        omega

theorem insert_snd_entries {c : Cache κ α} (hpos : c.capacity ≠ 0) (key : κ) (item : α) :
    (c.insert key item).2.entries = ⟨key, item, c.clock + 1⟩ :: c.others key := by
  unfold insert others
  rw [if_neg hpos]
  dsimp only
  split <;> rfl

/-- **What an insertion leaves**: its item in front of a part of what was there, in which its key
    does not stand, and which is short enough for the item to fit in. -/
theorem contents_insert {c : Cache κ α} (hpos : c.capacity ≠ 0) (key : κ) (item : α) :
    ∃ rest, (c.insert key item).2.contents = (key, item) :: rest ∧ rest.Sublist c.contents ∧
      (∀ p ∈ rest, p.1 ≠ key) ∧ (c.size ≤ c.capacity → rest.length < c.capacity) := by
  refine ⟨(c.others key).map Entry.pair, ?_, (c.others_sublist key).map _, fun p hp => ?_,
    fun hc => ?_⟩
  · unfold contents
    rw [insert_snd_entries hpos]
    rfl
  · obtain ⟨e, he, rfl⟩ := List.mem_map.mp hp
    exact of_decide_eq_true (List.mem_filter.mp he).2
  · rw [List.length_map]
    exact length_others_lt hpos hc key

@[simp] theorem insert_snd_capacity (c : Cache κ α) (key : κ) (item : α) :
    (c.insert key item).2.capacity = c.capacity := by
  unfold insert
  split
  · rfl
  · dsimp only
    split
    · exact c.evict_capacity
    · rfl

/-! ## 5. What every operation preserves -/

/-- After an insertion a key has the new item or one that it had before. -/
theorem Keeps.of_insert {c : Cache κ α} {key k : κ} {item x : α}
    (h : (c.insert key item).2.Keeps k x) : k = key ∧ x = item ∨ c.Keeps k x := by
  by_cases hpos : c.capacity = 0
  · rw [insert_of_capacity_eq_zero hpos] at h
    exact Or.inr h
  · obtain ⟨rest, hcont, hsub, _, _⟩ := contents_insert hpos key item
    unfold Keeps at h
    rw [hcont] at h
    rcases List.mem_cons.mp h with h | h
    · exact Or.inl (Prod.mk.inj h)
    · exact Or.inr (hsub.subset h)

theorem WellKeyed.insert {c : Cache κ α} (h : c.WellKeyed) (key : κ) (item : α) :
    (c.insert key item).2.WellKeyed := by
  by_cases hpos : c.capacity = 0
  · rw [insert_of_capacity_eq_zero hpos]
    exact h
  · obtain ⟨rest, hcont, hsub, hne, _⟩ := contents_insert hpos key item
    unfold WellKeyed
    rw [hcont, List.map_cons, List.nodup_cons]
    refine ⟨fun hmem => ?_, (hsub.map _).nodup h⟩
    obtain ⟨p, hp, hkey⟩ := List.mem_map.mp hmem
    exact hne p hp hkey

/-- **A cache never holds more than its capacity.** -/
theorem size_insert_le {c : Cache κ α} (h : c.size ≤ c.capacity) (key : κ) (item : α) :
    (c.insert key item).2.size ≤ c.capacity := by
  by_cases hpos : c.capacity = 0
  · rw [insert_of_capacity_eq_zero hpos]
    exact h
  · obtain ⟨rest, hcont, _, _, hlen⟩ := contents_insert hpos key item
    rw [← length_contents, hcont, List.length_cons]
    exact hlen h

end Cache

end Structural
