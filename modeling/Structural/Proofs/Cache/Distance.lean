import Mathlib.Data.Finset.Card
import Structural.Proofs.Cache.Recency

/-!
# How far back a key was used

A list of uses, the last one first, in which a key may stand many times.

* `LastUse` -- the last use of a key, with the uses after it;
* `latest` -- the items of the last uses, each key once;
* `mem_take_latest` -- **an item stands among the first `n` exactly if fewer than `n` other keys were
  used after its key**;
* `take_toFront_take` -- a list that is cut off after every use is the whole list cut off.
-/

namespace Structural.Recency

variable {κ α : Type}

/-- **The last use of a key** in a list of uses: the item used, and the uses `since`. -/
structure LastUse (uses : Recency κ α) (key : κ) (item : α) (since : Recency κ α) : Prop where
  split : ∃ before, uses = since ++ (key, item) :: before
  last : key ∉ since.keys

variable [DecidableEq κ]

/-- **The items of the last uses**, each key once. -/
def latest : Recency κ α → Recency κ α
  | [] => []
  | (key, item) :: before => (latest before).toFront key item

theorem nodup_latest : ∀ uses : Recency κ α, (latest uses).keys.Nodup
  | [] => .nil
  | (key, item) :: before => nodup_toFront (nodup_latest before) key item

/-! ## 1. Positions -/

/-- What is listed comes from a last use. -/
theorem lastUse_of_mem_latest {key : κ} {item : α} : ∀ {uses : Recency κ α},
    (key, item) ∈ latest uses → ∃ since, LastUse uses key item since
  | [], h => by cases h
  | (key', item') :: before, h => by
      rcases List.mem_cons.mp h with heq | h
      · cases heq
        exact ⟨[], ⟨before, rfl⟩, List.not_mem_nil⟩
      · obtain ⟨hmem, hne⟩ := List.mem_filter.mp h
        obtain ⟨since, ⟨earlier, hsplit⟩, hlast⟩ := lastUse_of_mem_latest hmem
        refine ⟨(key', item') :: since, ⟨earlier, by rw [hsplit]; rfl⟩, fun hkey => ?_⟩
        rcases List.mem_cons.mp hkey with heq | hkey
        · exact of_decide_eq_true hne heq
        · exact hlast hkey

/-- **In front of a key stand the keys used after it**, each once. -/
theorem latest_append_cons {key : κ} (item : α) (before : Recency κ α) :
    ∀ {since : Recency κ α}, key ∉ since.keys →
      ∃ front back : Recency κ α,
        latest (since ++ (key, item) :: before) = front ++ (key, item) :: back ∧
        front.keys.toFinset = since.keys.toFinset
  | [], _ => ⟨[], without key (latest before), rfl, rfl⟩
  | (key', item') :: since, h => by
      have hne : key ≠ key' := fun heq => h (heq ▸ List.mem_cons_self)
      have hlast : key ∉ keys since := fun hmem => h (List.mem_cons_of_mem _ hmem)
      obtain ⟨front, back, heq, hkeys⟩ := latest_append_cons item before hlast
      refine ⟨front.toFront key' item', without key' back, ?_, ?_⟩
      · rw [List.cons_append, latest, heq, toFront, toFront, without, List.filter_append,
          List.filter_cons_of_pos (by simpa using hne)]
        rfl
      · ext k
        have hk : k ∈ front.keys ↔ k ∈ keys since := by
          rw [← List.mem_toFinset, hkeys, List.mem_toFinset]
        rw [keys_toFront, List.mem_toFinset, List.mem_toFinset]
        by_cases hk' : k = key'
        · simp [keys, hk']
        · simpa [keys, hk'] using hk

/-- An element stands among the first of a list if fewer stand in front of it. -/
theorem mem_take_append_cons {β : Type} {x : β} {front : List β} (h : x ∉ front) (back : List β)
    (n : Nat) : x ∈ (front ++ x :: back).take n ↔ front.length < n := by
  rw [List.take_append, List.mem_append]
  constructor
  · rintro (hmem | hmem)
    · exact absurd (List.mem_of_mem_take hmem) h
    · refine Nat.lt_of_sub_ne_zero fun hzero => ?_
      rw [hzero] at hmem
      cases hmem
  · intro hlt
    obtain ⟨m, hm⟩ := Nat.exists_eq_succ_of_ne_zero (Nat.sub_ne_zero_of_lt hlt)
    rw [hm]
    exact Or.inr List.mem_cons_self

/-- **An item stands among the first `n` exactly if fewer than `n` other keys were used after its
    key.** -/
theorem LastUse.mem_take_latest {uses since : Recency κ α} {key : κ} {item : α}
    (h : LastUse uses key item since) (n : Nat) :
    (key, item) ∈ (latest uses).take n ↔ since.keys.toFinset.card < n := by
  obtain ⟨⟨before, rfl⟩, hlast⟩ := h
  have hnodup := nodup_latest (since ++ (key, item) :: before)
  obtain ⟨front, back, heq, hkeys⟩ := latest_append_cons item before hlast
  rw [heq, keys, List.map_append, List.nodup_append] at hnodup
  have hnot : (key, item) ∉ front := fun hmem =>
    hnodup.2.2 _ (List.mem_map_of_mem hmem) _ List.mem_cons_self rfl
  have hcard : since.keys.toFinset.card = front.length := by
    rw [← hkeys]
    exact (List.toFinset_card_of_nodup hnodup.1).trans (length_keys front)
  rw [heq, mem_take_append_cons hnot, hcard]

theorem mem_take_latest {uses : Recency κ α} {key : κ} {item : α} {n : Nat} :
    (key, item) ∈ (latest uses).take n ↔
      ∃ since, LastUse uses key item since ∧ since.keys.toFinset.card < n := by
  constructor
  · intro h
    obtain ⟨since, hlast⟩ := lastUse_of_mem_latest (List.mem_of_mem_take h)
    exact ⟨since, hlast, (hlast.mem_take_latest n).mp h⟩
  · rintro ⟨since, hlast, hlt⟩
    exact (hlast.mem_take_latest n).mpr hlt

/-- The last use of a key is the use of one item. -/
theorem LastUse.unique {uses since since' : Recency κ α} {key : κ} {item item' : α}
    (h : LastUse uses key item since) (h' : LastUse uses key item' since') : item = item' := by
  have hlisted : ∀ {item since}, LastUse uses key item since →
      (latest uses).lookup key = some item := fun {_ since} hlast =>
    lookup_eq_some_of_mem (nodup_latest uses)
      (List.mem_of_mem_take ((hlast.mem_take_latest _).mpr (Nat.lt_succ_self _)))
  exact Option.some.inj ((hlisted h).symm.trans (hlisted h'))

/-! ## 2. Lists cut off -/

/-- **A list that is cut off after every use is the whole list cut off.** -/
theorem take_toFront_take {items : Recency κ α} (h : items.keys.Nodup) (key : κ) (item : α)
    (n : Nat) : (toFront (items.take n) key item).take n = (items.toFront key item).take n := by
  cases n with
  | zero => rfl
  | succ n =>
      rw [toFront, toFront, List.take_succ_cons, List.take_succ_cons]
      congr 1
      -- at most one of the first items is dropped, so `n` of them are left if there are more
      have hfirst : (keys (items.take (n + 1))).Nodup :=
        keys_take items (n + 1) ▸ h.sublist (List.take_sublist _ _)
      have hlen := length_le_without hfirst key
      have hsplit : items.without key =
          without key (items.take (n + 1)) ++ without key (items.drop (n + 1)) := by
        unfold without
        rw [← List.filter_append, List.take_append_drop]
      rw [hsplit]
      by_cases hn : n + 1 ≤ items.length
      · rw [List.length_take_of_le hn] at hlen
        exact (List.take_append_of_le_length (Nat.le_of_succ_le_succ hlen)).symm
      · rw [List.drop_eq_nil_of_le (by omega)]
        simp [without]

end Structural.Recency
