import Structural.Proofs.Registry.Sharing

/-!
# A larger registry is never worse

The same moves made on two registries that have room for different numbers of adapter types.

* `Recency.Within` -- **the keys of the smaller registry stand in the larger one, in the same order**;
  they are all that stand there as long as the smaller one is not full;
* `Recency.Within.take_toFront`, `Recency.Within.take_toFront_right` -- an item put at the front of
  both lists, or of the longer one only;
* `Beside` / `beside_after` -- two registries side by side, after every run;
* `Covers` -- what the larger registry has over the smaller one;
* `larger_covers` -- **after every run the larger registry covers the smaller one**, and every build
  for which the smaller one finds or makes an adapter type is served by the larger one.

Dropping the items that were put in first would not do: there a larger list may find less.
-/

namespace Structural

/-! ## 1. Two lists in order of last use -/

namespace Recency

variable {κ α : Type} {items items' : Recency κ α} {n n' : Nat}

/-- **A list of at most `n` items within a longer one.** -/
structure Within (n : Nat) (items items' : Recency κ α) : Prop where
  order : items.keys.Sublist items'.keys
  roomy : items.length < n → items.keys = items'.keys

/-- A list within another that is longer than `n'` by one element at most stays within it when both
    are cut off, if it loses an element as well. -/
theorem take_sublist_take {β : Type} {l l' : List β} (h : l.Sublist l')
    (hlength : l'.length ≤ n' + 1) (hless : n' < l'.length → n < l.length) :
    (l.take n).Sublist (l'.take n') := by
  by_cases hfits : l'.length ≤ n'
  · rw [List.take_of_length_le hfits]
    exact (List.take_sublist n l).trans h
  · have hdrop : l.dropLast.Sublist l'.dropLast := by
      have htail := h.reverse.tail.reverse
      rwa [List.tail_reverse, List.tail_reverse, List.reverse_reverse, List.reverse_reverse] at htail
    have hlast : l'.dropLast = l'.take n' := by
      rw [List.dropLast_eq_take]
      congr 1
      omega
    have hfirst : (l.take n).Sublist l.dropLast := by
      rw [List.dropLast_eq_take]
      have hshort := hless (Nat.not_le.mp hfits)
      exact List.take_sublist_take_left (by omega)
    rw [← hlast]
    exact hfirst.trans hdrop

/-- Where the longer list is longer, the shorter one is full. -/
theorem Within.full (h : Within n items items') (hlt : items.length < items'.length) :
    n ≤ items.length := by
  by_contra hroom
  have hlength := congrArg List.length (h.roomy (Nat.not_le.mp hroom))
  rw [length_keys, length_keys] at hlength
  omega

/-- Both lists cut off where they have no more room. -/
theorem Within.take (h : Within n items items') (hn : n ≤ n') (hlength : items'.length ≤ n' + 1)
    (hless : n' < items'.length → n < items.length) :
    Within n (items.take n) (items'.take n') := by
  refine ⟨?_, fun hlt => ?_⟩
  · rw [keys_take, keys_take]
    rw [← length_keys] at hlength
    rw [← length_keys items, ← length_keys items'] at hless
    exact take_sublist_take h.order hlength hless
  · rw [List.length_take] at hlt
    have hkeys := h.roomy (by omega)
    have hsame := congrArg List.length hkeys
    rw [length_keys, length_keys] at hsame
    rw [List.take_of_length_le (by omega), List.take_of_length_le (by omega)]
    exact hkeys

variable [DecidableEq κ]

theorem Within.toFront (h : Within n items items') (hnodup : items.keys.Nodup) (key : κ)
    (item item' : α) : Within n (items.toFront key item) (items'.toFront key item') := by
  have hle : items.length ≤ (items.toFront key item).length := length_le_without hnodup key
  refine ⟨?_, fun hlt => ?_⟩
  · rw [keys_toFront, keys_toFront]
    exact (h.order.filter _).cons_cons key
  · rw [keys_toFront, keys_toFront, h.roomy (Nat.lt_of_le_of_lt hle hlt)]

/-- **An item put at the front of both lists**, each cut off where it has no more room. -/
theorem Within.take_toFront (h : Within n items items') (hnodup : items'.keys.Nodup) (hn : n ≤ n')
    (hlength : items'.length ≤ n') (key : κ) (item item' : α) :
    Within n ((items.toFront key item).take n) ((items'.toFront key item').take n') := by
  have hle : (items'.toFront key item').length ≤ items'.length + 1 :=
    Nat.succ_le_succ (List.length_filter_le _ _)
  refine (h.toFront (h.order.nodup hnodup) key item item').take hn (by omega) fun hlong => ?_
  -- the longer list had no room, so the key is new to both
  have hnew : key ∉ items'.keys := fun hmem => by
    rw [length_toFront_of_mem hnodup hmem] at hlong
    omega
  rw [toFront_of_not_mem hnew, List.length_cons] at hlong
  rw [toFront_of_not_mem fun hmem => hnew (h.order.subset hmem), List.length_cons]
  rcases Nat.lt_or_ge items.length items'.length with hlt | hge
  · exact Nat.lt_succ_of_le (h.full hlt)
  · omega

/-- **An item put at the front of the longer list only**, where it was listed before. -/
theorem Within.take_toFront_right (h : Within n items items') (hnodup : items'.keys.Nodup)
    (hlength : items'.length ≤ n') {key : κ} (hnew : key ∉ items.keys) (hmem : key ∈ items'.keys)
    (item : α) : Within n items ((items'.toFront key item).take n') := by
  rw [List.take_of_length_le (by rwa [length_toFront_of_mem hnodup hmem])]
  refine ⟨?_, fun hlt => absurd (h.roomy hlt ▸ hmem) hnew⟩
  have hfilter : items.keys.filter (· ≠ key) = items.keys := by
    rw [← keys_without, without_of_not_mem hnew]
  rw [keys_toFront, ← hfilter]
  exact (h.order.filter _).cons key

end Recency

namespace Registry

/-! ## 2. Two registries -/

/-- **Two registries side by side**, the smaller one first, with their adapter types in order of last
    use. -/
structure Beside (r r' : Registry) (items items' : Recency Key Blueprint) : Prop where
  ranks : r.cache.Ranks items
  ranks' : r'.cache.Ranks items'
  within : Recency.Within r.cache.capacity items items'
  hits : r.cache.hits ≤ r'.cache.hits
  minted : r'.minted ≤ r.minted

/-- **What a larger registry has over a smaller one.** -/
structure Covers (r r' : Registry) : Prop where
  keeps : ∀ k b, r.cache.Keeps k b → ∃ b', r'.cache.Keeps k b'
  hits : r.stats.cache.hits ≤ r'.stats.cache.hits
  minted : r'.stats.minted ≤ r.stats.minted

variable {fingerprint : Interface → UInt64} {policy : Ambiguity} {c c' : Nat}
  {past rest moves : List Move} {m : Move} {interface : Interface} {source : Source}

theorem Beside.covers {r r' : Registry} {items items' : Recency Key Blueprint}
    (h : Beside r r' items items') : Covers r r' where
  keeps := fun k b hk => by
    have hmem : k ∈ items'.keys :=
      h.within.order.subset (Recency.mem_keys.mpr ⟨b, h.ranks.keeps_iff.mp hk⟩)
    obtain ⟨b', hb'⟩ := Recency.mem_keys.mp hmem
    exact ⟨b', h.ranks'.keeps_iff.mpr hb'⟩
  hits := h.hits
  minted := h.minted

/-- One request leaves the order and the counters of two registries side by side. -/
theorem Beside.turn {r r' : Registry} {items items' later later' : Recency Key Blueprint}
    (h : Beside r r' items items') (hc : r.cache.capacity ≤ r'.cache.capacity)
    (hr' : r'.cache.size ≤ r'.cache.capacity) {k : Key} {slots : Except BuildError (List Slot)}
    {result result' : Except BuildError Blueprint} {books books' : Books}
    (hturn : Turn r items k slots result books later)
    (hturn' : Turn r' items' k slots result' books' later') :
    Recency.Within r.cache.capacity later later' ∧ books.hits ≤ books'.hits ∧
      books'.minted ≤ books.minted := by
  have hhits : r.cache.hits ≤ r'.cache.hits := h.hits
  have hminted := h.minted
  have hnodup := h.ranks'.nodup
  have hlength : items'.length ≤ r'.cache.capacity := h.ranks'.length.trans_le hr'
  have hboth := h.within.take_toFront hnodup hc hlength k
  cases hturn with
  | found b _ hk hhits₁ hminted₁ =>
      have hk' : k ∈ items'.keys := h.within.order.subset (Recency.mem_keys.mpr ⟨b, hk⟩)
      cases hturn' with
      | found b' _ _ hhits₂ hminted₂ => exact ⟨hboth b b', by omega, by omega⟩
      | made _ _ hnew => exact absurd hk' hnew
      | failed _ _ hnew => exact absurd hk' hnew
  | made b _ hnew hs _ hhits₁ hminted₁ =>
      cases hturn' with
      | found b' _ _ hhits₂ hminted₂ => exact ⟨hboth b b', by omega, by omega⟩
      | made b' _ _ _ _ hhits₂ hminted₂ => exact ⟨hboth b b', by omega, by omega⟩
      | failed _ _ _ he =>
          rw [hs] at he
          cases he
  | failed _ _ hnew he hhits₁ hminted₁ =>
      cases hturn' with
      | found b' _ hk' hhits₂ hminted₂ =>
          have hmem : k ∈ items'.keys := Recency.mem_keys.mpr ⟨b', hk'⟩
          exact ⟨h.within.take_toFront_right hnodup hlength hnew hmem b', by omega, by omega⟩
      | made _ _ _ hs =>
          rw [hs] at he
          cases he
      | failed _ _ _ _ hhits₂ hminted₂ => exact ⟨h.within, by omega, by omega⟩

/-- One move leaves two registries side by side. -/
theorem beside_move (hc : c ≤ c') (hsep : Separates fingerprint (past ++ [m]))
    {items items' : Recency Key Blueprint}
    (h : Beside ((empty ⟨.lru c, policy⟩).after fingerprint past)
      ((empty ⟨.lru c', policy⟩).after fingerprint past) items items') :
    ∃ later later', Beside
      (((empty ⟨.lru c, policy⟩).after fingerprint past).move fingerprint m).2
      (((empty ⟨.lru c', policy⟩).after fingerprint past).move fingerprint m).2 later later' := by
  rcases m.clear_or_asked with rfl | ⟨interface, source, hm⟩
  · exact ⟨[], [], Cache.ranks_clear _, Cache.ranks_clear _, ⟨.refl _, fun _ => rfl⟩, h.hits, h.minted⟩
  · have hregular := regular_after fingerprint ⟨.lru c, policy⟩ past
    have hregular' := regular_after fingerprint ⟨.lru c', policy⟩ past
    have hle : ((empty ⟨.lru c, policy⟩).after fingerprint past).cache.capacity ≤
        ((empty ⟨.lru c', policy⟩).after fingerprint past).cache.capacity := by
      rw [hregular.capacity, hregular'.capacity]
      exact hc
    obtain ⟨_, books, later, _, _, hbooks, hranks, hturn⟩ := turn_move hsep hm h.ranks
    obtain ⟨_, books', later', _, _, hbooks', hranks', hturn'⟩ := turn_move hsep hm h.ranks'
    obtain ⟨hwithin, hhits, hminted⟩ := h.turn hle hregular'.bounded hturn hturn'
    refine ⟨later, later', hranks, hranks', ?_, ?_, ?_⟩
    · rw [(hregular.move fingerprint m).capacity, ← hregular.capacity]
      exact hwithin
    · rw [← hbooks, ← hbooks'] at hhits
      exact hhits
    · rw [← hbooks, ← hbooks'] at hminted
      exact hminted

/-- **Two registries stay side by side**, after every run. -/
theorem beside_after (fingerprint : Interface → UInt64) (policy : Ambiguity) (hc : c ≤ c')
    (moves : List Move) : Separates fingerprint moves → ∃ items items',
      Beside ((empty ⟨.lru c, policy⟩).after fingerprint moves)
        ((empty ⟨.lru c', policy⟩).after fingerprint moves) items items' := by
  induction moves using List.reverseRecOn with
  | nil =>
      exact fun _ => ⟨[], [], Cache.ranks_empty _, Cache.ranks_empty _, ⟨.refl _, fun _ => rfl⟩,
        Nat.le_refl _, Nat.le_refl _⟩
  | append_singleton past m ih =>
      intro hsep
      obtain ⟨items, items', h⟩ := ih hsep.of_append
      rw [after_snoc, after_snoc]
      exact beside_move hc hsep h

/-- **A larger registry is never worse.** After every part of a run it keeps adapter types under all
    keys of the smaller one, with at least as many hits and at most as many adapter types made. It
    hits where the smaller one does, and finds or makes an adapter type where the smaller one does. -/
theorem larger_covers (fingerprint : Interface → UInt64) (policy : Ambiguity) {c c' : Nat}
    (hc : c ≤ c') {moves : List Move} (hsep : Separates fingerprint moves) :
    (∀ past rest, moves = past ++ rest →
      Covers ((empty ⟨.lru c, policy⟩).after fingerprint past)
        ((empty ⟨.lru c', policy⟩).after fingerprint past)) ∧
    ∀ past m rest, moves = past ++ m :: rest →
      (Hits fingerprint ((empty ⟨.lru c, policy⟩).after fingerprint past) m →
        Hits fingerprint ((empty ⟨.lru c', policy⟩).after fingerprint past) m) ∧
      ∀ interface source, m.asked? = some (interface, source) →
        (∃ b, (((empty ⟨.lru c, policy⟩).after fingerprint past).blueprint fingerprint
          interface source).1 = .ok b) →
        ∃ b', (((empty ⟨.lru c', policy⟩).after fingerprint past).blueprint fingerprint
          interface source).1 = .ok b' := by
  refine ⟨fun past rest hmoves => ?_, fun past m rest hmoves => ?_⟩
  · subst hmoves
    obtain ⟨_, _, h⟩ := beside_after fingerprint policy hc past hsep.of_append
    exact h.covers
  · subst hmoves
    obtain ⟨items, items', h⟩ := beside_after fingerprint policy hc past hsep.of_append
    rcases m.clear_or_asked with rfl | ⟨interface, source, hm⟩
    · refine ⟨fun hit => absurd hit (Nat.ne_of_lt (Nat.lt_succ_self _)), fun _ _ hm => ?_⟩
      cases hm
    · obtain ⟨_, _, _, hresult, _, hbooks, _, hturn⟩ := turn_move hsep hm h.ranks
      obtain ⟨_, _, _, hresult', _, hbooks', _, hturn'⟩ := turn_move hsep hm h.ranks'
      refine ⟨fun hit => ?_, fun _ _ hm' hok => ?_⟩
      · rw [hits_iff hbooks, hturn.hits_iff] at hit
        rw [hits_iff hbooks', hturn'.hits_iff]
        exact h.within.order.subset hit
      · cases hm.symm.trans hm'
        rw [hresult, hturn.ok_iff] at hok
        rw [hresult', hturn'.ok_iff]
        exact hok.imp_left fun hk => h.within.order.subset hk

/-- Registries that keep one and two adapter types. -/
theorem larger_covers_inTurn :
    Covers ((empty ⟨.lru 1, .reject⟩).after (Interface.fingerprint Ty.digest) inTurn)
        ((empty ⟨.lru 2, .reject⟩).after (Interface.fingerprint Ty.digest) inTurn) ∧
      Hits (Interface.fingerprint Ty.digest)
        ((empty ⟨.lru 2, .reject⟩).after (Interface.fingerprint Ty.digest) (inTurn.take 2))
        (.view ⟨"Nothing", []⟩ Demo.source 1) := by
  obtain ⟨hcovers, hmoves⟩ :=
    larger_covers (Interface.fingerprint Ty.digest) .reject (Nat.le_succ 1) separates_inTurn
  refine ⟨hcovers inTurn [] (List.append_nil _).symm, (hmoves (inTurn.take 2) _ _ rfl).1 ?_⟩
  unfold Hits
  decide

end Registry

end Structural
