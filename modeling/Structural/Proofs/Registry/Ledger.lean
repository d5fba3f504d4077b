import Structural.Proofs.Registry.Ids

/-!
# The books of a registry

The counters of a registry compared with the replies that it has given.

* `verdicts` -- the replies of a run, by kind; `dropped` -- how many adapter types its clearings
  dropped;
* `Balanced` -- **the counters and the replies agree**;
* `Balanced.after_found`, `Balanced.after_missed`, `Balanced.after_spent`, `Balanced.after_made` -- a
  request of each kind keeps them in agreement, whatever it replies (`Balanced.after_request`);
* `books_balance` -- **after every run they agree**, and adapter types made later have greater ids.
-/

namespace Structural.Registry

/-! ## 1. What a run has replied and dropped -/

variable (fingerprint : Interface → UInt64)

/-- **The replies of a run, by kind.** -/
def verdicts (config : Config) (moves : List Move) : List Verdict :=
  ((empty config).replies fingerprint moves).filterMap (·.map verdict)

/-- How many adapter types a move drops by clearing. -/
def droppedBy (r : Registry) : Move → Nat
  | .clear => r.cache.size
  | _ => 0

/-- **How many adapter types a list of moves drops by clearing.** -/
def dropped (r : Registry) : List Move → Nat
  | [] => 0
  | m :: rest => r.droppedBy m + dropped (r.move fingerprint m).2 rest

variable {fingerprint}

theorem replies_snoc : ∀ (past : List Move) (r : Registry) (m : Move),
    r.replies fingerprint (past ++ [m]) =
      r.replies fingerprint past ++ [((r.after fingerprint past).move fingerprint m).1]
  | [], _, _ => rfl
  | m :: past, r, m' => congrArg _ (replies_snoc past (r.move fingerprint m).2 m')

theorem dropped_snoc : ∀ (past : List Move) (r : Registry) (m : Move),
    dropped fingerprint r (past ++ [m]) =
      dropped fingerprint r past + (r.after fingerprint past).droppedBy m
  | [], r, m => Nat.add_comm (r.droppedBy m) 0
  | m :: past, r, m' => by
      have ih := dropped_snoc past (r.move fingerprint m).2 m'
      calc dropped fingerprint r (m :: past ++ [m'])
          = r.droppedBy m + dropped fingerprint (r.move fingerprint m).2 (past ++ [m']) := rfl
        _ = r.droppedBy m + (dropped fingerprint (r.move fingerprint m).2 past +
              ((r.move fingerprint m).2.after fingerprint past).droppedBy m') := by rw [ih]
        _ = dropped fingerprint r (m :: past) +
              (r.after fingerprint (m :: past)).droppedBy m' := (Nat.add_assoc _ _ _).symm

theorem droppedBy_of_asked {r : Registry} {m : Move} {asked : Interface × Source}
    (h : m.asked? = some asked) : r.droppedBy m = 0 := by
  cases m with
  | build => rfl
  | view => rfl
  | clear => cases h

theorem verdicts_snoc_clear (config : Config) (past : List Move) :
    verdicts fingerprint config (past ++ [.clear]) = verdicts fingerprint config past := by
  unfold verdicts
  rw [replies_snoc, List.filterMap_append]
  exact List.append_nil _

theorem verdicts_snoc_reply {config : Config} {past : List Move} {m : Move}
    {reply : Except BuildError Adapter}
    (h : (((empty config).after fingerprint past).move fingerprint m).1 = some reply) :
    verdicts fingerprint config (past ++ [m]) =
      verdicts fingerprint config past ++ [verdict reply] := by
  unfold verdicts
  rw [replies_snoc, List.filterMap_append, h]
  rfl

/-! ## 2. Agreement -/

/-- **The counters of a registry and its replies agree.** A registry of capacity 0 keeps and looks
    for nothing. -/
structure Balanced (capacity : Nat) (b : Books) (replies : List Verdict) (dropped : Nat) : Prop where
  /-- An id is used up by an adapter type, or lost where a result type differs. -/
  ids : b.nextId = b.minted + replies.count .returnMismatch
  /-- An adapter type is found or made for an adapter, or for an instance of another type. -/
  used : b.hits + b.minted = replies.count .built + replies.count .targetMismatch
  size_le : b.size ≤ capacity
  /-- Every build looks. -/
  looked : 0 < capacity → b.hits + b.misses = replies.length
  /-- What misses makes an adapter type, or fails otherwise than for the instance. -/
  missed : 0 < capacity → b.misses = b.minted + replies.count .noMatch + replies.count .ambiguous +
    replies.count .returnMismatch + replies.count .collision
  /-- What is made is kept, evicted or dropped. -/
  kept : 0 < capacity → b.minted = b.size + b.evictions + dropped
  idle : capacity = 0 → b.hits = 0 ∧ b.misses = 0 ∧ b.evictions = 0 ∧ b.size = 0 ∧
    b.minted = replies.count .built + replies.count .targetMismatch

variable {capacity : Nat} {b : Books} {replies : List Verdict} {gone : Nat}

theorem count_snoc (replies : List Verdict) (v w : Verdict) :
    (replies ++ [v]).count w = replies.count w + if v = w then 1 else 0 := by
  rw [List.count_append, List.count_singleton]
  by_cases h : v = w <;> simp [h]

theorem balanced_empty (capacity : Nat) : Balanced capacity ⟨0, 0, 0, 0, 0, 0⟩ [] 0 where
  ids := rfl
  used := rfl
  size_le := Nat.zero_le _
  looked := fun _ => rfl
  missed := fun _ => rfl
  kept := fun _ => rfl
  idle := fun _ => ⟨rfl, rfl, rfl, rfl, rfl⟩

/-- A clearing drops all that is kept. -/
theorem Balanced.after_clear (h : Balanced capacity b replies gone) :
    Balanced capacity { b with size := 0 } replies (gone + b.size) := by
  obtain ⟨hids, hused, hsize, hlooked, hmissed, hkept, hidle⟩ := h
  constructor <;> dsimp only <;> omega

/-- An adapter type is found. -/
theorem Balanced.after_found (h : Balanced capacity b replies gone) (hpos : capacity ≠ 0)
    {v : Verdict} (hv : v = .built ∨ v = .targetMismatch) :
    Balanced capacity b.found (replies ++ [v]) gone := by
  obtain ⟨hids, hused, hsize, hlooked, hmissed, hkept, hidle⟩ := h
  unfold Books.found
  rcases hv with rfl | rfl <;>
    constructor <;> simp only [count_snoc, List.length_append, List.length_singleton, reduceCtorEq,
      if_false, if_true] <;> omega

/-- No adapter type is found or made, and no id used up. -/
theorem Balanced.after_missed (h : Balanced capacity b replies gone) {n : Nat}
    (hn : n = if capacity = 0 then 0 else 1) {v : Verdict}
    (hv : v = .noMatch ∨ v = .ambiguous ∨ v = .collision) :
    Balanced capacity (b.missed n) (replies ++ [v]) gone := by
  obtain ⟨hids, hused, hsize, hlooked, hmissed, hkept, hidle⟩ := h
  unfold Books.missed
  rcases hv with rfl | rfl | rfl <;>
    constructor <;> simp only [count_snoc, List.length_append, List.length_singleton, reduceCtorEq,
      if_false, if_true] <;> split at hn <;> omega

/-- An id is used up and no adapter type made. -/
theorem Balanced.after_spent (h : Balanced capacity b replies gone) {n : Nat}
    (hn : n = if capacity = 0 then 0 else 1) :
    Balanced capacity (b.missed n).spent (replies ++ [.returnMismatch]) gone := by
  obtain ⟨hids, hused, hsize, hlooked, hmissed, hkept, hidle⟩ := h
  unfold Books.missed Books.spent
  constructor <;> simp only [count_snoc, List.length_append, List.length_singleton, reduceCtorEq,
    if_false, if_true] <;> split at hn <;> omega

/-- An adapter type is made. -/
theorem Balanced.after_made (h : Balanced capacity b replies gone) {n evictions size : Nat}
    (hn : n = if capacity = 0 then 0 else 1) (hcount : evictions + size = b.evictions + b.size + n)
    (hle : size ≤ capacity) {v : Verdict} (hv : v = .built ∨ v = .targetMismatch) :
    Balanced capacity ((b.missed n).made evictions size) (replies ++ [v]) gone := by
  obtain ⟨hids, hused, hsize, hlooked, hmissed, hkept, hidle⟩ := h
  unfold Books.missed Books.made
  rcases hv with rfl | rfl <;>
    constructor <;> simp only [count_snoc, List.length_append, List.length_singleton, reduceCtorEq,
      if_false, if_true] <;> split at hn <;> omega

/-! ## 3. Requests and runs -/

/-- A reply that comes with an adapter type is an adapter or a refusal of the instance. -/
theorem verdict_of_judged_ok {b : Blueprint} {v : Verdict} (h : Judged (.ok b) v) :
    v = .built ∨ v = .targetMismatch := by
  cases h with
  | built => exact Or.inl rfl
  | targetMismatch => exact Or.inr rfl

/-- **A request keeps counters and replies in agreement.** -/
theorem Balanced.after_request {r : Registry} {items items' : Recency Key Blueprint}
    {interface : Interface} {source : Source} {result : Except BuildError Blueprint} {v : Verdict}
    {b' : Books} (h : Balanced r.cache.capacity r.books replies gone) (hranks : r.cache.Ranks items)
    (hserved : Served fingerprint r items interface source result b' items')
    (hsize : b'.size ≤ r.cache.capacity) (hv : Judged result v) :
    Balanced r.cache.capacity b' (replies ++ [v]) gone := by
  cases hserved with
  | hit b hk =>
      have hpos := (hranks.keeps_iff.mpr hk).capacity_ne_zero h.size_le
      exact h.after_found hpos (verdict_of_judged_ok hv)
  | clash =>
      cases hv
      exact h.after_missed rfl (Or.inr (Or.inr rfl))
  | unmatched e =>
      cases hv
      cases e with
      | noMatch => exact h.after_missed rfl (Or.inl rfl)
      | ambiguous => exact h.after_missed rfl (Or.inr (Or.inl rfl))
  | refused e _ _ hmismatch =>
      obtain ⟨_, _, _, rfl⟩ := hmismatch
      cases hv
      exact h.after_spent rfl
  | made slots evictions size _ _ hcount =>
      exact h.after_made rfl hcount hsize (verdict_of_judged_ok hv)

/-- Counters and replies agree after every run. -/
theorem balanced_after (fingerprint : Interface → UInt64) (config : Config) (moves : List Move) :
    Balanced config.cache.capacity ((empty config).after fingerprint moves).books
      (verdicts fingerprint config moves) (dropped fingerprint (empty config) moves) := by
  refine after_induction fingerprint (r := empty config)
    (P := fun moves r => Balanced config.cache.capacity r.books (verdicts fingerprint config moves)
      (dropped fingerprint (empty config) moves))
    (balanced_empty config.cache.capacity) (fun past m ih => ?_) moves
  rw [dropped_snoc]
  rcases m.clear_or_asked with rfl | ⟨interface, source, hm⟩
  · rw [verdicts_snoc_clear]
    exact ih.after_clear
  · have hregular := regular_after fingerprint config past
    have hafter := (hregular.move fingerprint m).bounded
    rw [(hregular.move fingerprint m).capacity] at hafter
    obtain ⟨items, hranks⟩ := ranks_after fingerprint config past
    obtain ⟨_, reply, b', _, _, hreply, hv, hbooks, _, hserved⟩ :=
      served_move fingerprint hranks hregular.bounded hm
    have hsize : b'.size ≤ config.cache.capacity := by
      rw [← hbooks]
      exact hafter
    rw [verdicts_snoc_reply hreply, droppedBy_of_asked hm, Nat.add_zero, hbooks]
    rw [← hregular.capacity] at ih hsize ⊢
    exact ih.after_request hranks hserved hsize hv

/-- **The books of a registry balance** after every run, of any capacity, and the adapter types made
    have increasing ids. -/
theorem books_balance (fingerprint : Interface → UInt64) (config : Config) (moves : List Move) :
    Balanced config.cache.capacity ((empty config).after fingerprint moves).books
        (verdicts fingerprint config moves) (dropped fingerprint (empty config) moves) ∧
      IdsIncrease fingerprint config moves :=
  ⟨balanced_after fingerprint config moves, idsIncrease fingerprint config moves⟩

end Structural.Registry
