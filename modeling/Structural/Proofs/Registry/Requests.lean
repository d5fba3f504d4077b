import Structural.Proofs.Cache.Recency
import Structural.Proofs.Registry.Origin

/-!
# What a request leaves behind

A registry asked for an adapter type, seen through the order in which its adapter types were last
used and through its counters.

* `Books` -- the counters of a registry, and how many adapter types it keeps. A request finds one
  (`Books.found`), misses one (`Books.missed`), uses an id up (`Books.spent`) or makes one
  (`Books.made`);
* `Served` / `served_blueprint` -- **the five ways in which a request ends**: the adapter type that
  is handed out or the error, and the counters and the order of last use afterwards;
* `Verdict`, `verdict`, `Judged` -- the kinds of replies to a build, and which of them comes after
  which request;
* `served_move` -- **a move that asks, in full**: request, reply, counters and order;
* `ranks_after` -- after every run there is an order of last use;
* `Turn` / `Served.turn` -- the three ways that are left where no other interface stands under the
  key; `Hits` -- a move that is counted as a hit.
-/

namespace Structural

/-- **The counters of a registry**, and how many adapter types it keeps. -/
structure Books where
  nextId : Nat
  minted : Nat
  hits : Nat
  misses : Nat
  evictions : Nat
  size : Nat

namespace Books

/-- One hit. -/
def found (b : Books) : Books :=
  { b with hits := b.hits + 1 }

/-- Some misses. -/
def missed (b : Books) (n : Nat) : Books :=
  { b with misses := b.misses + n }

/-- One id used up. -/
def spent (b : Books) : Books :=
  { b with nextId := b.nextId + 1 }

/-- One adapter type made, and the evictions and the number of those kept afterwards. -/
def made (b : Books) (evictions size : Nat) : Books :=
  { b with nextId := b.nextId + 1, minted := b.minted + 1, evictions := evictions, size := size }

end Books

namespace Registry

/-- The counters of a registry, and how many adapter types it keeps. -/
def books (r : Registry) : Books :=
  ⟨r.nextId, r.minted, r.cache.hits, r.cache.misses, r.cache.evictions, r.cache.size⟩

/-- How often a registry looks for an adapter type that is asked for: once, or not at all if it keeps
    none. -/
def looks (r : Registry) : Nat :=
  if r.cache.capacity = 0 then 0 else 1

/-! ## 1. Parts of a request -/

/-- The registry with one id used up. -/
def spend (r : Registry) : Registry :=
  { r with nextId := r.nextId + 1 }

/-- The registry with one id used up for an adapter type. -/
def issue (r : Registry) : Registry :=
  { r with nextId := r.nextId + 1, minted := r.minted + 1 }

/-- **What a mint changes.** The id is used up as soon as the interface is resolved. -/
theorem mint_snd (r : Registry) (interface : Interface) (source : Source) :
    (r.mint interface source).2 =
      match slotsOver r.config.ambiguity interface source with
      | .error (.resolution _) => r
      | .error _ => r.spend
      | .ok _ => r.issue := by
  unfold mint slotsOver Blueprint.synthesize
  cases resolve r.config.ambiguity interface source with
  | error e => rfl
  | ok table =>
      dsimp only
      cases Blueprint.slotsFor interface source table with
      | error d => cases d <;> rfl
      | ok slots => rfl

variable {fingerprint : Interface → UInt64} {r : Registry} {items : Recency Key Blueprint}
  {interface : Interface} {source : Source}

/-- **A hit**: the adapter type found goes to the front. -/
theorem looked_hit (h : r.cache.Ranks items) (hr : r.cache.size ≤ r.cache.capacity) {b : Blueprint}
    (hk : r.cache.Keeps (key fingerprint interface source.ty) b) (hi : b.interface = interface) :
    (r.looked fingerprint interface source.ty).cache.Ranks
        (items.toFront (key fingerprint interface source.ty) b) ∧
      (r.looked fingerprint interface source.ty).books = r.books.found := by
  let accepts : Blueprint → Bool := fun b => decide (b.interface = interface)
  have ha : accepts b = true := decide_eq_true hi
  have hsize := Cache.lookup_size r.cache (key fingerprint interface source.ty) accepts
  have hlookup := Cache.lookup_eq_hit h.wellKeyed accepts hk ha
  unfold looked
  rw [if_neg (hk.capacity_ne_zero hr)]
  refine ⟨h.lookup_hit accepts hk ha, ?_⟩
  unfold books Books.found
  dsimp only
  rw [hsize, hlookup]

/-- **Nothing found that was asked for**: the order stays. -/
theorem looked_other (h : r.cache.Ranks items) (interface : Interface) (source : Source)
    (hk : ∀ b, r.cache.Keeps (key fingerprint interface source.ty) b → b.interface ≠ interface) :
    (r.looked fingerprint interface source.ty).cache.Ranks items ∧
      (r.looked fingerprint interface source.ty).books = r.books.missed r.looks := by
  have ha : ∀ b, r.cache.Keeps (key fingerprint interface source.ty) b →
      decide (b.interface = interface) = false := fun b hb => decide_eq_false (hk b hb)
  unfold looked looks
  by_cases hzero : r.cache.capacity = 0
  · rw [if_pos hzero, if_pos hzero]
    exact ⟨h, rfl⟩
  · rw [if_neg hzero, if_neg hzero]
    refine ⟨h.lookup_unaccepted ha, ?_⟩
    rw [Cache.lookup_snd_unaccepted ha]
    rfl

/-- **A new adapter type kept** under a key that is not taken. -/
theorem filed_issue (h : r.cache.Ranks items) (hr : r.cache.size ≤ r.cache.capacity) {k : Key}
    (hnew : k ∉ items.keys) (b : Blueprint) :
    ∃ evictions size, evictions + size = r.cache.evictions + r.cache.size + r.looks ∧
      (r.issue.filed k b).cache.Ranks ((items.toFront k b).take r.cache.capacity) ∧
      (r.issue.filed k b).books = r.books.made evictions size := by
  refine ⟨_, _, h.insert_count hnew b, h.insert hr k b, ?_⟩
  unfold books Books.made filed issue
  dsimp only
  rw [Cache.insert_snd_hits, Cache.insert_snd_misses]

/-! ## 2. Requests -/

variable (fingerprint) in
/-- **How a request ends.** The last two arguments are the counters and the order of last use
    afterwards. -/
inductive Served (r : Registry) (items : Recency Key Blueprint) (interface : Interface)
    (source : Source) : Except BuildError Blueprint → Books → Recency Key Blueprint → Prop where
  | hit (b : Blueprint) (hk : (key fingerprint interface source.ty, b) ∈ items)
      (hi : b.interface = interface) :
      Served r items interface source (.ok b) r.books.found
        (items.toFront (key fingerprint interface source.ty) b)
  | clash (b : Blueprint) (hk : (key fingerprint interface source.ty, b) ∈ items)
      (hi : b.interface ≠ interface) :
      Served r items interface source
        (.error (.synthesis (.identityCollision interface.name (fingerprint interface))))
        (r.books.missed r.looks) items
  | unmatched (e : MatchError) (hnew : key fingerprint interface source.ty ∉ items.keys)
      (he : slotsOver r.config.ambiguity interface source = .error (.resolution e)) :
      Served r items interface source (.error (.resolution e)) (r.books.missed r.looks) items
  | refused (e : SynthesisError) (hnew : key fingerprint interface source.ty ∉ items.keys)
      (he : slotsOver r.config.ambiguity interface source = .error (.synthesis e))
      (hmismatch : Blueprint.Mismatch interface source e) :
      Served r items interface source (.error (.synthesis e)) (r.books.missed r.looks).spent items
  | made (slots : List Slot) (evictions size : Nat)
      (hnew : key fingerprint interface source.ty ∉ items.keys)
      (hs : slotsOver r.config.ambiguity interface source = .ok slots)
      (hcount : evictions + size = r.cache.evictions + r.cache.size + r.looks) :
      Served r items interface source (.ok (.ofSlots r.nextId interface source slots))
        ((r.books.missed r.looks).made evictions size)
        ((items.toFront (key fingerprint interface source.ty)
          (.ofSlots r.nextId interface source slots)).take r.cache.capacity)

/-- **Every request ends in one of these ways**, with an order of last use that fits. -/
theorem served_blueprint (fingerprint : Interface → UInt64) (h : r.cache.Ranks items)
    (hr : r.cache.size ≤ r.cache.capacity) (interface : Interface) (source : Source) :
    ∃ items', (r.blueprint fingerprint interface source).2.cache.Ranks items' ∧
      Served fingerprint r items interface source (r.blueprint fingerprint interface source).1
        (r.blueprint fingerprint interface source).2.books items' := by
  have hasks := asks_blueprint fingerprint hr interface source
  generalize r.blueprint fingerprint interface source = p at hasks
  have hnew : (∀ b, ¬ r.cache.Keeps (key fingerprint interface source.ty) b) →
      key fingerprint interface source.ty ∉ items.keys := by
    intro hk hmem
    obtain ⟨b, hb⟩ := Recency.mem_keys.mp hmem
    exact hk b (h.keeps_iff.mpr hb)
  cases hasks with
  | hit b hk hi =>
      obtain ⟨hranks, hbooks⟩ := looked_hit h hr hk hi
      exact ⟨_, hranks, hbooks ▸ .hit b (h.keeps_iff.mp hk) hi⟩
  | clash b hk hi =>
      obtain ⟨hranks, hbooks⟩ := looked_other h interface source
        fun b' hb' => by rwa [hb'.unique h.wellKeyed hk]
      exact ⟨_, hranks, hbooks ▸ .clash b (h.keeps_iff.mp hk) hi⟩
  | refused e hk he =>
      obtain ⟨hranks, hbooks⟩ := looked_other h interface source
        fun b' hb' => absurd hb' (hk b')
      have hmint := mint_snd (r.looked fingerprint interface source.ty) interface source
      rw [looked_config, he] at hmint
      rcases slotsOver_error he with ⟨e, rfl⟩ | ⟨e, rfl, hmismatch⟩
      · dsimp only at hmint
        rw [hmint]
        exact ⟨_, hranks, hbooks ▸ .unmatched e (hnew hk) he⟩
      · dsimp only at hmint
        have hspent : (r.looked fingerprint interface source.ty).spend.books =
            (r.books.missed r.looks).spent := by
          rw [← hbooks]
          rfl
        rw [hmint]
        exact ⟨_, hranks, hspent ▸ .refused e (hnew hk) he hmismatch⟩
  | made slots hk hs =>
      obtain ⟨hranks, hbooks⟩ := looked_other h interface source
        fun b' hb' => absurd hb' (hk b')
      have hcapacity := looked_capacity fingerprint r interface source.ty
      have hsize : (r.looked fingerprint interface source.ty).cache.size = r.cache.size :=
        congrArg Books.size hbooks
      have hevictions : (r.looked fingerprint interface source.ty).cache.evictions =
          r.cache.evictions := congrArg Books.evictions hbooks
      have hlooks : (r.looked fingerprint interface source.ty).looks = r.looks := by
        unfold looks
        rw [hcapacity]
      obtain ⟨evictions, size, hcount, hfiled, hmade⟩ :=
        filed_issue hranks (by rw [hsize, hcapacity]; exact hr) (hnew hk)
          (.ofSlots r.nextId interface source slots)
      have hmint := mint_snd (r.looked fingerprint interface source.ty) interface source
      rw [looked_config, hs] at hmint
      dsimp only at hmint
      rw [hcapacity] at hfiled
      rw [hsize, hevictions, hlooks] at hcount
      rw [hbooks] at hmade
      rw [hmint]
      exact ⟨_, hfiled, hmade ▸ .made slots evictions size (hnew hk) hs hcount⟩

/-! ## 3. Replies -/

/-- **The kinds of replies to a build.** -/
inductive Verdict where
  | built
  | noMatch
  | ambiguous
  | returnMismatch
  | collision
  | targetMismatch
  | outOfBounds
deriving DecidableEq, Repr

/-- Whether a reply comes after an adapter type was found or made. -/
def Verdict.touches : Verdict → Bool
  | built => true
  | targetMismatch => true
  | _ => false

/-- The kind of a reply. -/
def verdict : Except BuildError Adapter → Verdict
  | .ok _ => .built
  | .error (.resolution (.noMatch ..)) => .noMatch
  | .error (.resolution (.ambiguous ..)) => .ambiguous
  | .error (.synthesis (.returnMismatch ..)) => .returnMismatch
  | .error (.synthesis (.identityCollision ..)) => .collision
  | .error (.synthesis (.targetMismatch ..)) => .targetMismatch
  | .error (.outOfBounds _) => .outOfBounds

/-- **What kind of reply a request leads to.** With an adapter type, the instance decides. -/
inductive Judged : Except BuildError Blueprint → Verdict → Prop where
  | built (b : Blueprint) : Judged (.ok b) .built
  | targetMismatch (b : Blueprint) : Judged (.ok b) .targetMismatch
  | failed (e : BuildError) : Judged (.error e) (verdict (.error e))

/-- A reply comes after an adapter type was found or made if there is one. No request fails for the
    instance. -/
theorem Served.touches_iff {result : Except BuildError Blueprint} {books : Books}
    {items' : Recency Key Blueprint} {v : Verdict}
    (h : Served fingerprint r items interface source result books items') (hv : Judged result v) :
    v.touches = true ↔ ∃ b, result = .ok b := by
  cases hv with
  | built b => exact ⟨fun _ => ⟨b, rfl⟩, fun _ => rfl⟩
  | targetMismatch b => exact ⟨fun _ => ⟨b, rfl⟩, fun _ => rfl⟩
  | failed e =>
      have hnot : (verdict (.error e)).touches = false := by
        cases h with
        | clash => rfl
        | unmatched e => cases e <;> rfl
        | refused e _ _ hmismatch =>
            obtain ⟨_, _, _, rfl⟩ := hmismatch
            rfl
      simp [hnot]

/-! ## 4. Moves -/

/-- **A move that asks, in full.** -/
theorem served_move (fingerprint : Interface → UInt64) (h : r.cache.Ranks items)
    (hr : r.cache.size ≤ r.cache.capacity) {m : Move}
    (hm : m.asked? = some (interface, source)) :
    ∃ result reply books items', (r.blueprint fingerprint interface source).1 = result ∧
      (r.move fingerprint m).1 = some reply ∧ Judged result (verdict reply) ∧
      (r.move fingerprint m).2.books = books ∧ (r.move fingerprint m).2.cache.Ranks items' ∧
      Served fingerprint r items interface source result books items' := by
  obtain ⟨target, hmove⟩ := move_of_asked fingerprint hm r
  obtain ⟨items', hranks, hserved⟩ :=
    served_blueprint fingerprint h hr interface source
  rw [hmove]
  refine ⟨_, _, _, items', rfl, rfl, ?_, rfl, hranks, hserved⟩
  cases hreply : (r.build fingerprint interface source target).1 with
  | ok a =>
      obtain ⟨b, hb, _⟩ := build_eq_ok_iff.mp hreply
      rw [hb]
      exact .built b
  | error e =>
      rcases build_eq_error_iff.mp hreply with hb | ⟨b, hb, _, rfl⟩
      · rw [hb]
        exact .failed e
      · rw [hb]
        exact .targetMismatch b

/-- **After every run there is an order of last use.** -/
theorem ranks_after (fingerprint : Interface → UInt64) (config : Config) (moves : List Move) :
    ∃ items, ((empty config).after fingerprint moves).cache.Ranks items := by
  refine after_induction fingerprint (P := fun _ r => ∃ items, r.cache.Ranks items)
    ⟨[], Cache.ranks_empty _⟩ (fun past m ih => ?_) moves
  obtain ⟨items, hitems⟩ := ih
  rcases m.clear_or_asked with rfl | ⟨interface, source, hm⟩
  · exact ⟨[], Cache.ranks_clear _⟩
  · obtain ⟨_, _, _, items', _, _, _, _, hranks, _⟩ :=
      served_move fingerprint hitems (regular_after fingerprint config past).bounded hm
    exact ⟨items', hranks⟩

/-! ## 5. Without clashes -/

/-- **How a request ends where no other interface stands under its key `k`**: with an adapter type
    found there, with a new one, or without one. -/
inductive Turn (r : Registry) (items : Recency Key Blueprint) (k : Key)
    (slots : Except BuildError (List Slot)) :
    Except BuildError Blueprint → Books → Recency Key Blueprint → Prop where
  | found (b : Blueprint) (books : Books) (hk : (k, b) ∈ items)
      (hhits : books.hits = r.cache.hits + 1) (hminted : books.minted = r.minted) :
      Turn r items k slots (.ok b) books ((items.toFront k b).take r.cache.capacity)
  | made (b : Blueprint) (books : Books) (hnew : k ∉ items.keys) (hs : slots = .ok b.slots)
      (hid : b.id = r.nextId) (hhits : books.hits = r.cache.hits)
      (hminted : books.minted = r.minted + 1) :
      Turn r items k slots (.ok b) books ((items.toFront k b).take r.cache.capacity)
  | failed (e : BuildError) (books : Books) (hnew : k ∉ items.keys) (he : slots = .error e)
      (hhits : books.hits = r.cache.hits) (hminted : books.minted = r.minted) :
      Turn r items k slots (.error e) books items

theorem Served.turn {result : Except BuildError Blueprint} {books : Books}
    {items' : Recency Key Blueprint}
    (h : Served fingerprint r items interface source result books items')
    (hranks : r.cache.Ranks items) (hr : r.cache.size ≤ r.cache.capacity)
    (hkept : ∀ b, (key fingerprint interface source.ty, b) ∈ items → b.interface = interface) :
    Turn r items (key fingerprint interface source.ty)
      (slotsOver r.config.ambiguity interface source) result books items' := by
  cases h with
  | hit b hk _ =>
      -- the key is listed, so no item has to go
      have hle : (items.toFront (key fingerprint interface source.ty) b).length ≤
          r.cache.capacity := by
        rw [Recency.length_toFront_of_mem hranks.nodup (Recency.mem_keys.mpr ⟨b, hk⟩),
          hranks.length]
        exact hr
      rw [← List.take_of_length_le hle]
      exact .found b _ hk rfl rfl
  | clash b hk hi => exact absurd (hkept b hk) hi
  | unmatched e hnew he => exact .failed _ _ hnew he rfl rfl
  | refused e hnew he _ => exact .failed _ _ hnew he rfl rfl
  | made slots _ _ hnew hs _ => exact .made _ _ hnew hs rfl rfl rfl

/-- The hits of a registry go up where something stands under the key. -/
theorem Turn.hits_iff {k : Key} {slots : Except BuildError (List Slot)}
    {result : Except BuildError Blueprint} {books : Books} {items' : Recency Key Blueprint}
    (h : Turn r items k slots result books items') :
    books.hits = r.cache.hits + 1 ↔ k ∈ items.keys := by
  cases h with
  | found b _ hk hhits => exact iff_of_true hhits (Recency.mem_keys.mpr ⟨b, hk⟩)
  | made _ _ hnew _ _ hhits => exact iff_of_false (by omega) hnew
  | failed _ _ hnew _ hhits => exact iff_of_false (by omega) hnew

/-- There is an adapter type where one stands under the key, or the interface can be had. -/
theorem Turn.ok_iff {k : Key} {slots : Except BuildError (List Slot)}
    {result : Except BuildError Blueprint} {books : Books} {items' : Recency Key Blueprint}
    (h : Turn r items k slots result books items') :
    (∃ b, result = .ok b) ↔ k ∈ items.keys ∨ ∃ s, slots = .ok s := by
  cases h with
  | found b _ hk => exact iff_of_true ⟨b, rfl⟩ (Or.inl (Recency.mem_keys.mpr ⟨b, hk⟩))
  | made b _ _ hs => exact iff_of_true ⟨b, rfl⟩ (Or.inr ⟨b.slots, hs⟩)
  | failed _ _ hnew he => simp [hnew, he]

/-- **A move is counted as a hit.** -/
def Hits (fingerprint : Interface → UInt64) (r : Registry) (m : Move) : Prop :=
  (r.move fingerprint m).2.stats.cache.hits = r.stats.cache.hits + 1

theorem hits_iff {m : Move} {books : Books} (h : (r.move fingerprint m).2.books = books) :
    Hits fingerprint r m ↔ books.hits = r.cache.hits + 1 := by
  rw [← h]
  rfl

end Registry

end Structural
