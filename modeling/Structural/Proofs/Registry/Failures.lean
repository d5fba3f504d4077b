import Structural.Demo.Arithmetic
import Structural.Proofs.Cache.Displaced
import Structural.Proofs.Registry.Conformance
import Structural.Proofs.Registry.Ids

/-!
# Builds that fail

What a build that gives no adapter leaves behind, and what of it can be noticed later.

* `Gap`, `Registry.behind` -- a gap in the past of a registry, and **the registry behind it**: its
  clock, its misses and its next id are ahead, and ids given since are shifted;
* `Registry.Follows` -- the gap lies in the past of a registry, where it stays (`Follows.move`);
* `move_behind`, `after_behind`, `replies_behind` -- **behind a gap all goes on as before**, up to the
  shift of ids;
* `inVain`, `move_snd_of_error` -- what a build leaves that fails, but not for its instance: such a gap
  and no more (`behind_now`);
* `Untouched`, `Unnoticed` -- what this means at once, and for everything asked later;
* `failed_builds_harmless` -- **builds that fail harm no registry**. One that fails for its instance
  has done all that a build does.
-/

namespace Structural

/-- **A gap in the past of a registry**: the first id and the first stamp after it, how many ids are
    lost in it, and how many look-ups were in vain. -/
structure Gap where
  id : Nat
  lost : Nat
  stamp : Nat
  looks : Nat

/-- The adapter type with its id shifted, if it is not below a bound. -/
def Blueprint.shifted (bound lost : Nat) (b : Blueprint) : Blueprint :=
  { b with id := skip bound lost b.id }

/-- The adapter with the id of its adapter type shifted. -/
def Adapter.shifted (bound lost : Nat) (a : Adapter) : Adapter :=
  { a with blueprint := a.blueprint.shifted bound lost }

/-- An adapter type is bound to the same instances, whatever its id. -/
theorem Blueprint.bind_shifted (bound lost : Nat) (b : Blueprint) (target : Target) :
    (b.shifted bound lost).bind target = (b.bind target).map (Adapter.shifted bound lost) := by
  unfold Blueprint.bind
  rw [apply_ite (Except.map (Adapter.shifted bound lost))]
  rfl

namespace Registry

/-- An answer with the id in it shifted. -/
def shiftedAnswer (bound lost : Nat) :
    Option (Except BuildError Adapter) → Option (Except BuildError Adapter) :=
  Option.map (Except.map (Adapter.shifted bound lost))

/-- **The registry behind a gap.** -/
def behind (g : Gap) (r : Registry) : Registry :=
  { r with
    nextId := r.nextId + g.lost
    cache := r.cache.displaced (Blueprint.shifted g.id g.lost) g.stamp g.looks }

/-- A gap lies in the past of a registry. -/
structure Follows (g : Gap) (r : Registry) : Prop where
  id : g.id ≤ r.nextId
  stamp : g.stamp ≤ r.cache.clock + 1

variable {fingerprint : Interface → UInt64} {g : Gap} {r : Registry} {interface : Interface}
  {source : Source}

/-! ## 1. Gaps in the past -/

theorem Follows.looked (h : Follows g r) (interface : Interface) (ty : Ty) :
    Follows g (r.looked fingerprint interface ty) := by
  unfold Registry.looked
  split
  · exact h
  · refine ⟨h.id, Nat.le_trans h.stamp ?_⟩
    dsimp only
    rw [Cache.clock_lookup]
    exact Nat.le_succ _

theorem Follows.mint (h : Follows g r) (interface : Interface) (source : Source) :
    Follows g (r.mint interface source).2 := by
  rw [mint_snd]
  split
  · exact h
  · exact ⟨Nat.le_succ_of_le h.id, h.stamp⟩
  · exact ⟨Nat.le_succ_of_le h.id, h.stamp⟩

theorem Follows.filed (h : Follows g r) (k : Key) (b : Blueprint) : Follows g (r.filed k b) :=
  ⟨h.id, Nat.le_trans h.stamp (Nat.succ_le_succ (Cache.clock_le_insert r.cache k b))⟩

/-- **A gap that lies in the past stays there**: ids and stamps only go up. -/
theorem Follows.move (h : Follows g r) (hr : r.cache.size ≤ r.cache.capacity) (m : Move) :
    Follows g (r.move fingerprint m).2 := by
  rcases m.clear_or_asked with rfl | ⟨interface, source, hm⟩
  · exact ⟨h.id, h.stamp⟩
  · obtain ⟨_, hmove⟩ := move_of_asked fingerprint hm r
    rw [hmove]
    have hasks := asks_blueprint fingerprint hr interface source
    generalize r.blueprint fingerprint interface source = p at hasks
    cases hasks with
    | hit => exact h.looked interface source.ty
    | clash => exact h.looked interface source.ty
    | refused => exact (h.looked interface source.ty).mint interface source
    | made => exact ((h.looked interface source.ty).mint interface source).filed _ _

/-! ## 2. Behind a gap -/

theorem mint_behind (h : g.id ≤ r.nextId) (interface : Interface) (source : Source) :
    (r.behind g).mint interface source =
      ((r.mint interface source).1.map (Blueprint.shifted g.id g.lost),
        (r.mint interface source).2.behind g) := by
  have hnext : r.nextId + g.lost + 1 = r.nextId + 1 + g.lost := Nat.add_right_comm _ _ _
  unfold mint Blueprint.synthesize
  simp only [behind]
  cases resolve r.config.ambiguity interface source with
  | error e => rfl
  | ok table =>
      dsimp only
      cases Blueprint.slotsFor interface source table with
      | error d => cases d <;> simp only [Except.map, hnext]
      | ok slots => simp only [Except.map, Blueprint.shifted, skip_of_le h, hnext]

theorem filed_behind (h : Follows g r) (k : Key) (b : Blueprint) :
    (r.behind g).filed k (b.shifted g.id g.lost) = (r.filed k b).behind g := by
  have hinsert := Cache.insert_displaced (Blueprint.shifted g.id g.lost) g.stamp g.looks h.stamp k b
  unfold filed behind
  dsimp only
  rw [hinsert]

/-- A registry behind a gap hands out the same adapter types. -/
theorem blueprint_behind (h : Follows g r) (interface : Interface) (source : Source) :
    (r.behind g).blueprint fingerprint interface source =
      ((r.blueprint fingerprint interface source).1.map (Blueprint.shifted g.id g.lost),
        (r.blueprint fingerprint interface source).2.behind g) := by
  have hcap : (r.behind g).cache.capacity = r.cache.capacity := rfl
  have hcache : (r.behind g).cache =
      r.cache.displaced (Blueprint.shifted g.id g.lost) g.stamp g.looks := rfl
  have hlookup := Cache.lookup_displaced (Blueprint.shifted g.id g.lost) g.stamp g.looks h.stamp
    (key fingerprint interface source.ty) (fun b => decide (b.interface = interface))
    (fun b => decide (b.interface = interface)) fun _ => rfl
  have hclock := Cache.clock_lookup r.cache (key fingerprint interface source.ty)
    fun b => decide (b.interface = interface)
  unfold blueprint
  rw [hcap]
  by_cases hzero : r.cache.capacity = 0
  · rw [if_pos hzero, if_pos hzero]
    exact mint_behind h.id interface source
  · rw [if_neg hzero, if_neg hzero]
    dsimp only
    rw [hcache, hlookup]
    cases hl : r.cache.lookup (key fingerprint interface source.ty)
        fun b => decide (b.interface = interface) with
    | mk found cache =>
        rw [hl] at hclock
        -- what is found ends the request; after a miss the mint and the filing are behind the gap
        cases found with
        | hit b => rfl
        | clash b => rfl
        | miss =>
            have hlooked : Follows g { r with cache := cache } :=
              ⟨h.id, Nat.le_trans h.stamp (by dsimp only at hclock ⊢; omega)⟩
            have hlast := hlooked.mint interface source
            have hmint := mint_behind hlooked.id interface source
            simp only [behind] at hmint
            simp only [Lookup.map, behind]
            rw [hmint]
            cases hm : ({ r with cache := cache } : Registry).mint interface source with
            | mk result last =>
                rw [hm] at hlast
                cases result with
                | error e => rfl
                | ok b =>
                    exact congrArg (Prod.mk _)
                      (filed_behind hlast (key fingerprint interface source.ty) b)

theorem build_behind (h : Follows g r) (interface : Interface) (source : Source)
    (target : Target) :
    (r.behind g).build fingerprint interface source target =
      ((r.build fingerprint interface source target).1.map (Adapter.shifted g.id g.lost),
        (r.build fingerprint interface source target).2.behind g) := by
  unfold build
  rw [blueprint_behind h]
  cases r.blueprint fingerprint interface source with
  | mk result last =>
      cases result with
      | error e => rfl
      | ok b =>
          simp only [Except.map]
          rw [Blueprint.bind_shifted]
          cases b.bind target <;> rfl

/-- **Every move is answered alike behind a gap**, up to the shift of ids, and stays behind it. -/
theorem move_behind (h : Follows g r) (m : Move) :
    (r.behind g).move fingerprint m =
      (shiftedAnswer g.id g.lost (r.move fingerprint m).1, (r.move fingerprint m).2.behind g) := by
  cases m with
  | build interface source target =>
      simp only [move, build_behind h, shiftedAnswer, Option.map_some]
  | view interface source ref =>
      simp only [move, view, build_behind h, shiftedAnswer, Option.map_some]
  | clear => simp only [move, clear, behind, Cache.clear_displaced, shiftedAnswer, Option.map_none]

/-! ## 3. Runs behind a gap -/

variable {config : Config}

/-- **A registry behind a gap stays behind it**, after any moves. -/
theorem after_behind : ∀ (moves : List Move) {r : Registry}, Follows g r → Regular config r →
    (r.behind g).after fingerprint moves = (r.after fingerprint moves).behind g
  | [], _, _, _ => rfl
  | m :: moves, r, h, hr => by
      unfold after
      rw [move_behind h]
      exact after_behind moves (h.move hr.bounded m) (hr.move fingerprint m)

/-- **Behind a gap all moves are answered alike**, up to the shift of ids. -/
theorem replies_behind : ∀ (moves : List Move) {r : Registry}, Follows g r → Regular config r →
    (r.behind g).replies fingerprint moves =
      (r.replies fingerprint moves).map (shiftedAnswer g.id g.lost)
  | [], _, _, _ => rfl
  | m :: moves, r, h, hr => by
      unfold replies
      rw [move_behind h, List.map_cons]
      exact congrArg _ (replies_behind moves (h.move hr.bounded m) (hr.move fingerprint m))

/-! ## 4. Requests in vain -/

variable {past : List Move}

/-- Everything kept after a run has an id and a stamp from the past. -/
theorem kept_before (fingerprint : Interface → UInt64) (config : Config) (past : List Move) :
    ∀ e ∈ ((empty config).after fingerprint past).cache.entries,
      e.item.id < ((empty config).after fingerprint past).nextId ∧
        e.stamp ≤ ((empty config).after fingerprint past).cache.clock := by
  intro e he
  have hk : ((empty config).after fingerprint past).cache.Keeps e.key e.item :=
    Cache.keeps_iff.mpr ⟨e, he, rfl, rfl⟩
  obtain ⟨_, _, hminted⟩ := origin_of_kept past hk
  obtain ⟨before, m, rest, hpast, hmakes⟩ := hminted.mintedIn
  have hissued : IssuedIn fingerprint config past e.item.id :=
    ⟨before, m, rest, hpast, hmakes.issues⟩
  obtain ⟨_, hranks⟩ := ranks_after fingerprint config past
  obtain ⟨order, horder, _⟩ := hranks.inOrder
  exact ⟨hissued.lt_nextId, horder.past e (horder.perm.mem_iff.mpr he)⟩

/-- The registry after a request in vain, in which ids may be lost. -/
def inVain (r : Registry) (lost : Nat) : Registry :=
  { r with
    nextId := r.nextId + lost
    cache := { r.cache with
      clock := r.cache.clock + r.looks
      misses := r.cache.misses + r.looks } }

/-- A request in vain leaves a gap behind. -/
theorem behind_now (fingerprint : Interface → UInt64) (config : Config) (past : List Move)
    (lost : Nat) {r : Registry} (hr : (empty config).after fingerprint past = r) :
    r.behind ⟨r.nextId, lost, r.cache.clock + 1, r.looks⟩ = r.inVain lost := by
  have hkept := kept_before fingerprint config past
  rw [hr] at hkept
  unfold behind
  rw [Cache.displaced_of_before _ _ (fun e he => Nat.lt_succ_of_le (hkept e he).2) fun e he => ?_]
  · rfl
  · unfold Blueprint.shifted
    rw [skip_of_lt (hkept e he).1]

/-- A registry that has looked for what it does not keep. -/
theorem looked_eq_inVain (hk : ∀ b, r.cache.Keeps (key fingerprint interface source.ty) b →
      b.interface ≠ interface) :
    r.looked fingerprint interface source.ty = r.inVain 0 := by
  unfold looked inVain looks
  by_cases hzero : r.cache.capacity = 0
  · rw [if_pos hzero, if_pos hzero]
    rfl
  · rw [if_neg hzero, if_neg hzero,
      Cache.lookup_snd_unaccepted fun b hb => decide_eq_false (hk b hb)]
    rfl

/-- How many ids a failed build uses up: one, if a result type differs. -/
def lostBy (e : BuildError) : Nat :=
  if verdict (.error e) = .returnMismatch then 1 else 0

/-- **What a request leaves behind that fails.** -/
theorem blueprint_snd_of_error (hr : Regular config r) {e : BuildError}
    (h : (r.blueprint fingerprint interface source).1 = .error e) :
    (r.blueprint fingerprint interface source).2 = r.inVain (lostBy e) := by
  have hasks := asks_blueprint fingerprint hr.bounded interface source
  generalize r.blueprint fingerprint interface source = p at hasks h
  -- a clash and a refusal look in vain, and only a refusal may have used up an id by then
  cases hasks with
  | hit => cases h
  | made => cases h
  | clash b hk hi =>
      cases h
      exact looked_eq_inVain fun b' hb' => by rwa [hb'.unique hr.wellKeyed hk]
  | refused e' hvacant he =>
      cases h
      have hlooked : r.looked fingerprint interface source.ty = r.inVain 0 :=
        looked_eq_inVain fun b hb => absurd hb (hvacant b)
      have hmint := mint_snd (r.looked fingerprint interface source.ty) interface source
      rw [looked_config, he] at hmint
      dsimp only at hmint ⊢
      rw [hmint, hlooked]
      rcases slotsOver_error he with ⟨e, rfl⟩ | ⟨e, rfl, _, _, _, rfl⟩
      · cases e <;> rfl
      · rfl

/-- A build that fails, but not for its instance, is a request in vain. -/
theorem move_snd_of_error (hr : Regular config r) {m : Move} {e : BuildError}
    (h : (r.move fingerprint m).1 = some (.error e)) (hv : verdict (.error e) ≠ .targetMismatch) :
    (r.move fingerprint m).2 = r.inVain (lostBy e) := by
  rcases m.clear_or_asked with rfl | ⟨interface, source, hm⟩
  · cases h
  · obtain ⟨target, hmove⟩ := move_of_asked fingerprint hm r
    rw [hmove] at h ⊢
    rcases build_eq_error_iff.mp (Option.some.inj h) with hb | ⟨_, _, _, rfl⟩
    · exact blueprint_snd_of_error hr hb
    · exact absurd rfl hv

/-! ## 5. Builds that fail -/

/-- **What a failed build leaves as it was**: everything kept, with the stamps of its last use and in
    the same order, and all counters. Only the misses and the next id may have moved on. -/
structure Untouched (r r' : Registry) (lost : Nat) : Prop where
  config : r'.config = r.config
  capacity : r'.cache.capacity = r.cache.capacity
  entries : r'.cache.entries = r.cache.entries
  recency : ∀ items, r.cache.Ranks items → r'.cache.Ranks items
  books : r'.books = { r.books.missed r.looks with nextId := r.nextId + lost }

/-- **Nothing that is asked later tells two registries apart**: any moves are answered alike, and the
    counters reported after them are the same, up to misses and a shift of later ids. -/
structure Unnoticed (fingerprint : Interface → UInt64) (r r' : Registry) (lost : Nat) : Prop where
  replies : ∀ rest, r'.replies fingerprint rest =
    (r.replies fingerprint rest).map (shiftedAnswer r.nextId lost)
  minted : ∀ rest, (r'.after fingerprint rest).stats.minted =
    (r.after fingerprint rest).stats.minted
  cache : ∀ rest, (r'.after fingerprint rest).stats.cache =
    { (r.after fingerprint rest).stats.cache with
      misses := (r.after fingerprint rest).stats.cache.misses + r.looks }

/-- **A failed build harms no registry.** If it fails for its instance, it has done what the build
    does for an instance of the type described. -/
structure Harmless (fingerprint : Interface → UInt64) (r : Registry) (m : Move) (e : BuildError) :
    Prop where
  untouched : verdict (.error e) ≠ .targetMismatch →
    Untouched r (r.move fingerprint m).2 (lostBy e)
  unnoticed : verdict (.error e) ≠ .targetMismatch →
    Unnoticed fingerprint r (r.move fingerprint m).2 (lostBy e)
  completed : verdict (.error e) = .targetMismatch →
    ∃ interface source, m.asked? = some (interface, source) ∧ ∀ ref, ∃ a,
      r.move fingerprint (.build interface source ⟨ref, source.ty⟩) =
        (some (.ok a), (r.move fingerprint m).2)

theorem untouched_inVain (r : Registry) (lost : Nat) : Untouched r (r.inVain lost) lost :=
  ⟨rfl, rfl, rfl, fun _ hranks => hranks.of_perm (.refl _) (Nat.le_add_right _ _), rfl⟩

theorem unnoticed_behind (hr : Regular config r) (lost : Nat) :
    Unnoticed fingerprint r (r.behind ⟨r.nextId, lost, r.cache.clock + 1, r.looks⟩) lost := by
  have hfollows : Follows ⟨r.nextId, lost, r.cache.clock + 1, r.looks⟩ r :=
    ⟨Nat.le_refl _, Nat.le_refl _⟩
  refine ⟨fun rest => replies_behind rest hfollows hr, fun rest => ?_, fun rest => ?_⟩
  · rw [after_behind rest hfollows hr]
    rfl
  · rw [after_behind rest hfollows hr]
    unfold stats Cache.stats
    dsimp only
    rw [behind, Cache.size_displaced]
    rfl

theorem mismatch_of_verdict : ∀ {e : BuildError}, verdict (.error e) = .targetMismatch →
    ∃ name expected, e = .synthesis (.targetMismatch name expected)
  | .synthesis (.targetMismatch name expected), _ => ⟨name, expected, rfl⟩
  | .resolution (.noMatch ..), h => by cases h
  | .resolution (.ambiguous ..), h => by cases h
  | .synthesis (.returnMismatch ..), h => by cases h
  | .synthesis (.identityCollision ..), h => by cases h
  | .outOfBounds _, h => by cases h

/-- A build that fails for its instance has its adapter type, and goes on like one that succeeds. -/
theorem completed_of_mismatch {m : Move} {e : BuildError}
    (h : (((empty config).after fingerprint past).move fingerprint m).1 = some (.error e))
    (hv : verdict (.error e) = .targetMismatch) :
    ∃ interface source, m.asked? = some (interface, source) ∧ ∀ ref, ∃ a,
      ((empty config).after fingerprint past).move fingerprint
          (.build interface source ⟨ref, source.ty⟩) =
        (some (.ok a), (((empty config).after fingerprint past).move fingerprint m).2) := by
  obtain ⟨name, expected, rfl⟩ := mismatch_of_verdict hv
  rcases m.clear_or_asked with rfl | ⟨interface, source, hm⟩
  · cases h
  · obtain ⟨target, hmove⟩ := move_of_asked fingerprint hm ((empty config).after fingerprint past)
    rw [hmove] at h ⊢
    refine ⟨interface, source, hm, fun ref => ?_⟩
    rcases build_eq_error_iff.mp (Option.some.inj h) with hb | ⟨b, hb, _, _⟩
    · exact absurd hb (blueprint_ne_mismatch (regular_after fingerprint config past) name expected)
    · have hok : (((empty config).after fingerprint past).build fingerprint interface source
          ⟨ref, source.ty⟩).1 = .ok ⟨b, ⟨ref, source.ty⟩⟩ :=
        build_eq_ok_iff.mpr ⟨b, hb, (source_of_blueprint hb).symm, rfl⟩
      refine ⟨⟨b, ⟨ref, source.ty⟩⟩, ?_⟩
      unfold move
      dsimp only
      rw [hok, build_registry]

/-- **Builds that fail harm no registry**, after every run and for whatever reason they fail. -/
theorem failed_builds_harmless (fingerprint : Interface → UInt64) (config : Config)
    (past : List Move) {m : Move} {e : BuildError}
    (h : (((empty config).after fingerprint past).move fingerprint m).1 = some (.error e)) :
    Harmless fingerprint ((empty config).after fingerprint past) m e := by
  have hr := regular_after fingerprint config past
  refine ⟨fun hv => ?_, fun hv => ?_, completed_of_mismatch h⟩
  · rw [move_snd_of_error hr h hv]
    exact untouched_inVain _ _
  · rw [move_snd_of_error hr h hv, ← behind_now fingerprint config past _ rfl]
    exact unnoticed_behind hr _

/-- An interface that declares another result type than the demonstration target returns. -/
def mistyped : Interface :=
  ⟨"Sum", [⟨⟨"add", [.i32, .i32]⟩, .unit⟩]⟩

/-- The demonstration target adapted once, then asked for as something mistyped. An id is lost, and
    nothing else. -/
theorem failed_builds_harmless_mistyped : ∃ e,
    (((empty .default).after (Interface.fingerprint Ty.digest)
        [.view Demo.addNumbers.interface Demo.source 0]).move (Interface.fingerprint Ty.digest)
      (.view mistyped Demo.source 1)).1 = some (.error e) ∧
    lostBy e = 1 ∧
    Harmless (Interface.fingerprint Ty.digest)
      ((empty .default).after (Interface.fingerprint Ty.digest)
        [.view Demo.addNumbers.interface Demo.source 0]) (.view mistyped Demo.source 1) e := by
  obtain ⟨e, he, hlost⟩ : ∃ e,
      (((empty .default).after (Interface.fingerprint Ty.digest)
          [.view Demo.addNumbers.interface Demo.source 0]).move (Interface.fingerprint Ty.digest)
        (.view mistyped Demo.source 1)).1 = some (.error e) ∧ lostBy e = 1 := ⟨_, rfl, rfl⟩
  exact ⟨e, he, hlost, failed_builds_harmless _ .default _ he⟩

end Registry

end Structural
