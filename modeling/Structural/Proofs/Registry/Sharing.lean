import Structural.Proofs.Cache.Distance
import Structural.Proofs.Registry.Ids
import Structural.Proofs.Registry.Transparency

/-!
# When builds share an adapter type

Which builds find an adapter type, told by the builds before them and not by what is kept.

* `touch?` -- a build that touches its key, and the adapter type that it used;
* `touches` -- the touches of a run since the last clearing, the last one first;
* `turn_move` -- **a move that asks, in full**, where fingerprints separate the interfaces: what it
  touches, the counters and the order of last use;
* `ranks_latest` -- **a registry keeps the adapter types touched last**, as many as it has room for;
* `shared_within_capacity` -- **a build hits if its key was touched and since then fewer other keys
  than there is room for**. It gets the adapter type touched last under its key, or a new one whose
  id is greater than all that were taken before.
-/

namespace Structural.Registry

/-! ## 1. Touches -/

section Touches

variable (fingerprint : Interface → UInt64)

/-- **A build that touches its key**: it is answered with an adapter, or refused for its instance. The
    key, and the adapter type that it used. -/
def touch? (r : Registry) (m : Move) : Option (Key × Blueprint) :=
  match m.asked?, (r.move fingerprint m).1 with
  | some (interface, source), some reply =>
    if (verdict reply).touches then
      (r.blueprint fingerprint interface source).1.toOption.map
        (key fingerprint interface source.ty, ·)
    else none
  | _, _ => none

/-- The touches since the last clearing, after one more move. -/
def noted (r : Registry) (before : Recency Key Blueprint) : Move → Recency Key Blueprint
  | .clear => []
  | m => (r.touch? fingerprint m).toList ++ before

/-- The touches since the last clearing, after more moves. -/
def touchesFrom (r : Registry) (before : Recency Key Blueprint) :
    List Move → Recency Key Blueprint
  | [] => before
  | m :: rest => touchesFrom (r.move fingerprint m).2 (r.noted fingerprint before m) rest

/-- **The touches of a run since the last clearing**, the last one first. -/
def touches (config : Config) (moves : List Move) : Recency Key Blueprint :=
  (empty config).touchesFrom fingerprint [] moves

end Touches

variable {fingerprint : Interface → UInt64} {config : Config} {past rest : List Move} {m : Move}
  {interface : Interface} {source : Source}

theorem touchesFrom_snoc : ∀ (past : List Move) (r : Registry) (before : Recency Key Blueprint)
    (m : Move), r.touchesFrom fingerprint before (past ++ [m]) =
      (r.after fingerprint past).noted fingerprint (r.touchesFrom fingerprint before past) m
  | [], _, _, _ => rfl
  | m :: past, r, before, m' =>
      touchesFrom_snoc past (r.move fingerprint m).2 (r.noted fingerprint before m) m'

theorem touches_snoc (fingerprint : Interface → UInt64) (config : Config) (past : List Move)
    (m : Move) : touches fingerprint config (past ++ [m]) =
      ((empty config).after fingerprint past).noted fingerprint
        (touches fingerprint config past) m :=
  touchesFrom_snoc past (empty config) [] m

theorem noted_of_asked {r : Registry} (hm : m.asked? = some (interface, source))
    (before : Recency Key Blueprint) :
    r.noted fingerprint before m = (r.touch? fingerprint m).toList ++ before := by
  cases m with
  | build => rfl
  | view => rfl
  | clear => cases hm

/-- A build touches its key if there is an adapter type for it. -/
theorem touch?_of_reply {r : Registry} (hm : m.asked? = some (interface, source))
    {result : Except BuildError Blueprint} {reply : Except BuildError Adapter}
    (hresult : (r.blueprint fingerprint interface source).1 = result)
    (hreply : (r.move fingerprint m).1 = some reply)
    (htouches : (verdict reply).touches = true ↔ ∃ b, result = .ok b) :
    r.touch? fingerprint m = result.toOption.map (key fingerprint interface source.ty, ·) := by
  unfold touch?
  rw [hm, hreply]
  dsimp only
  rw [hresult]
  cases result with
  | ok b => rw [if_pos (htouches.mpr ⟨b, rfl⟩)]
  | error e =>
      have hnot : ¬ (verdict reply).touches = true := fun ht => by
        obtain ⟨b, hb⟩ := htouches.mp ht
        cases hb
      rw [if_neg hnot]
      rfl

/-! ## 2. Moves -/

theorem Separates.mono {moves : List Move} (h : Separates fingerprint moves)
    (hsub : past ⊆ moves) : Separates fingerprint past :=
  fun m hm m' hm' => h m (hsub hm) m' (hsub hm')

theorem Separates.of_append (h : Separates fingerprint (past ++ rest)) : Separates fingerprint past :=
  h.mono (List.subset_append_left _ _)

/-- **A move that asks, in full**, where fingerprints separate the interfaces. -/
theorem turn_move (hsep : Separates fingerprint (past ++ m :: rest))
    (hm : m.asked? = some (interface, source)) {items : Recency Key Blueprint}
    (h : ((empty config).after fingerprint past).cache.Ranks items) :
    ∃ result books items',
      (((empty config).after fingerprint past).blueprint fingerprint interface source).1 = result ∧
      ((empty config).after fingerprint past).touch? fingerprint m =
        result.toOption.map (key fingerprint interface source.ty, ·) ∧
      (((empty config).after fingerprint past).move fingerprint m).2.books = books ∧
      (((empty config).after fingerprint past).move fingerprint m).2.cache.Ranks items' ∧
      Turn ((empty config).after fingerprint past) items (key fingerprint interface source.ty)
        (slotsOver config.ambiguity interface source) result books items' := by
  have hregular := regular_after fingerprint config past
  obtain ⟨result, reply, books, items', hresult, hreply, hv, hbooks, hranks, hserved⟩ :=
    served_move fingerprint h hregular.bounded hm
  have hturn := hserved.turn h hregular.bounded
    fun b hb => hsep.interface_eq hm (h.keeps_iff.mpr hb)
  rw [hregular.settings] at hturn
  exact ⟨result, books, items', hresult, touch?_of_reply hm hresult hreply (hserved.touches_iff hv),
    hbooks, hranks, hturn⟩

/-! ## 3. What is kept -/

/-- One move keeps a registry to the adapter types touched last. -/
theorem ranks_latest_snoc (hsep : Separates fingerprint (past ++ [m]))
    (ih : ((empty config).after fingerprint past).cache.Ranks
      ((Recency.latest (touches fingerprint config past)).take config.cache.capacity)) :
    (((empty config).after fingerprint past).move fingerprint m).2.cache.Ranks
      ((Recency.latest (touches fingerprint config (past ++ [m]))).take
        config.cache.capacity) := by
  rw [touches_snoc]
  rcases m.clear_or_asked with rfl | ⟨interface, source, hm⟩
  · rw [noted, Recency.latest, List.take_nil]
    exact Cache.ranks_clear _
  · obtain ⟨result, books, items', _, htouch, _, hranks, hturn⟩ := turn_move hsep hm ih
    have hcapacity := (regular_after fingerprint config past).capacity
    have hnodup := Recency.nodup_latest (touches fingerprint config past)
    rw [noted_of_asked hm, htouch]
    cases hturn with
    | found b =>
        rw [hcapacity, Recency.take_toFront_take hnodup] at hranks
        exact hranks
    | made b =>
        rw [hcapacity, Recency.take_toFront_take hnodup] at hranks
        exact hranks
    | failed => exact hranks

/-- **A registry keeps the adapter types touched last**, as many as it has room for. -/
theorem ranks_latest (fingerprint : Interface → UInt64) (config : Config) (moves : List Move) :
    Separates fingerprint moves → ((empty config).after fingerprint moves).cache.Ranks
      ((Recency.latest (touches fingerprint config moves)).take config.cache.capacity) := by
  refine after_induction fingerprint (r := empty config)
    (P := fun moves r => Separates fingerprint moves → r.cache.Ranks
      ((Recency.latest (touches fingerprint config moves)).take config.cache.capacity))
    (fun _ => ?_) (fun past m ih hsep => ranks_latest_snoc hsep (ih hsep.of_append)) moves
  rw [touches, touchesFrom, Recency.latest, List.take_nil]
  exact Cache.ranks_empty _

/-! ## 4. Hits and misses -/

/-- **When builds share an adapter type.** A build hits if its key was touched since the last clearing,
    and since then fewer other keys than there is room for; it then gets the adapter type touched
    last. A new adapter type has an id greater than all that were taken before. -/
theorem shared_within_capacity (fingerprint : Interface → UInt64) (config : Config)
    {past : List Move} {m : Move} {interface : Interface} {source : Source}
    (hsep : Separates fingerprint (past ++ [m])) (hm : m.asked? = some (interface, source)) :
    (Hits fingerprint ((empty config).after fingerprint past) m ↔
      ∃ b since, Recency.LastUse (touches fingerprint config past)
          (key fingerprint interface source.ty) b since ∧
        since.keys.toFinset.card < config.cache.capacity) ∧
    (Hits fingerprint ((empty config).after fingerprint past) m →
      ∀ b since, Recency.LastUse (touches fingerprint config past)
          (key fingerprint interface source.ty) b since →
        (((empty config).after fingerprint past).blueprint fingerprint interface source).1 =
          .ok b) ∧
    (¬ Hits fingerprint ((empty config).after fingerprint past) m →
      ∀ b, (((empty config).after fingerprint past).blueprint fingerprint interface source).1 =
          .ok b →
        ∀ id, IssuedIn fingerprint config past id → id < b.id) := by
  obtain ⟨result, books, items', hresult, _, hbooks, _, hturn⟩ :=
    turn_move hsep hm (ranks_latest fingerprint config past hsep.of_append)
  have hhits := (hits_iff hbooks).trans hturn.hits_iff
  rw [hresult]
  refine ⟨?_, fun hit b since hlast => ?_, fun hmiss b hb id hid => ?_⟩
  · rw [hhits, Recency.mem_keys]
    exact exists_congr fun b => Recency.mem_take_latest
  · rw [hhits] at hit
    cases hturn with
    | found b' _ hk =>
        obtain ⟨since', hlast', _⟩ := Recency.mem_take_latest.mp hk
        rw [hlast'.unique hlast]
    | made _ _ hnew => exact absurd hit hnew
    | failed _ _ hnew => exact absurd hit hnew
  · rw [hhits] at hmiss
    cases hturn with
    | found b' _ hk => exact absurd (Recency.mem_keys.mpr ⟨b', hk⟩) hmiss
    | made b' _ _ _ hnext =>
        cases hb
        rw [hnext]
        exact hid.lt_nextId
    | failed => cases hb

/-- A registry that keeps one adapter type. A build that is refused for its instance touches its key, so
    the next one hits; the key touched before misses, and its new adapter type has the third id. -/
theorem shared_within_capacity_inTurn :
    Hits (Interface.fingerprint Ty.digest)
        ((empty ⟨.lru 1, .reject⟩).after (Interface.fingerprint Ty.digest) (inTurn.take 2))
        (.view ⟨"Nothing", []⟩ Demo.source 1) ∧
      (∃ b before, touches (Interface.fingerprint Ty.digest) ⟨.lru 1, .reject⟩ (inTurn.take 2) =
          (key (Interface.fingerprint Ty.digest) ⟨"Nothing", []⟩ Demo.targetTy, b) :: before ∧
        (((empty ⟨.lru 1, .reject⟩).after (Interface.fingerprint Ty.digest) (inTurn.take 2)).blueprint
          (Interface.fingerprint Ty.digest) ⟨"Nothing", []⟩ Demo.source).1 = .ok b) ∧
      ¬ Hits (Interface.fingerprint Ty.digest)
        ((empty ⟨.lru 1, .reject⟩).after (Interface.fingerprint Ty.digest) (inTurn.take 2))
        (.view Demo.addNumbers.interface Demo.source 0) ∧
      ∀ id, IssuedIn (Interface.fingerprint Ty.digest) ⟨.lru 1, .reject⟩ (inTurn.take 2) id → id < 2 := by
  have hsep : ∀ m ∈ inTurn, Separates (Interface.fingerprint Ty.digest) (inTurn.take 2 ++ [m]) :=
    fun m hm => separates_inTurn.mono
      (List.append_subset.mpr ⟨List.take_subset _ _, List.cons_subset.mpr ⟨hm, List.nil_subset _⟩⟩)
  obtain ⟨hhits, hshared, _⟩ := shared_within_capacity _ ⟨.lru 1, .reject⟩
    (hsep (.view ⟨"Nothing", []⟩ Demo.source 1) (by simp [inTurn])) rfl
  have hlast : Recency.LastUse
      (touches (Interface.fingerprint Ty.digest) ⟨.lru 1, .reject⟩ (inTurn.take 2))
      (key (Interface.fingerprint Ty.digest) ⟨"Nothing", []⟩ Demo.source.ty) _ [] :=
    ⟨⟨_, rfl⟩, List.not_mem_nil⟩
  have hit := hhits.mpr ⟨_, [], hlast, by decide⟩
  obtain ⟨_, _, hnew⟩ := shared_within_capacity _ ⟨.lru 1, .reject⟩
    (hsep (.view Demo.addNumbers.interface Demo.source 0) (by simp [inTurn])) rfl
  have hmiss : ¬ Hits (Interface.fingerprint Ty.digest)
      ((empty ⟨.lru 1, .reject⟩).after (Interface.fingerprint Ty.digest) (inTurn.take 2))
      (.view Demo.addNumbers.interface Demo.source 0) := by
    unfold Hits
    decide
  exact ⟨hit, ⟨_, _, rfl, hshared hit _ [] hlast⟩, hmiss, fun id hid => hnew hmiss _ rfl id hid⟩

end Structural.Registry
