import Structural.Proofs.Registry.Requests

/-!
# Ids of adapter types

Ids come from one counter of a registry, which only goes up.

* `Issues`, `IssuedIn` -- an id is taken from the counter by a move, by some move of a run. Not every
  id taken becomes that of an adapter type;
* `IssuedIn.lt_nextId` -- the counter is past every id taken;
* `Makes.issues` -- the id of a new adapter type is taken by the move that makes it;
* `IdsIncrease` / `idsIncrease` -- **an adapter type made later has a greater id**.
-/

namespace Structural.Registry

variable (fingerprint : Interface → UInt64)

/-- **A move takes an id from the counter**: the counter stands there and moves on. -/
def Issues (r : Registry) (m : Move) (id : Nat) : Prop :=
  r.nextId = id ∧ id < (r.move fingerprint m).2.nextId

/-- **An id was taken** by a move of a run. -/
def IssuedIn (config : Config) (moves : List Move) (id : Nat) : Prop :=
  ∃ past m rest, moves = past ++ m :: rest ∧
    Issues fingerprint ((empty config).after fingerprint past) m id

/-- **The adapter types of a run have increasing ids**, in the order in which they are made. -/
def IdsIncrease (config : Config) (moves : List Move) : Prop :=
  ∀ past m mid m' rest b source b' source', moves = past ++ m :: (mid ++ m' :: rest) →
    Makes fingerprint ((empty config).after fingerprint past) m b source →
    Makes fingerprint ((empty config).after fingerprint (past ++ m :: mid)) m' b' source' →
      b.id < b'.id

variable {fingerprint} {config : Config}

/-- The counter does not go back. -/
theorem nextId_le_move (fingerprint : Interface → UInt64) (config : Config) (past : List Move)
    (m : Move) : ((empty config).after fingerprint past).nextId ≤
      (((empty config).after fingerprint past).move fingerprint m).2.nextId := by
  rcases m.clear_or_asked with rfl | ⟨interface, source, hm⟩
  · exact Nat.le_refl _
  · obtain ⟨items, hranks⟩ := ranks_after fingerprint config past
    obtain ⟨_, _, books, _, _, _, _, hbooks, _, hserved⟩ :=
      served_move fingerprint hranks (regular_after fingerprint config past).bounded hm
    have hid : (((empty config).after fingerprint past).move fingerprint m).2.nextId =
        books.nextId := congrArg Books.nextId hbooks
    rw [hid]
    cases hserved with
    | hit => exact Nat.le_refl _
    | clash => exact Nat.le_refl _
    | unmatched => exact Nat.le_refl _
    | refused => exact Nat.le_succ _
    | made => exact Nat.le_succ _

theorem nextId_le_append (fingerprint : Interface → UInt64) (config : Config)
    (past rest : List Move) : ((empty config).after fingerprint past).nextId ≤
      ((empty config).after fingerprint (past ++ rest)).nextId := by
  induction rest using List.reverseRecOn with
  | nil => exact Nat.le_of_eq (by rw [List.append_nil])
  | append_singleton rest m ih =>
      rw [← List.append_assoc, after_snoc]
      exact Nat.le_trans ih (nextId_le_move fingerprint config (past ++ rest) m)

/-- **The counter is past every id taken.** -/
theorem IssuedIn.lt_nextId {moves : List Move} {id : Nat}
    (h : IssuedIn fingerprint config moves id) :
    id < ((empty config).after fingerprint moves).nextId := by
  obtain ⟨past, m, rest, rfl, _, hlt⟩ := h
  have hle := nextId_le_append fingerprint config (past ++ [m]) rest
  rw [after_snoc, List.append_assoc] at hle
  exact Nat.lt_of_lt_of_le hlt hle

/-- **The id of a new adapter type is taken by the move that makes it.** -/
theorem Makes.issues {past : List Move} {m : Move} {b : Blueprint} {source : Source}
    (h : Makes fingerprint ((empty config).after fingerprint past) m b source) :
    Issues fingerprint ((empty config).after fingerprint past) m b.id := by
  obtain ⟨items, hranks⟩ := ranks_after fingerprint config past
  obtain ⟨_, _, books, _, _, _, _, hbooks, _, hserved⟩ :=
    served_move fingerprint hranks (regular_after fingerprint config past).bounded h.asked
  have hnext : (((empty config).after fingerprint past).move fingerprint m).2.nextId =
      books.nextId := congrArg Books.nextId hbooks
  have hmint := h.minted
  rw [mint_fst] at hmint
  unfold Issues
  rw [hnext]
  cases hserved with
  | hit b' hk => exact absurd (hranks.keeps_iff.mpr hk) (h.vacant b')
  | clash b' hk => exact absurd (hranks.keeps_iff.mpr hk) (h.vacant b')
  | unmatched e _ he =>
      rw [he] at hmint
      cases hmint
  | refused e _ he =>
      rw [he] at hmint
      cases hmint
  | made slots _ _ _ hs =>
      rw [hs] at hmint
      have hid : ((empty config).after fingerprint past).nextId = b.id :=
        congrArg Blueprint.id (Except.ok.inj hmint)
      exact ⟨hid, hid ▸ Nat.lt_succ_self _⟩

theorem idsIncrease (fingerprint : Interface → UInt64) (config : Config) (moves : List Move) :
    IdsIncrease fingerprint config moves := by
  intro past m mid m' rest b source b' source' _ hb hb'
  have hissued : IssuedIn fingerprint config (past ++ m :: mid) b.id :=
    ⟨past, m, mid, rfl, hb.issues⟩
  rw [← hb'.issues.1]
  exact hissued.lt_nextId

end Structural.Registry
