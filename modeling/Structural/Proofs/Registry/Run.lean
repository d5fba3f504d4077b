import Mathlib.Data.List.Induction
import Structural.Proofs.Blueprint.Slots
import Structural.Proofs.Cache.Contents
import Structural.Registry

/-!
# Runs of a registry

A registry used step by step, from its start on.

* `Move` -- what can be asked of a registry; `Registry.move` is one step, `Registry.after` the
  registry after a list of moves, `Registry.replies` the answers to them;
* `Asks` / `asks_blueprint` -- **all that a registry does when it is asked for an adapter type**: a
  hit, a clash, a refusal or a new one, each with what was kept before and the registry after it;
* `Regular` -- what every registry of a configuration keeps to, after every run (`regular_after`):
  the configuration and the capacity stay, no key is kept twice, the capacity is not exceeded.
-/

namespace Structural

/-! ## 1. Moves and runs -/

/-- **What can be asked of a registry.** -/
inductive Move where
  /-- An adapter around any instance. -/
  | build (interface : Interface) (source : Source) (target : Target)
  /-- An adapter around an instance of the type that the source describes. -/
  | view (interface : Interface) (source : Source) (ref : Nat)
  | clear

/-- The interface that a move asks for, and the source that it presents. -/
def Move.asked? : Move → Option (Interface × Source)
  | build interface source _ => some (interface, source)
  | view interface source _ => some (interface, source)
  | clear => none

theorem Move.clear_or_asked (m : Move) :
    m = clear ∨ ∃ interface source, m.asked? = some (interface, source) := by
  cases m with
  | build interface source => exact Or.inr ⟨interface, source, rfl⟩
  | view interface source => exact Or.inr ⟨interface, source, rfl⟩
  | clear => exact Or.inl rfl

namespace Registry

/-- **One move.** Only builds are answered. -/
def move (fingerprint : Interface → UInt64) (r : Registry) :
    Move → Option (Except BuildError Adapter) × Registry
  | .build interface source target =>
    let (reply, after) := r.build fingerprint interface source target
    (some reply, after)
  | .view interface source ref =>
    let (reply, after) := r.view fingerprint interface source ref
    (some reply, after)
  | .clear => (none, r.clear)

/-- The registry after a list of moves. -/
def after (fingerprint : Interface → UInt64) (r : Registry) : List Move → Registry
  | [] => r
  | m :: rest => after fingerprint (r.move fingerprint m).2 rest

/-- The answers to a list of moves. -/
def replies (fingerprint : Interface → UInt64) (r : Registry) :
    List Move → List (Option (Except BuildError Adapter))
  | [] => []
  | m :: rest => (r.move fingerprint m).1 :: replies fingerprint (r.move fingerprint m).2 rest

section Runs

variable {fingerprint : Interface → UInt64}

theorem after_append : ∀ (past rest : List Move) (r : Registry),
    r.after fingerprint (past ++ rest) = (r.after fingerprint past).after fingerprint rest
  | [], _, _ => rfl
  | m :: past, rest, r => after_append past rest (r.move fingerprint m).2

theorem after_snoc (r : Registry) (past : List Move) (m : Move) :
    r.after fingerprint (past ++ [m]) = ((r.after fingerprint past).move fingerprint m).2 := by
  rw [after_append]
  rfl

/-- An answer of a run is the answer to one of its moves. -/
theorem mem_replies {reply : Option (Except BuildError Adapter)} :
    ∀ {moves : List Move} {r : Registry}, reply ∈ r.replies fingerprint moves →
      ∃ past m rest, moves = past ++ m :: rest ∧
        reply = ((r.after fingerprint past).move fingerprint m).1
  | [], _, h => by cases h
  | m :: moves, r, h => by
      rcases List.mem_cons.mp h with h | h
      · exact ⟨[], m, moves, rfl, h⟩
      · obtain ⟨past, m', rest, hmoves, hreply⟩ := mem_replies h
        exact ⟨m :: past, m', rest, by rw [hmoves]; rfl, hreply⟩

/-- **Two runs of the same moves answer alike** if every move does, after the moves before it. -/
theorem forall₂_replies {R : Option (Except BuildError Adapter) →
    Option (Except BuildError Adapter) → Prop} : ∀ {moves : List Move} {r r' : Registry},
      (∀ past m rest, moves = past ++ m :: rest →
        R ((r.after fingerprint past).move fingerprint m).1
          ((r'.after fingerprint past).move fingerprint m).1) →
      List.Forall₂ R (r.replies fingerprint moves) (r'.replies fingerprint moves)
  | [], _, _, _ => .nil
  | m :: moves, _, _, h =>
      .cons (h [] m moves rfl) (forall₂_replies fun past m' rest hmoves =>
        h (m :: past) m' rest (by rw [hmoves]; rfl))

/-- **What holds at the start and is kept by every move holds after every run.** The property may
    speak about the moves made so far. -/
theorem after_induction (fingerprint : Interface → UInt64) {P : List Move → Registry → Prop}
    {r : Registry} (start : P [] r) (step : ∀ past m, P past (r.after fingerprint past) →
      P (past ++ [m]) ((r.after fingerprint past).move fingerprint m).2) (moves : List Move) :
    P moves (r.after fingerprint moves) := by
  induction moves using List.reverseRecOn with
  | nil => exact start
  | append_singleton past m ih =>
      rw [after_snoc]
      exact step past m ih

/-- A build gives an adapter if there is an adapter type and the instance is of its type. -/
theorem build_eq_ok_iff {r : Registry} {interface : Interface} {source : Source} {target : Target}
    {a : Adapter} : (r.build fingerprint interface source target).1 = .ok a ↔
      ∃ b, (r.blueprint fingerprint interface source).1 = .ok b ∧ target.ty = b.source ∧
        a = ⟨b, target⟩ := by
  unfold build
  split
  · rename_i hb
    simp [hb]
  · rename_i b _ hb
    rw [hb]
    split
    · rename_i e he
      have hne : ¬ (target.ty = b.source ∧ a = ⟨b, target⟩) := by
        intro h
        rw [Blueprint.bind_eq_ok_iff.mpr h] at he
        cases he
      simp [hne]
    · rename_i a' ha
      obtain ⟨hty, rfl⟩ := Blueprint.bind_eq_ok_iff.mp ha
      simp [hty, eq_comm]

/-- A build fails if there is no adapter type, or the instance is of another type than its. -/
theorem build_eq_error_iff {r : Registry} {interface : Interface} {source : Source}
    {target : Target} {e : BuildError} :
    (r.build fingerprint interface source target).1 = .error e ↔
      (r.blueprint fingerprint interface source).1 = .error e ∨
        ∃ b, (r.blueprint fingerprint interface source).1 = .ok b ∧ target.ty ≠ b.source ∧
          e = .synthesis (.targetMismatch b.name b.source) := by
  unfold build
  split
  · rename_i hb
    simp [hb]
  · rename_i b _ hb
    rw [hb]
    unfold Blueprint.bind
    by_cases hty : target.ty = b.source
    · simp [hty]
    · simp [hty, eq_comm]

theorem build_registry (r : Registry) (interface : Interface) (source : Source)
    (target : Target) : (r.build fingerprint interface source target).2 =
      (r.blueprint fingerprint interface source).2 := by
  unfold build
  split
  · rename_i hb
    rw [hb]
  · rename_i hb
    rw [hb]
    split <;> rfl

/-- A move that asks for an adapter type is a build for some instance. -/
theorem move_of_asked (fingerprint : Interface → UInt64) {m : Move} {interface : Interface}
    {source : Source} (h : m.asked? = some (interface, source)) (r : Registry) :
    ∃ target, r.move fingerprint m =
      (some (r.build fingerprint interface source target).1,
        (r.blueprint fingerprint interface source).2) := by
  cases m with
  | build _ _ target =>
      cases h
      exact ⟨target, by rw [← build_registry r interface source target]; rfl⟩
  | view _ _ ref =>
      cases h
      exact ⟨⟨ref, source.ty⟩, by rw [← build_registry r interface source ⟨ref, source.ty⟩]; rfl⟩
  | clear => cases h

end Runs

/-! ## 2. New adapter types -/

/-- A new adapter type has the slots of the interface over the source, and the next id. -/
theorem mint_fst (r : Registry) (interface : Interface) (source : Source) :
    (r.mint interface source).1 =
      (slotsOver r.config.ambiguity interface source).map
        (Blueprint.ofSlots r.nextId interface source) := by
  unfold mint slotsOver Blueprint.synthesize
  cases resolve r.config.ambiguity interface source with
  | error e => rfl
  | ok table =>
      dsimp only
      cases Blueprint.slotsFor interface source table with
      | error d => cases d <;> rfl
      | ok slots => rfl

/-- A new adapter type is the one of the interface over the source. -/
theorem isOver_of_mint {r : Registry} {interface : Interface} {source : Source} {b : Blueprint}
    (h : (r.mint interface source).1 = .ok b) :
    b.interface = interface ∧ b.IsOver r.config.ambiguity source := by
  rw [mint_fst] at h
  cases hs : slotsOver r.config.ambiguity interface source with
  | error e =>
      rw [hs] at h
      cases h
  | ok slots =>
      rw [hs] at h
      cases h
      exact ⟨rfl, hs, rfl, rfl⟩

@[simp] theorem mint_config (r : Registry) (interface : Interface) (source : Source) :
    (r.mint interface source).2.config = r.config := by
  unfold mint
  split
  · rfl
  · split <;> rfl

/-! ## 3. What a registry does when it is asked -/

variable (fingerprint : Interface → UInt64)

/-- The registry after it has looked for an adapter type; one that keeps none does not look. -/
def looked (r : Registry) (interface : Interface) (ty : Ty) : Registry :=
  if r.cache.capacity = 0 then r
  else
    { r with
      cache := (r.cache.lookup (key fingerprint interface ty) fun b =>
        decide (b.interface = interface)).2 }

theorem looked_config (r : Registry) (interface : Interface) (ty : Ty) :
    (r.looked fingerprint interface ty).config = r.config := by
  unfold looked
  split <;> rfl

theorem looked_nextId (r : Registry) (interface : Interface) (ty : Ty) :
    (r.looked fingerprint interface ty).nextId = r.nextId := by
  unfold looked
  split <;> rfl

theorem looked_capacity (r : Registry) (interface : Interface) (ty : Ty) :
    (r.looked fingerprint interface ty).cache.capacity = r.cache.capacity := by
  unfold looked
  split
  · rfl
  · exact Cache.lookup_capacity _ _ _

theorem contents_looked (r : Registry) (interface : Interface) (ty : Ty) :
    (r.looked fingerprint interface ty).cache.contents = r.cache.contents := by
  unfold looked
  split
  · rfl
  · exact Cache.contents_lookup _ _ _

/-- The registry that keeps a blueprint under a key. -/
def filed (r : Registry) (k : Key) (b : Blueprint) : Registry :=
  { r with cache := (r.cache.insert k b).2 }

/-- **All that a registry does when it is asked for an adapter type.** -/
inductive Asks (r : Registry) (interface : Interface) (source : Source) :
    Except BuildError Blueprint × Registry → Prop where
  | hit (b : Blueprint) (hk : r.cache.Keeps (key fingerprint interface source.ty) b)
      (hi : b.interface = interface) :
      Asks r interface source (.ok b, r.looked fingerprint interface source.ty)
  | clash (b : Blueprint) (hk : r.cache.Keeps (key fingerprint interface source.ty) b)
      (hi : b.interface ≠ interface) :
      Asks r interface source
        (.error (.synthesis (.identityCollision interface.name (fingerprint interface))),
          r.looked fingerprint interface source.ty)
  | refused (e : BuildError)
      (hk : ∀ b, ¬ r.cache.Keeps (key fingerprint interface source.ty) b)
      (he : slotsOver r.config.ambiguity interface source = .error e) :
      Asks r interface source
        (.error e, ((r.looked fingerprint interface source.ty).mint interface source).2)
  | made (slots : List Slot)
      (hk : ∀ b, ¬ r.cache.Keeps (key fingerprint interface source.ty) b)
      (hs : slotsOver r.config.ambiguity interface source = .ok slots) :
      Asks r interface source
        (.ok (.ofSlots r.nextId interface source slots),
          (((r.looked fingerprint interface source.ty).mint interface source).2).filed
            (key fingerprint interface source.ty) (.ofSlots r.nextId interface source slots))

variable {fingerprint}

/-- A mint after nothing was found: the two ways it ends. -/
theorem asks_mint {r : Registry} {interface : Interface} {source : Source}
    (hk : ∀ b, ¬ r.cache.Keeps (key fingerprint interface source.ty) b)
    {result : Except BuildError Blueprint} {last : Registry}
    (hm : (r.looked fingerprint interface source.ty).mint interface source = (result, last)) :
    (∃ e, result = .error e ∧ Asks fingerprint r interface source (.error e, last)) ∨
      ∃ b, result = .ok b ∧ Asks fingerprint r interface source
        (.ok b, last.filed (key fingerprint interface source.ty) b) := by
  have hfst := mint_fst (r.looked fingerprint interface source.ty) interface source
  rw [looked_config, looked_nextId, hm] at hfst
  have hlast : last = ((r.looked fingerprint interface source.ty).mint interface source).2 := by
    rw [hm]
  subst hlast
  cases hs : slotsOver r.config.ambiguity interface source with
  | error e =>
      rw [hs] at hfst
      exact Or.inl ⟨e, hfst, .refused e hk hs⟩
  | ok slots =>
      rw [hs] at hfst
      exact Or.inr ⟨_, hfst, .made slots hk hs⟩

/-- **The cases are all.** Only in a registry that keeps no more than its capacity is nothing found
    where nothing is looked for. -/
theorem asks_blueprint (fingerprint : Interface → UInt64) {r : Registry}
    (hr : r.cache.size ≤ r.cache.capacity) (interface : Interface) (source : Source) :
    Asks fingerprint r interface source (r.blueprint fingerprint interface source) := by
  unfold blueprint
  split
  · rename_i hzero
    have hnone : ∀ b, ¬ r.cache.Keeps (key fingerprint interface source.ty) b := by
      intro b hb
      exact hb.capacity_ne_zero hr hzero
    have hlooked : r.looked fingerprint interface source.ty = r := if_pos hzero
    cases hm : r.mint interface source with
    | mk result last =>
        have hm' := hm
        rw [← hlooked] at hm'
        rcases asks_mint hnone hm' with ⟨e, rfl, h⟩ | ⟨b, rfl, h⟩
        · exact h
        · have hfiled : last.filed (key fingerprint interface source.ty) b = last := by
            have hcache : last.cache = r.cache := by
              rw [← mint_cache r interface source, hm]
            unfold filed
            rw [Cache.insert_of_capacity_eq_zero (by rw [hcache]; exact hzero)]
          rw [hfiled] at h
          exact h
  · rename_i hpos
    dsimp only
    have hfound := Cache.found_lookup r.cache (key fingerprint interface source.ty)
      fun b => decide (b.interface = interface)
    have hlooked : r.looked fingerprint interface source.ty = { r with
        cache := (r.cache.lookup (key fingerprint interface source.ty) fun b =>
          decide (b.interface = interface)).2 } := if_neg hpos
    split
    · rename_i b cache hl
      rw [hl] at hfound hlooked
      rw [← hlooked]
      cases hfound with
      | hit _ hk ha => exact .hit b hk (of_decide_eq_true ha)
    · rename_i b cache hl
      rw [hl] at hfound hlooked
      rw [← hlooked]
      cases hfound with
      | clash _ hk ha => exact .clash b hk (of_decide_eq_false ha)
    · rename_i cache hl
      rw [hl] at hfound hlooked
      rw [← hlooked]
      cases hfound with
      | miss hk =>
          split
          · rename_i e last hm
            rcases asks_mint hk hm with ⟨e', he, h⟩ | ⟨b, hb, _⟩
            · cases he
              exact h
            · cases hb
          · rename_i b last hm
            rcases asks_mint hk hm with ⟨e', he, _⟩ | ⟨b', hb, h⟩
            · cases he
            · cases hb
              exact h

/-! ## 4. What every registry keeps to -/

/-- **What every registry of a configuration keeps to.** -/
structure Regular (config : Config) (r : Registry) : Prop where
  settings : r.config = config
  capacity : r.cache.capacity = config.cache.capacity
  wellKeyed : r.cache.WellKeyed
  bounded : r.cache.size ≤ r.cache.capacity

theorem regular_empty (config : Config) : Regular config (empty config) where
  settings := rfl
  capacity := rfl
  wellKeyed := Cache.wellKeyed_empty _
  bounded := Nat.zero_le _

theorem Regular.clear {config : Config} {r : Registry} (h : Regular config r) :
    Regular config r.clear where
  settings := h.settings
  capacity := h.capacity
  wellKeyed := Cache.wellKeyed_clear _
  bounded := Nat.zero_le _

/-- What a registry keeps to, it keeps to when configuration, capacity and contents are the same. -/
theorem Regular.of_contents {config : Config} {r r' : Registry} (h : Regular config r)
    (hconfig : r'.config = r.config) (hcap : r'.cache.capacity = r.cache.capacity)
    (hcont : r'.cache.contents = r.cache.contents) : Regular config r' where
  settings := hconfig.trans h.settings
  capacity := hcap.trans h.capacity
  wellKeyed := by
    unfold Cache.WellKeyed
    rw [hcont]
    exact h.wellKeyed
  bounded := by
    rw [← Cache.length_contents, hcont, Cache.length_contents, hcap]
    exact h.bounded

theorem Regular.looked (fingerprint : Interface → UInt64) {config : Config} {r : Registry}
    (h : Regular config r) (interface : Interface) (ty : Ty) :
    Regular config (r.looked fingerprint interface ty) :=
  h.of_contents (looked_config fingerprint r interface ty)
    (looked_capacity fingerprint r interface ty) (contents_looked fingerprint r interface ty)

theorem Regular.mint {config : Config} {r : Registry} (h : Regular config r)
    (interface : Interface) (source : Source) : Regular config (r.mint interface source).2 :=
  h.of_contents (mint_config r interface source) (by rw [mint_cache]) (by rw [mint_cache])

theorem Regular.filed {config : Config} {r : Registry} (h : Regular config r) (k : Key)
    (b : Blueprint) : Regular config (r.filed k b) where
  settings := h.settings
  capacity := (Cache.insert_snd_capacity _ _ _).trans h.capacity
  wellKeyed := h.wellKeyed.insert k b
  bounded := by
    have hle := Cache.size_insert_le h.bounded k b
    rw [← Cache.insert_snd_capacity r.cache k b] at hle
    exact hle

/-- A request for an adapter type leaves a registry regular. -/
theorem Regular.blueprint (fingerprint : Interface → UInt64) {config : Config} {r : Registry}
    (h : Regular config r) (interface : Interface) (source : Source) :
    Regular config (r.blueprint fingerprint interface source).2 := by
  have hasks := asks_blueprint fingerprint h.bounded interface source
  generalize r.blueprint fingerprint interface source = p at hasks
  cases hasks with
  | hit => exact h.looked fingerprint interface source.ty
  | clash => exact h.looked fingerprint interface source.ty
  | refused => exact (h.looked fingerprint interface source.ty).mint interface source
  | made => exact ((h.looked fingerprint interface source.ty).mint interface source).filed _ _

theorem Regular.move (fingerprint : Interface → UInt64) {config : Config} {r : Registry}
    (h : Regular config r) (m : Move) : Regular config (r.move fingerprint m).2 := by
  rcases m.clear_or_asked with rfl | ⟨interface, source, hm⟩
  · exact h.clear
  · obtain ⟨_, hmove⟩ := move_of_asked fingerprint hm r
    rw [hmove]
    exact h.blueprint fingerprint interface source

/-- **Every run leaves a registry regular.** -/
theorem regular_after (fingerprint : Interface → UInt64) (config : Config) (moves : List Move) :
    Regular config ((empty config).after fingerprint moves) :=
  after_induction fingerprint (P := fun _ r => Regular config r) (regular_empty config)
    (fun _ m h => h.move fingerprint m) moves

end Registry

end Structural
