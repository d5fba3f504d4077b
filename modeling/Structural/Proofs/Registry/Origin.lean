import Structural.Proofs.Registry.Run

/-!
# Where adapter types come from

A registry keeps an adapter type without the source that it was made from. This source is in the
moves made so far.

* `Makes` -- a move makes a new adapter type from the source that it presents;
* `MintedIn` / `MintedSince` -- **an adapter type was made by a move of a run**; in the second no
  move after it clears the registry. `PresentedSince` only says that a source was presented;
* `kept_of_move` -- what is kept after a move was kept before, or the move made it;
* `origin_of_kept` -- **whatever is kept after a run was made by a move since the last clearing**,
  and it is kept under the key of its own interface and type;
* `blueprint_eq_ok`, `blueprint_eq_error` -- when an adapter type is handed out, and why none is;
* `blueprint_of_keeps`, `blueprint_of_vacant` -- what is kept under the key decides, and the source at
  hand where nothing is;
* `origin_of_blueprint` -- an adapter type handed out is a kept one, or made from the source at
  hand;
* `OnlyFrom` -- nothing kept for an interface was made from another source than the one at hand, so
  that an adapter type handed out is over this one (`OnlyFrom.isOver`);
* `origin_of_reply` -- **every adapter that a run gives has an adapter type made in that run**.
-/

namespace Structural.Registry

variable (fingerprint : Interface → UInt64)

/-! ## 1. Made by a move, made in a run -/

/-- **A move makes a new adapter type**: it asks for its interface, presents the source, finds
    nothing kept, and mints it. -/
structure Makes (r : Registry) (m : Move) (b : Blueprint) (source : Source) : Prop where
  asked : m.asked? = some (b.interface, source)
  vacant : ∀ b', ¬ r.cache.Keeps (key fingerprint b.interface source.ty) b'
  minted : (r.mint b.interface source).1 = .ok b

/-- **An adapter type was made from a source** by a move of a run. -/
def MintedIn (config : Config) (moves : List Move) (b : Blueprint) (source : Source) : Prop :=
  ∃ past m rest, moves = past ++ m :: rest ∧
    Makes fingerprint ((empty config).after fingerprint past) m b source

/-- **An adapter type was made from a source** by a move of a run, and none after it clears. -/
def MintedSince (config : Config) (moves : List Move) (b : Blueprint) (source : Source) : Prop :=
  ∃ past m rest, moves = past ++ m :: rest ∧ Move.clear ∉ rest ∧
    Makes fingerprint ((empty config).after fingerprint past) m b source

/-- **A source was presented for an interface** in a run, and the registry not cleared since. -/
def PresentedSince (moves : List Move) (interface : Interface) (source : Source) : Prop :=
  ∃ past m rest, moves = past ++ m :: rest ∧ Move.clear ∉ rest ∧
    m.asked? = some (interface, source)

variable {fingerprint} {config : Config} {moves : List Move} {b : Blueprint} {source : Source}

theorem PresentedSince.asked {interface : Interface}
    (h : PresentedSince moves interface source) :
    ∃ m ∈ moves, m.asked? = some (interface, source) := by
  obtain ⟨past, m, rest, rfl, _, hasked⟩ := h
  exact ⟨m, List.mem_append_right _ List.mem_cons_self, hasked⟩

theorem MintedSince.mintedIn (h : MintedSince fingerprint config moves b source) :
    MintedIn fingerprint config moves b source := by
  obtain ⟨past, m, rest, hmoves, _, hmakes⟩ := h
  exact ⟨past, m, rest, hmoves, hmakes⟩

/-- What a run made, a longer run made. -/
theorem MintedIn.append (h : MintedIn fingerprint config moves b source) (more : List Move) :
    MintedIn fingerprint config (moves ++ more) b source := by
  obtain ⟨past, m, rest, rfl, hmakes⟩ := h
  exact ⟨past, m, rest ++ more, by rw [List.append_assoc]; rfl, hmakes⟩

/-- One more move that does not clear. -/
theorem MintedSince.snoc {m : Move} (h : MintedSince fingerprint config moves b source)
    (hm : m ≠ .clear) : MintedSince fingerprint config (moves ++ [m]) b source := by
  obtain ⟨past, m', rest, rfl, hclear, hmakes⟩ := h
  refine ⟨past, m', rest ++ [m], by rw [List.append_assoc]; rfl, fun hmem => ?_, hmakes⟩
  rcases List.mem_append.mp hmem with hmem | hmem
  · exact hclear hmem
  · exact hm (List.mem_singleton.mp hmem).symm

/-- What the last move makes is made in the run. -/
theorem Makes.mintedSince {m : Move}
    (h : Makes fingerprint ((empty config).after fingerprint moves) m b source) :
    MintedSince fingerprint config (moves ++ [m]) b source :=
  ⟨moves, m, [], rfl, List.not_mem_nil, h⟩

/-- The source that an adapter type was made from was presented for its interface. -/
theorem MintedSince.presented (h : MintedSince fingerprint config moves b source) :
    PresentedSince moves b.interface source := by
  obtain ⟨past, m, rest, hmoves, hclear, hmakes⟩ := h
  exact ⟨past, m, rest, hmoves, hclear, hmakes.asked⟩

/-- **An adapter type made from a source has its slots, its type and its name.** -/
theorem MintedIn.isOver (h : MintedIn fingerprint config moves b source) :
    b.IsOver config.ambiguity source := by
  obtain ⟨past, m, rest, _, hmakes⟩ := h
  have hover := (isOver_of_mint hmakes.minted).2
  rw [(regular_after fingerprint config past).settings] at hover
  exact hover

/-! ## 2. What is kept -/

/-- The adapter type that a mint gives. -/
theorem mint_fst_of_slotsOver {r : Registry} {interface : Interface} {slots : List Slot}
    (h : slotsOver r.config.ambiguity interface source = .ok slots) :
    (r.mint interface source).1 = .ok (.ofSlots r.nextId interface source slots) := by
  rw [mint_fst, h]
  rfl

/-- **What is kept after a move was kept before, or the move made it.** -/
theorem kept_of_move {r : Registry} (hr : r.cache.size ≤ r.cache.capacity) {m : Move} {k : Key}
    (hk : (r.move fingerprint m).2.cache.Keeps k b) :
    m ≠ .clear ∧ (r.cache.Keeps k b ∨ ∃ source, k = key fingerprint b.interface source.ty ∧
      Makes fingerprint r m b source) := by
  rcases m.clear_or_asked with rfl | ⟨interface, source, hm⟩
  · cases hk
  · refine ⟨fun h => ?_, ?_⟩
    · rw [h] at hm
      cases hm
    obtain ⟨_, hmove⟩ := move_of_asked fingerprint hm r
    rw [hmove] at hk
    have hasks := asks_blueprint fingerprint hr interface source
    generalize r.blueprint fingerprint interface source = p at hasks hk
    -- only a new adapter type adds to what is kept
    have hlooked : ∀ {x}, (r.looked fingerprint interface source.ty).cache.Keeps k x →
        r.cache.Keeps k x := by
      intro x hx
      unfold Cache.Keeps at hx
      rw [contents_looked] at hx
      exact hx
    cases hasks with
    | hit => exact Or.inl (hlooked hk)
    | clash => exact Or.inl (hlooked hk)
    | refused =>
        dsimp only at hk
        rw [mint_cache] at hk
        exact Or.inl (hlooked hk)
    | made slots hvacant hs =>
        rcases hk.of_insert with ⟨rfl, rfl⟩ | hk
        · exact Or.inr ⟨source, rfl, hm, hvacant, mint_fst_of_slotsOver hs⟩
        · rw [mint_cache] at hk
          exact Or.inl (hlooked hk)

/-- **Whatever is kept after a run was made in it since the last clearing**, from a source of the
    type that its key names. -/
theorem origin_of_kept {k : Key} (moves : List Move)
    (hk : ((empty config).after fingerprint moves).cache.Keeps k b) :
    ∃ source, k = key fingerprint b.interface source.ty ∧
      MintedSince fingerprint config moves b source := by
  revert hk
  refine after_induction fingerprint
    (P := fun moves r => r.cache.Keeps k b → ∃ source, k = key fingerprint b.interface source.ty ∧
      MintedSince fingerprint config moves b source) ?_ ?_ moves
  · intro hk
    cases hk
  · intro past m ih hk
    obtain ⟨hm, hk | ⟨source, hkey, hmakes⟩⟩ :=
      kept_of_move (regular_after fingerprint config past).bounded hk
    · obtain ⟨source, hkey, hminted⟩ := ih hk
      exact ⟨source, hkey, hminted.snoc hm⟩
    · exact ⟨source, hkey, hmakes.mintedSince⟩

/-! ## 3. What is handed out -/

/-- **An adapter type handed out has the interface asked for**, and is kept already or new. -/
theorem blueprint_eq_ok {r : Registry} (hr : r.cache.size ≤ r.cache.capacity)
    {interface : Interface} (h : (r.blueprint fingerprint interface source).1 = .ok b) :
    b.interface = interface ∧ (r.cache.Keeps (key fingerprint interface source.ty) b ∨
      (∀ b', ¬ r.cache.Keeps (key fingerprint interface source.ty) b') ∧
        (r.mint interface source).1 = .ok b) := by
  have hasks := asks_blueprint fingerprint hr interface source
  generalize r.blueprint fingerprint interface source = p at hasks h
  cases hasks with
  | hit b' hk hi =>
      cases h
      exact ⟨hi, Or.inl hk⟩
  | clash => cases h
  | refused => cases h
  | made slots hvacant hs =>
      cases h
      exact ⟨rfl, Or.inr ⟨hvacant, mint_fst_of_slotsOver hs⟩⟩

/-- **Why no adapter type is handed out**: another interface stands under the key, or nothing does
    and there are no slots of the interface over the source. -/
theorem blueprint_eq_error {r : Registry} (hr : r.cache.size ≤ r.cache.capacity)
    {interface : Interface} {e : BuildError}
    (h : (r.blueprint fingerprint interface source).1 = .error e) :
    (∃ b, r.cache.Keeps (key fingerprint interface source.ty) b ∧ b.interface ≠ interface ∧
      e = .synthesis (.identityCollision interface.name (fingerprint interface))) ∨
    (∀ b, ¬ r.cache.Keeps (key fingerprint interface source.ty) b) ∧
      slotsOver r.config.ambiguity interface source = .error e := by
  have hasks := asks_blueprint fingerprint hr interface source
  generalize r.blueprint fingerprint interface source = p at hasks h
  cases hasks with
  | hit => cases h
  | clash b hk hi =>
      cases h
      exact Or.inl ⟨b, hk, hi, rfl⟩
  | refused e' hvacant he =>
      cases h
      exact Or.inr ⟨hvacant, he⟩
  | made => cases h

/-- **Where nothing is kept under the key, the source at hand decides.** -/
theorem blueprint_of_vacant {r : Registry} {interface : Interface}
    (hr : r.cache.size ≤ r.cache.capacity)
    (hk : ∀ b, ¬ r.cache.Keeps (key fingerprint interface source.ty) b) :
    (r.blueprint fingerprint interface source).1 =
      (slotsOver r.config.ambiguity interface source).map
        (.ofSlots r.nextId interface source) := by
  have hasks := asks_blueprint fingerprint hr interface source
  generalize r.blueprint fingerprint interface source = p at hasks
  cases hasks with
  | hit b hb => exact absurd hb (hk b)
  | clash b hb => exact absurd hb (hk b)
  | refused e _ he =>
      rw [he]
      rfl
  | made slots _ hs =>
      rw [hs]
      rfl

/-- **What is kept under the key decides**: the adapter type there is handed out if it is one of the
    interface asked for, and is a clash otherwise. -/
theorem blueprint_of_keeps {r : Registry} (hr : Regular config r) {interface : Interface}
    (hk : r.cache.Keeps (key fingerprint interface source.ty) b) :
    (r.blueprint fingerprint interface source).1 =
      if b.interface = interface then .ok b
      else .error (.synthesis (.identityCollision interface.name (fingerprint interface))) := by
  have hasks := asks_blueprint fingerprint hr.bounded interface source
  generalize r.blueprint fingerprint interface source = p at hasks
  cases hasks with
  | hit b' hk' hi =>
      obtain rfl := hk.unique hr.wellKeyed hk'
      rw [if_pos hi]
  | clash b' hk' hi =>
      obtain rfl := hk.unique hr.wellKeyed hk'
      rw [if_neg hi]
  | refused _ hvacant => exact absurd hk (hvacant b)
  | made _ hvacant => exact absurd hk (hvacant b)

/-- **An adapter type handed out after a run** was made from a source of the type asked for: one
    presented earlier if it was kept, else the one at hand. -/
theorem origin_of_blueprint {interface : Interface}
    (h : (((empty config).after fingerprint moves).blueprint fingerprint interface source).1 =
      .ok b) :
    b.interface = interface ∧ ∃ origin : Source, origin.ty = source.ty ∧
      b.IsOver config.ambiguity origin ∧
      (((empty config).after fingerprint moves).cache.Keeps
          (key fingerprint interface source.ty) b ∧
        MintedSince fingerprint config moves b origin ∨
      (∀ b', ¬ ((empty config).after fingerprint moves).cache.Keeps
          (key fingerprint interface source.ty) b') ∧ origin = source) := by
  have hregular := regular_after fingerprint config moves
  obtain ⟨hi, hk | ⟨hvacant, hmint⟩⟩ := blueprint_eq_ok hregular.bounded h
  · obtain ⟨origin, hkey, hminted⟩ := origin_of_kept moves hk
    have hty : source.ty = origin.ty := congrArg Key.source hkey
    exact ⟨hi, origin, hty.symm, hminted.mintedIn.isOver, Or.inl ⟨hk, hminted⟩⟩
  · have hover := (isOver_of_mint hmint).2
    rw [hregular.settings] at hover
    exact ⟨hi, source, rfl, hover, Or.inr ⟨hvacant, rfl⟩⟩

/-- **Nothing kept for an interface was made from another source** than this one. -/
def OnlyFrom (fingerprint : Interface → UInt64) (config : Config) (moves : List Move)
    (interface : Interface) (source : Source) : Prop :=
  ∀ b origin, ((empty config).after fingerprint moves).cache.Keeps
      (key fingerprint interface source.ty) b → b.interface = interface →
    MintedSince fingerprint config moves b origin → origin = source

/-- It is enough that no other source of the type was presented since the last clearing. -/
theorem onlyFrom_of_presented {interface : Interface}
    (h : ∀ origin, PresentedSince moves interface origin → origin.ty = source.ty →
      origin = source) : OnlyFrom fingerprint config moves interface source := by
  intro b origin hk hi hminted
  obtain ⟨first, hkey, hfirst⟩ := origin_of_kept moves hk
  have hty : source.ty = first.ty := congrArg Key.source hkey
  have hsame : first.ty = origin.ty :=
    hfirst.mintedIn.isOver.ty.symm.trans hminted.mintedIn.isOver.ty
  exact h origin (hi ▸ hminted.presented) (hty.trans hsame).symm

/-- Then an adapter type handed out is over the source at hand. -/
theorem OnlyFrom.isOver {interface : Interface}
    (h : OnlyFrom fingerprint config moves interface source)
    (hb : (((empty config).after fingerprint moves).blueprint fingerprint interface source).1 =
      .ok b) : b.interface = interface ∧ b.IsOver config.ambiguity source := by
  obtain ⟨hi, origin, _, hover, ⟨hk, hminted⟩ | ⟨_, rfl⟩⟩ := origin_of_blueprint hb
  · obtain rfl := h b origin hk hi hminted
    exact ⟨hi, hover⟩
  · exact ⟨hi, hover⟩

/-- An adapter type handed out after a run is for the type asked for. -/
theorem source_of_blueprint {interface : Interface}
    (h : (((empty config).after fingerprint moves).blueprint fingerprint interface source).1 =
      .ok b) : b.source = source.ty := by
  obtain ⟨_, origin, hty, hover, _⟩ := origin_of_blueprint h
  exact hover.ty.trans hty

/-- **Every adapter that a run gives has an adapter type made in that run**, and wraps an instance
    of the type that it was made for. -/
theorem origin_of_reply {a : Adapter}
    (h : some (.ok a) ∈ (empty config).replies fingerprint moves) :
    ∃ origin, MintedIn fingerprint config moves a.blueprint origin ∧
      a.target.ty = origin.ty := by
  obtain ⟨past, m, rest, rfl, hreply⟩ := mem_replies h
  rcases m.clear_or_asked with rfl | ⟨interface, source, hm⟩
  · cases hreply
  · obtain ⟨target, hmove⟩ :=
      move_of_asked fingerprint hm ((empty config).after fingerprint past)
    rw [hmove] at hreply
    obtain ⟨b, hb, hty, rfl⟩ := build_eq_ok_iff.mp (Option.some.inj hreply).symm
    obtain ⟨hi, hk | ⟨hvacant, hmint⟩⟩ :=
      blueprint_eq_ok (regular_after fingerprint config past).bounded hb
    · obtain ⟨origin, _, hminted⟩ := origin_of_kept past hk
      refine ⟨origin, hminted.mintedIn.append _, ?_⟩
      exact hty.trans hminted.mintedIn.isOver.ty
    · subst hi
      have hover := isOver_of_mint hmint
      exact ⟨source, ⟨past, m, rest, rfl, hm, hvacant, hmint⟩, hty.trans hover.2.ty⟩

end Structural.Registry
