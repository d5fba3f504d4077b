import Structural.Publish.Options

/-!
# Clauses of an attribute

An attribute holds clauses with commas between them, and maybe one after the last. What a clause says
depends on the attribute; that the clauses are read one by one does not.

* `Lists` -- **tokens list things**, each as a clause;
* `ReadsAs` -- **a clause is read as it is written**: what is read of some tokens are those that write
  a thing, and these are read wherever a clause may end after them;
* `ReadsAs.readClauses_eq_ok_iff` -- so tokens are read exactly if they list such things, and the
  state takes these one by one;
* `clausePath_name`, `eq_of_clausePath` -- clauses that start with a given name.
-/

namespace Structural.Publish

/-! ## 1. Results that may be refusals -/

section Results

variable {ε α β : Type} {x : Except ε α} {y : β}

theorem map_eq_ok_iff {f : α → β} : x.map f = .ok y ↔ ∃ a, x = .ok a ∧ f a = y := by
  cases x <;> simp [Except.map]

theorem bind_eq_ok_iff {f : α → Except ε β} :
    x.bind f = .ok y ↔ ∃ a, x = .ok a ∧ f a = .ok y := by
  cases x <;> simp [Except.bind]

end Results

/-! ## 2. Clauses that start with a name -/

/-- Tokens that do not go on with a path. -/
def EndsName (tokens : List Token) : Prop :=
  ∀ rest, tokens ≠ .sign "::" :: rest

theorem endsName_nil : EndsName [] :=
  fun _ h => nomatch h

theorem endsName_sign {sign : String} (h : sign ≠ "::") (tokens : List Token) :
    EndsName (.sign sign :: tokens) := by
  intro rest heq
  exact h (Token.sign.inj (List.cons.inj heq).1)

theorem moreNames_of_endsName {tokens : List Token} (h : EndsName tokens) :
    moreNames tokens = .ok ([], tokens) := by
  unfold moreNames
  split
  · exact absurd rfl (h _)
  · exact absurd rfl (h _)
  · rfl

/-- Where no more names are read, nothing is. -/
theorem eq_of_moreNames_nil {tokens rest : List Token} (h : moreNames tokens = .ok ([], rest)) :
    tokens = rest := by
  unfold moreNames at h
  split at h
  · obtain ⟨_, _, h⟩ := map_eq_ok_iff.mp h
    cases (Prod.mk.inj h).1
  · cases h
  · cases h
    rfl

/-- A clause that starts with one name. -/
theorem clausePath_name {name : String} {rest : List Token} (h : EndsName rest) :
    clausePath (.name name :: rest) = .ok (⟨false, [name]⟩, rest) := by
  simp [clausePath, pathNames, moreNames_of_endsName h, Except.map]

/-- A path that is one name takes this name alone. -/
theorem eq_of_clausePath {tokens rest : List Token} {path : ClausePath} {name : String}
    (h : clausePath tokens = .ok (path, rest)) (hname : path.isName name = true) :
    tokens = .name name :: rest := by
  obtain ⟨leading, names⟩ := path
  obtain ⟨rfl, rfl⟩ : leading = false ∧ names = [name] := by
    simpa [ClausePath.isName] using hname
  unfold clausePath at h
  split at h
  · obtain ⟨_, _, h⟩ := map_eq_ok_iff.mp h
    cases congrArg ClausePath.leading (Prod.mk.inj h).1
  · obtain ⟨⟨names, after⟩, hnames, h⟩ := map_eq_ok_iff.mp h
    obtain ⟨hpath, rfl⟩ := Prod.mk.inj h
    obtain rfl : names = [name] := congrArg ClausePath.names hpath
    unfold pathNames at hnames
    split at hnames
    · obtain ⟨⟨more, after⟩, hmore, hnames⟩ := map_eq_ok_iff.mp hnames
      obtain ⟨hcons, rfl⟩ := Prod.mk.inj hnames
      obtain ⟨rfl, rfl⟩ := List.cons.inj hcons
      rw [eq_of_moreNames_nil hmore]
    all_goals cases hnames

theorem equalsSign_eq_ok_iff {tokens rest : List Token} :
    equalsSign tokens = .ok rest ↔ tokens = .sign "=" :: rest := by
  unfold equalsSign
  split <;> simp_all

/-! ## 3. Clauses one after the other -/

section Clauses

variable {σ α : Type}

/-- **Tokens list things**, each written as `writes` says: with commas between them. A comma after the
    last one is allowed. -/
inductive Lists (writes : α → List Token → Prop) : List α → List Token → Prop where
  | nil : Lists writes [] []
  | last {x : α} {tokens : List Token} (hx : writes x tokens) : Lists writes [x] tokens
  | cons {x : α} {tokens : List Token} (hx : writes x tokens) {xs : List α} {rest : List Token}
      (h : Lists writes xs rest) : Lists writes (x :: xs) (tokens ++ .sign "," :: rest)

/-- What may stand after a clause: nothing, or a comma. -/
def EndsClause (tokens : List Token) : Prop :=
  tokens = [] ∨ ∃ rest, tokens = .sign "," :: rest

theorem EndsClause.endsName {tokens : List Token} (h : EndsClause tokens) : EndsName tokens := by
  obtain rfl | ⟨rest, rfl⟩ := h
  · exact endsName_nil
  · exact endsName_sign (by decide) rest

/-- **A clause is read as it is written**, and taken into the state. -/
structure ReadsAs (clause : σ → ClausePath → TokenReader σ) (writes : α → List Token → Prop)
    (take : σ → α → σ) : Prop where
  /-- The tokens read are those that write a thing. -/
  sound : ∀ {state state' : σ} {path : ClausePath} {tokens rest after : List Token},
    clausePath tokens = .ok (path, rest) → clause state path rest = .ok (state', after) →
      ∃ x written, writes x written ∧ tokens = written ++ after ∧ state' = take state x
  /-- The tokens that write a thing are read, if a clause may end there. -/
  complete : ∀ (state : σ) {x : α} {written after : List Token}, writes x written →
    EndsClause after → ∃ path rest, clausePath (written ++ after) = .ok (path, rest) ∧
      clause state path rest = .ok (take state x, after)

namespace ReadsAs

variable {clause : σ → ClausePath → TokenReader σ} {writes : α → List Token → Prop}
  {take : σ → α → σ}

/-- Nothing is not written without tokens. -/
theorem ne_nil (h : ReadsAs clause writes take) (state : σ) {x : α} {tokens : List Token}
    (hx : writes x tokens) : tokens ≠ [] := by
  rintro rfl
  obtain ⟨_, _, hpath, _⟩ := h.complete state hx (.inl rfl)
  cases hpath

/-- No tokens list nothing. -/
theorem eq_nil (h : ReadsAs clause writes take) (state : σ) {xs : List α} {tokens : List Token}
    (hlists : Lists writes xs tokens) (hnil : tokens = []) : xs = [] := by
  cases hlists with
  | nil => rfl
  | last hx => exact absurd hnil (h.ne_nil state hx)
  | cons => exact absurd hnil (by simp)

/-- The last clause. -/
theorem readSome_last (h : ReadsAs clause writes take) (state : σ) {x : α} {tokens : List Token}
    (hx : writes x tokens) (rounds : Nat) :
    readSome clause (rounds + 1) state tokens = .ok (take state x) := by
  obtain ⟨path, rest, hpath, hclause⟩ := h.complete state hx (.inl rfl)
  rw [List.append_nil] at hpath
  simp only [readSome, hpath, hclause, Except.bind]

/-- A clause with a comma after it: reading goes on if anything comes. -/
theorem readSome_comma (h : ReadsAs clause writes take) (state : σ) {x : α} {tokens : List Token}
    (hx : writes x tokens) (rounds : Nat) (rest : List Token) :
    readSome clause (rounds + 1) state (tokens ++ .sign "," :: rest) =
      if rest = [] then .ok (take state x) else readSome clause rounds (take state x) rest := by
  obtain ⟨path, after, hpath, hclause⟩ := h.complete state hx (.inr ⟨rest, rfl⟩)
  simp only [readSome, hpath, hclause, Except.bind]
  cases rest <;> rfl

/-- **Tokens that list things are read.** -/
theorem readSome_of_lists (h : ReadsAs clause writes take) {xs : List α} {tokens : List Token}
    (hlists : Lists writes xs tokens) : ∀ (rounds : Nat) (state : σ), tokens ≠ [] →
      tokens.length ≤ rounds → readSome clause rounds state tokens = .ok (xs.foldl take state) := by
  induction hlists with
  | nil => exact fun _ _ hne => absurd rfl hne
  | last hx =>
      intro rounds state hne hle
      have hpos := List.length_pos_iff.mpr hne
      obtain ⟨rounds, rfl⟩ : ∃ n, rounds = n + 1 := ⟨rounds - 1, by omega⟩
      exact h.readSome_last state hx rounds
  | @cons x _ hx xs rest hlists ih =>
      intro rounds state _ hle
      rw [List.length_append, List.length_cons] at hle
      obtain ⟨rounds, rfl⟩ : ∃ n, rounds = n + 1 := ⟨rounds - 1, by omega⟩
      rw [h.readSome_comma state hx]
      split
      · rename_i hnil
        rw [h.eq_nil state hlists hnil]
        rfl
      · rename_i hne
        exact ih rounds (take state x) hne (by omega)

/-- **Tokens that are read list things.** -/
theorem lists_of_readSome (h : ReadsAs clause writes take) : ∀ (rounds : Nat) (state : σ)
    {state' : σ} {tokens : List Token}, tokens ≠ [] → tokens.length ≤ rounds →
      readSome clause rounds state tokens = .ok state' →
      ∃ xs, Lists writes xs tokens ∧ state' = xs.foldl take state
  | 0, _, _, tokens, hne, hle, _ => absurd (List.eq_nil_of_length_eq_zero (by omega)) hne
  | rounds + 1, state, state', tokens, hne, hle, hread => by
      rw [readSome] at hread
      obtain ⟨⟨path, rest⟩, hpath, hread⟩ := bind_eq_ok_iff.mp hread
      obtain ⟨⟨next, after⟩, hclause, hafter⟩ := bind_eq_ok_iff.mp hread
      clear hread
      obtain ⟨x, written, hx, rfl, rfl⟩ := h.sound hpath hclause
      dsimp only at hafter
      split at hafter
      · cases hafter
        exact ⟨[x], by rw [List.append_nil]; exact .last hx, rfl⟩
      · cases hafter
        exact ⟨[x], .cons hx .nil, rfl⟩
      · rename_i more hmore
        rw [List.length_append, List.length_cons] at hle
        obtain ⟨xs, hlists, rfl⟩ := h.lists_of_readSome rounds (take state x)
          (fun hnil => hmore (by rw [hnil])) (by omega) hafter
        exact ⟨x :: xs, .cons hx hlists, rfl⟩
      · cases hafter

/-- **Tokens are read exactly if they list things**, and the state takes these one by one. -/
theorem readClauses_eq_ok_iff (h : ReadsAs clause writes take) {state state' : σ}
    {tokens : List Token} : readClauses clause state tokens = .ok state' ↔
      ∃ xs, Lists writes xs tokens ∧ state' = xs.foldl take state := by
  unfold readClauses
  split
  · rename_i hnil
    constructor
    · intro hread
      cases hread
      exact ⟨[], hnil ▸ .nil, rfl⟩
    · rintro ⟨xs, hlists, rfl⟩
      rw [h.eq_nil state hlists hnil]
      rfl
  · rename_i hne
    constructor
    · exact h.lists_of_readSome _ state hne (Nat.le_refl _)
    · rintro ⟨xs, hlists, rfl⟩
      exact h.readSome_of_lists hlists _ state hne (Nat.le_refl _)

end ReadsAs

end Clauses

end Structural.Publish
