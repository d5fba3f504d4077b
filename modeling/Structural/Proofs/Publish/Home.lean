import Structural.Proofs.Publish.Clauses

/-!
# What the attribute of a block says

The attribute of a block may give the path where the block looks for what it needs. A path is written
as segments with double colons between them, each with arguments between angle brackets or without.

* `Closes` -- tokens up to the angle bracket that closes the open ones;
* `IsSegment`, `IsSegments`, `IsPath` -- **how a path is written**;
* `isPath_of_path`, `IsPath.path` -- reading a path takes tokens that are one, and takes all of it where
  a clause may end after it;
* `Heads` -- **what an attribute gives**: of several paths the last one, and without any a default;
* `homePath_eq_ok_iff` -- **an attribute is read exactly if it gives a path.**
-/

namespace Structural.Publish

/-! ## 1. Paths as they are written -/

/-- **Tokens close an angle bracket**, and `more` others around it that stand open, the outermost with
    the last token. -/
inductive Closes : Nat → List Token → Prop where
  | last : Closes 0 [.sign ">"]
  | closing {more : Nat} {tokens : List Token} (h : Closes more tokens) :
      Closes (more + 1) (.sign ">" :: tokens)
  | opening {more : Nat} {tokens : List Token} (h : Closes (more + 1) tokens) :
      Closes more (.sign "<" :: tokens)
  | other {token : Token} (hopen : token ≠ .sign "<") (hclose : token ≠ .sign ">") {more : Nat}
      {tokens : List Token} (h : Closes more tokens) : Closes more (token :: tokens)

/-- Arguments after a name: none, or an angle bracket up to the one that closes it, after a double
    colon or at once. -/
inductive IsArguments : List Token → Prop where
  | none : IsArguments []
  | angle {tokens : List Token} (h : Closes 0 tokens) : IsArguments (.sign "<" :: tokens)
  | colons {tokens : List Token} (h : Closes 0 tokens) :
      IsArguments (.sign "::" :: .sign "<" :: tokens)

/-- **A segment of a path**: a name with arguments, or a keyword that may stand in a path. -/
inductive IsSegment : List Token → Prop where
  | keyword {name : String} (h : name ∈ pathKeywords) : IsSegment [.name name]
  | name {name : String} (hpath : name ∉ pathKeywords) (hname : name ∉ keywords)
      {args : List Token} (h : IsArguments args) : IsSegment (.name name :: args)

/-- Segments with double colons between them. -/
inductive IsSegments : List Token → Prop where
  | last {segment : List Token} (h : IsSegment segment) : IsSegments segment
  | cons {segment rest : List Token} (h : IsSegment segment) (hrest : IsSegments rest) :
      IsSegments (segment ++ .sign "::" :: rest)

/-- **A path**: segments, after a double colon or not. -/
inductive IsPath : List Token → Prop where
  | relative {tokens : List Token} (h : IsSegments tokens) : IsPath tokens
  | absolute {tokens : List Token} (h : IsSegments tokens) : IsPath (.sign "::" :: tokens)

/-! ## 2. Arguments -/

/-- The tokens up to the closing bracket close it. -/
theorem closes_of_closeAngles : ∀ {tokens : List Token} {more : Nat} {inner after : List Token},
    closeAngles (more + 1) tokens = some (inner, after) →
      Closes more inner ∧ tokens = inner ++ after
  | [], _, _, _, h => by cases h
  | token :: rest, more, inner, after, h => by
      -- whatever this token is, the brackets left open behind it are closed by the rest
      have hbehind : ∀ {d : Nat},
          ((closeAngles (d + 1) rest).map fun p => (token :: p.1, p.2)) = some (inner, after) →
            ∃ inside, Closes d inside ∧ inner = token :: inside ∧ rest = inside ++ after := by
        intro d hmap
        obtain ⟨⟨inside, _⟩, hrest, heq⟩ := Option.map_eq_some_iff.mp hmap
        obtain ⟨rfl, rfl⟩ := Prod.mk.inj heq
        obtain ⟨hcloses, hsplit⟩ := closes_of_closeAngles hrest
        exact ⟨inside, hcloses, rfl, hsplit⟩
      rw [closeAngles] at h
      split at h
      · rename_i hopen
        obtain ⟨inside, hcloses, rfl, rfl⟩ := hbehind h
        exact ⟨hopen ▸ .opening hcloses, rfl⟩
      · rename_i hopen
        split at h
        · rename_i hclose
          subst hclose
          cases more with
          | zero =>
              rw [if_pos (by omega)] at h
              cases h
              exact ⟨.last, rfl⟩
          | succ more =>
              rw [if_neg (by omega)] at h
              obtain ⟨inside, hcloses, rfl, rfl⟩ := hbehind h
              exact ⟨.closing hcloses, rfl⟩
        · rename_i hclose
          obtain ⟨inside, hcloses, rfl, rfl⟩ := hbehind h
          exact ⟨.other hopen hclose hcloses, rfl⟩

/-- **Tokens that close a bracket are found**, whatever follows them. -/
theorem Closes.closeAngles {more : Nat} {inner : List Token} (h : Closes more inner)
    (after : List Token) :
    closeAngles (more + 1) (inner ++ after) = some (inner, after) := by
  induction h with
  | last => rfl
  | closing _ ih => simp [Publish.closeAngles, ih]
  | opening _ ih => simp [Publish.closeAngles, ih]
  | other hopen hclose _ ih => simp [Publish.closeAngles, ih, hopen, hclose]

/-- What is read as arguments is written so. -/
theorem isArguments_of_angleArgs {tokens args after : List Token}
    (h : angleArgs tokens = (args, after)) : IsArguments args ∧ tokens = args ++ after := by
  unfold angleArgs at h
  split at h
  · split at h
    · rename_i hcloses
      obtain ⟨rfl, rfl⟩ := Prod.mk.inj h
      obtain ⟨hinner, rfl⟩ := closes_of_closeAngles hcloses
      exact ⟨.angle hinner, rfl⟩
    · obtain ⟨rfl, rfl⟩ := Prod.mk.inj h
      exact ⟨.none, rfl⟩
  · split at h
    · rename_i hcloses
      obtain ⟨rfl, rfl⟩ := Prod.mk.inj h
      obtain ⟨hinner, rfl⟩ := closes_of_closeAngles hcloses
      exact ⟨.colons hinner, rfl⟩
    · obtain ⟨rfl, rfl⟩ := Prod.mk.inj h
      exact ⟨.none, rfl⟩
  · obtain ⟨rfl, rfl⟩ := Prod.mk.inj h
    exact ⟨.none, rfl⟩

/-- **What may stand after a segment**: what ends a clause, or a double colon and a name. -/
def EndsSegment (tokens : List Token) : Prop :=
  EndsClause tokens ∨ ∃ name rest, tokens = .sign "::" :: .name name :: rest

/-- No arguments are read there. -/
theorem EndsSegment.angleArgs {tokens : List Token} (h : EndsSegment tokens) :
    angleArgs tokens = ([], tokens) := by
  rcases h with (rfl | ⟨rest, rfl⟩) | ⟨name, rest, rfl⟩ <;> rfl

/-- **Arguments are read as they are written.** -/
theorem IsArguments.angleArgs {args after : List Token} (h : IsArguments args)
    (hafter : EndsSegment after) : angleArgs (args ++ after) = (args, after) := by
  cases h with
  | none => exact hafter.angleArgs
  | angle h => simp only [List.cons_append, Publish.angleArgs, h.closeAngles after]
  | colons h => simp only [List.cons_append, Publish.angleArgs, h.closeAngles after]

/-! ## 3. Segments -/

theorem isSegment_of_pathSegment {tokens segment after : List Token}
    (h : pathSegment tokens = .ok (segment, after)) :
    IsSegment segment ∧ tokens = segment ++ after := by
  unfold pathSegment at h
  split at h
  · split at h
    · rename_i hkeyword
      cases h
      exact ⟨.keyword hkeyword, rfl⟩
    · rename_i hpath
      split at h
      · cases h
      · rename_i hname
        obtain ⟨rfl, rfl⟩ := Prod.mk.inj (Except.ok.inj h)
        obtain ⟨hargs, hrest⟩ := isArguments_of_angleArgs rfl
        refine ⟨.name hpath hname hargs, ?_⟩
        rw [List.cons_append, ← hrest]
  · cases h
  · cases h

/-- **A segment is read as it is written.** -/
theorem IsSegment.pathSegment {segment after : List Token} (h : IsSegment segment)
    (hafter : EndsSegment after) : pathSegment (segment ++ after) = .ok (segment, after) := by
  cases h with
  | keyword hkeyword => simp [Publish.pathSegment, hkeyword]
  | name hpath hname hargs =>
      simp [Publish.pathSegment, hpath, hname, hargs.angleArgs hafter]

/-- A segment starts with a name. -/
theorem IsSegment.exists_name {segment : List Token} (h : IsSegment segment) :
    ∃ name rest, segment = .name name :: rest := by
  cases h with
  | keyword => exact ⟨_, _, rfl⟩
  | name => exact ⟨_, _, rfl⟩

/-- So it is part of a path behind a double colon. -/
theorem IsSegment.endsPath {segment : List Token} (h : IsSegment segment) (rest : List Token) :
    endsPath (segment ++ rest) = false := by
  obtain ⟨name, args, rfl⟩ := h.exists_name
  rfl

theorem IsSegments.exists_name {tokens : List Token} (h : IsSegments tokens) :
    ∃ name rest, tokens = .name name :: rest := by
  cases h with
  | last h => exact h.exists_name
  | cons h =>
      obtain ⟨name, rest, rfl⟩ := h.exists_name
      exact ⟨name, _, rfl⟩

/-- A double colon in front of segments ends the one before them. -/
theorem IsSegments.endsSegment {segments : List Token} (h : IsSegments segments)
    (after : List Token) : EndsSegment (.sign "::" :: (segments ++ after)) := by
  obtain ⟨name, rest, rfl⟩ := h.exists_name
  exact .inr ⟨name, rest ++ after, rfl⟩

/-- A segment with more behind it, or with nothing. -/
theorem IsSegment.isSegments {segment more : List Token} (h : IsSegment segment)
    (hmore : more = [] ∨ ∃ rest, more = .sign "::" :: rest ∧ IsSegments rest) :
    IsSegments (segment ++ more) := by
  rcases hmore with rfl | ⟨rest, rfl, hrest⟩
  · rw [List.append_nil]
    exact .last h
  · exact .cons h hrest

/-- What is read as more segments is written so, each behind a double colon. -/
theorem isSegments_of_moreSegments : ∀ {rounds : Nat} {tokens more after : List Token},
    moreSegments rounds tokens = .ok (more, after) →
      tokens = more ++ after ∧ (more = [] ∨ ∃ rest, more = .sign "::" :: rest ∧ IsSegments rest)
  | 0, _, _, _, h => by
      cases h
      exact ⟨rfl, .inl rfl⟩
  | rounds + 1, tokens, more, after, h => by
      unfold moreSegments at h
      split at h
      · split at h
        · cases h
          exact ⟨rfl, .inl rfl⟩
        · obtain ⟨⟨segment, next⟩, hsegment, h⟩ := bind_eq_ok_iff.mp h
          obtain ⟨⟨others, last⟩, hothers, h⟩ := map_eq_ok_iff.mp h
          obtain ⟨rfl, rfl⟩ := Prod.mk.inj h
          obtain ⟨hwritten, rfl⟩ := isSegment_of_pathSegment hsegment
          obtain ⟨rfl, hrest⟩ := isSegments_of_moreSegments hothers
          exact ⟨by simp, .inr ⟨segment ++ others, by simp, hwritten.isSegments hrest⟩⟩
      · cases h
        exact ⟨rfl, .inl rfl⟩

/-- Where a clause may end, no more segments are read. -/
theorem EndsClause.moreSegments {after : List Token} (h : EndsClause after) (rounds : Nat) :
    moreSegments rounds after = .ok ([], after) := by
  rcases h with rfl | ⟨rest, rfl⟩ <;> cases rounds <;> rfl

/-- **More segments are read as they are written.** -/
theorem IsSegments.moreSegments {segments after : List Token} (h : IsSegments segments)
    (hafter : EndsClause after) : ∀ {rounds : Nat}, segments.length ≤ rounds →
      moreSegments rounds (.sign "::" :: (segments ++ after)) =
        .ok (.sign "::" :: segments, after) := by
  induction h with
  | @last segment hsegment =>
      intro rounds hle
      obtain ⟨name, args, hname⟩ := hsegment.exists_name
      obtain ⟨rounds, rfl⟩ : ∃ n, rounds = n + 1 :=
        ⟨rounds - 1, by rw [hname, List.length_cons] at hle; omega⟩
      simp [Publish.moreSegments, hsegment.endsPath after, hsegment.pathSegment (.inl hafter),
        hafter.moreSegments rounds, Except.bind, Except.map]
  | @cons segment rest hsegment hrest ih =>
      intro rounds hle
      rw [List.length_append, List.length_cons] at hle
      obtain ⟨rounds, rfl⟩ : ∃ n, rounds = n + 1 := ⟨rounds - 1, by omega⟩
      have hle' : rest.length ≤ rounds := by omega
      simp [Publish.moreSegments, hsegment.endsPath (.sign "::" :: (rest ++ after)),
        hsegment.pathSegment (hrest.endsSegment after), ih hle', Except.bind, Except.map]

theorem isSegments_of_pathSegments {tokens segments after : List Token}
    (h : pathSegments tokens = .ok (segments, after)) :
    IsSegments segments ∧ tokens = segments ++ after := by
  obtain ⟨⟨first, next⟩, hfirst, h⟩ := bind_eq_ok_iff.mp h
  obtain ⟨⟨more, last⟩, hmore, h⟩ := map_eq_ok_iff.mp h
  obtain ⟨rfl, rfl⟩ := Prod.mk.inj h
  obtain ⟨hwritten, rfl⟩ := isSegment_of_pathSegment hfirst
  obtain ⟨rfl, hrest⟩ := isSegments_of_moreSegments hmore
  exact ⟨hwritten.isSegments hrest, by simp⟩

theorem IsSegments.pathSegments {segments after : List Token} (h : IsSegments segments)
    (hafter : EndsClause after) : pathSegments (segments ++ after) = .ok (segments, after) := by
  cases h with
  | last hsegment =>
      simp [Publish.pathSegments, hsegment.pathSegment (.inl hafter), hafter.moreSegments,
        Except.bind, Except.map]
  | @cons segment rest hsegment hrest =>
      have hle : rest.length ≤ (Token.sign "::" :: (rest ++ after)).length := by
        rw [List.length_cons, List.length_append]
        omega
      simp only [Publish.pathSegments, List.append_assoc, List.cons_append,
        hsegment.pathSegment (hrest.endsSegment after), Except.bind,
        hrest.moreSegments hafter hle, Except.map]

/-! ## 4. Paths -/

/-- **What is read as a path is one.** -/
theorem isPath_of_path {tokens p after : List Token} (h : path tokens = .ok (p, after)) :
    IsPath p ∧ tokens = p ++ after := by
  unfold path at h
  split at h
  · obtain ⟨⟨segments, last⟩, hsegments, h⟩ := map_eq_ok_iff.mp h
    obtain ⟨rfl, rfl⟩ := Prod.mk.inj h
    obtain ⟨hwritten, rfl⟩ := isSegments_of_pathSegments hsegments
    exact ⟨.absolute hwritten, rfl⟩
  · obtain ⟨hwritten, rfl⟩ := isSegments_of_pathSegments h
    exact ⟨.relative hwritten, rfl⟩

/-- **A path is read as a whole**, where a clause may end after it. -/
theorem IsPath.path {p after : List Token} (h : IsPath p) (hafter : EndsClause after) :
    path (p ++ after) = .ok (p, after) := by
  cases h with
  | relative h =>
      obtain ⟨name, rest, hname⟩ := h.exists_name
      have hread := h.pathSegments hafter
      rw [hname] at hread ⊢
      exact hread
  | absolute h => simp [Publish.path, h.pathSegments hafter, Except.map]

/-! ## 5. The attribute of a block -/

/-- A clause that gives a path. -/
def WritesHome (p tokens : List Token) : Prop :=
  IsPath p ∧ tokens = .name "crate" :: .sign "=" :: p

/-- **The attribute of a block gives a path**: its clauses each give one, and the last of these counts.
    Without clauses, it is a default. -/
def Heads (clauses : List Clause) (home : List Token) : Prop :=
  ∃ paths, Lists WritesHome paths (clauseTokens clauses) ∧ home = paths.getLast?.getD defaultPath

/-- **The clauses of a block's attribute are read as paths are given.** -/
theorem readsAs_blockClause : ReadsAs blockClause WritesHome fun _ p => p where
  sound {_ _ path tokens rest after} hpath hclause := by
    unfold blockClause at hclause
    split at hclause
    · rename_i hname
      obtain ⟨value, hsign, hread⟩ := bind_eq_ok_iff.mp hclause
      obtain ⟨hwritten, rfl⟩ := isPath_of_path hread
      rw [eq_of_clausePath hpath hname, equalsSign_eq_ok_iff.mp hsign]
      exact ⟨_, _, ⟨hwritten, rfl⟩, rfl, rfl⟩
    · cases hclause
  complete _ p written after hwrites hafter := by
    obtain ⟨hp, rfl⟩ := hwrites
    refine ⟨_, _, clausePath_name (endsName_sign (by decide) _), ?_⟩
    exact hp.path hafter

/-- Of several paths the last one counts. -/
theorem foldl_last {α : Type} : ∀ (xs : List α) (x : α),
    xs.foldl (fun _ y => y) x = xs.getLast?.getD x
  | [], _ => rfl
  | y :: rest, x => by
      rw [List.foldl_cons, foldl_last rest y, List.getLast?_cons, Option.getD_some]

/-- **An attribute is read exactly if it gives a path**, and that is the path read. -/
theorem homePath_eq_ok_iff {clauses : List Clause} {home : List Token} :
    homePath (clauseTokens clauses) = .ok home ↔ Heads clauses home := by
  unfold homePath Heads
  rw [readsAs_blockClause.readClauses_eq_ok_iff]
  simp only [foldl_last]

end Structural.Publish
