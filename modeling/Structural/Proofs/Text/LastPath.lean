import Structural.Proofs.Text.TypeName

/-!
# Where the full name of a type is cut

The short form of a full name is found without regard to brackets.

* `sight` -- the words of a name in front of its first `<`;
* `LastInSight` -- **the last path with modules in sight**, and the words around it;
* `shortChars_of_unqualified`, `LastInSight.shortChars_eq` -- **the cut falls into that path**,
  whatever the path is a part of. Without such a path there is no cut;
* `LastInSight.balanced_iff` -- what is left is balanced exactly if no bracket stands open in front of
  the path;
* `TypeName.outermost?`, `TypeName.isEnclosed` -- the names that are a path themselves, and those
  that stand between brackets;
* `KeepsFromLastPath`, `keepsFromLastPath` -- **what the short form of a name is**, by these cases;
* `StripsModulesOnly`, `stripsModulesOnly_iff` -- **the names of which it is the name without a module
  path**: paths, and those without a path with modules in sight.
-/

namespace Structural.Text

/-! ## 1. Paths in sight -/

/-- The words in front of the first `<`. -/
def sight (ws : List Word) : List Word :=
  ws.takeWhile (· ≠ .sign .openAngle)

/-- No path among some words has modules. -/
def Unqualified (ws : List Word) : Prop :=
  ∀ p, .path p ∈ ws → p.modules = []

/-- **The last path with modules in sight**, with the words before and after it. -/
structure LastInSight (ws before : List Word) (p : Path) (after : List Word) : Prop where
  split : ws = before ++ .path p :: after
  inSight : .sign .openAngle ∉ before
  qualified : p.modules ≠ []
  last : Unqualified (sight after)

/-- A path without its modules. -/
def Path.stripped (p : Path) : Path :=
  ⟨[], p.base⟩

theorem sight_cons {w : Word} (hw : w ≠ .sign .openAngle) (ws : List Word) :
    sight (w :: ws) = w :: sight ws := by
  unfold sight
  rw [List.takeWhile_cons, if_pos (decide_eq_true hw)]

theorem sight_openAngle (ws : List Word) : sight (.sign .openAngle :: ws) = [] := by
  unfold sight
  rw [List.takeWhile_cons, if_neg (by simp)]

theorem Unqualified.cons {w : Word} {ws : List Word} (hw : ∀ p, w = .path p → p.modules = [])
    (hws : Unqualified ws) : Unqualified (w :: ws) := by
  intro p hp
  rcases List.mem_cons.mp hp with h | h
  · exact hw p h.symm
  · exact hws p h

/-- **In sight there is a last path with modules, or none.** -/
theorem unqualified_or_lastInSight (ws : List Word) :
    Unqualified (sight ws) ∨ ∃ before p after, LastInSight ws before p after := by
  induction ws with
  | nil => exact Or.inl fun p hp => absurd hp List.not_mem_nil
  | cons w ws ih =>
      by_cases hw : w = .sign .openAngle
      · refine Or.inl fun p hp => ?_
        rw [hw, sight_openAngle] at hp
        exact absurd hp List.not_mem_nil
      · rcases ih with hnone | ⟨before, p, after, h⟩
        · by_cases hqualified : ∃ p, w = .path p ∧ p.modules ≠ []
          · obtain ⟨p, rfl, hp⟩ := hqualified
            exact Or.inr ⟨[], p, ws, rfl, List.not_mem_nil, hp, hnone⟩
          · rw [sight_cons hw]
            refine Or.inl (hnone.cons fun p hp => ?_)
            exact Classical.byContradiction fun hne => hqualified ⟨p, hp, hne⟩
        · refine Or.inr ⟨w :: before, p, after, ?_, ?_, h.qualified, h.last⟩
          · rw [h.split, List.cons_append]
          · rw [List.mem_cons, not_or]
            exact ⟨fun heq => hw heq.symm, h.inSight⟩

/-! ## 2. Cuts of words -/

/-- The head of some words is written with those in sight. -/
theorem head_textOf (ws : List Word) : head (textOf ws) = textOf (sight ws) := by
  induction ws with
  | nil => rfl
  | cons w ws ih =>
      by_cases hw : w = .sign .openAngle
      · rw [hw, sight_openAngle]
        rfl
      · rw [textOf_cons, head_append (Word.not_mem_of_ne hw), ih, sight_cons hw, textOf_cons]

theorem Unqualified.not_hasSeparator {ws : List Word} (h : Unqualified ws) :
    ¬ HasSeparator (textOf ws) := by
  refine not_hasSeparator_of_not_mem fun hcolon => ?_
  obtain ⟨w, hw, hmem⟩ := List.mem_flatMap.mp hcolon
  exact Word.colon_not_mem (fun p hp => h p (hp ▸ hw)) hmem

/-- **Without a path with modules in sight there is no cut.** -/
theorem shortChars_of_unqualified {ws : List Word} (h : Unqualified (sight ws)) :
    shortChars (textOf ws) = textOf ws := by
  refine shortChars_of_none (lastSeparator?_eq_none_iff.mpr ?_)
  rw [head_textOf]
  exact h.not_hasSeparator

theorem Path.not_mem_text (p : Path) : '<' ∉ p.text := fun h =>
  absurd (isPlain_of_mem_path h) (by decide)

/-- A path with modules, as the text in front of its last separator and what is behind it. -/
theorem Path.exists_front {p : Path} (h : p.modules ≠ []) :
    ∃ m, p.text = m ++ ':' :: ':' :: p.stripped.text ∧ '<' ∉ m := by
  obtain ⟨outer, inner, hmodules⟩ := List.eq_nil_or_concat p.modules |>.resolve_left h
  refine ⟨(outer.flatMap fun m => m.chars ++ [':', ':']) ++ inner.chars, ?_, ?_⟩
  · rw [Path.text, Path.front, hmodules]
    simp [Path.text, Path.front, Path.stripped]
  · intro hmem
    refine p.not_mem_text ?_
    rw [Path.text, Path.front, hmodules]
    rcases List.mem_append.mp hmem with hmem | hmem
    · simp [hmem]
    · simp [hmem]

namespace LastInSight

variable {ws before after : List Word} {p : Path}

/-- **The cut falls into the last path with modules in sight**: what stands in front of this path is
    lost together with its modules. -/
theorem shortChars_eq (h : LastInSight ws before p after) :
    shortChars (textOf ws) = textOf (.path p.stripped :: after) := by
  obtain ⟨m, hpath, hm⟩ := Path.exists_front h.qualified
  have hbefore : '<' ∉ textOf before := by
    intro hmem
    obtain ⟨w, hw, hlt⟩ := List.mem_flatMap.mp hmem
    exact Word.not_mem_of_ne (fun hangle => h.inSight (hangle ▸ hw)) hlt
  have htext : textOf ws = (textOf before ++ m) ++ ':' :: ':' :: textOf (.path p.stripped :: after) := by
    rw [h.split, textOf_append, textOf_cons, textOf_cons]
    show textOf before ++ (p.text ++ textOf after) = _
    rw [hpath]
    simp [Word.text]
  have hfirst : (textOf (.path p.stripped :: after)).head? ≠ some ':' := by
    obtain ⟨c, rest, hchars⟩ := List.exists_cons_of_ne_nil p.base.nonempty
    have hc : isIdentChar c = true := p.base.ofIdentChars c (hchars ▸ List.mem_cons_self)
    have htext : textOf (.path p.stripped :: after) = c :: (rest ++ textOf after) := by
      rw [textOf_cons]
      show p.base.chars ++ textOf after = _
      rw [hchars, List.cons_append]
    rw [htext]
    intro hcolon
    cases hcolon
    exact absurd hc (by decide)
  have hlast : ¬ HasSeparator (head (textOf (.path p.stripped :: after))) := by
    have hstripped : Unqualified (.path p.stripped :: sight after) := by
      refine h.last.cons fun q hq => ?_
      cases hq
      rfl
    rw [head_textOf, sight_cons (by simp)]
    exact hstripped.not_hasSeparator
  rw [htext]
  refine shortChars_append ?_ (not_hasSeparator_colon hfirst hlast)
  rw [List.mem_append, not_or]
  exact ⟨hbefore, hm⟩

/-- What stands open in front of the path is closed behind it. -/
theorem exists_standing (h : LastInSight ws before p after) (hws : standing [] ws = some []) :
    ∃ opened, standing [] before = some opened ∧
      standing opened (.path p.stripped :: after) = some [] := by
  rw [h.split, standing_append] at hws
  obtain ⟨opened, hbefore, hafter⟩ := Option.bind_eq_some_iff.mp hws
  rw [standing_path] at hafter
  exact ⟨opened, hbefore, (standing_path _ _ _).trans hafter⟩

/-- **What is left is balanced exactly if no bracket stands open in front of the path.** -/
theorem balanced_iff (h : LastInSight ws before p after) (hws : standing [] ws = some []) :
    Balanced (shortChars (textOf ws)) ↔ standing [] before = some [] := by
  obtain ⟨opened, hbefore, hafter⟩ := h.exists_standing hws
  rw [h.shortChars_eq, balanced_iff_of_nest hafter, hbefore, Option.some.injEq]

end LastInSight

/-- A path with modules leaves something out. -/
theorem LastInSight.shortName_ne {t : TypeName} {before after : List Word} {p : Path}
    (h : LastInSight t.words before p after) : shortName t.name ≠ t.name := by
  obtain ⟨m, hpath, _⟩ := Path.exists_front h.qualified
  intro hsame
  have hshort : shortChars (textOf t.words) = textOf t.words := by
    rw [← String.toList_inj, shortName, TypeName.name, String.toList_ofList,
      String.toList_ofList] at hsame
    exact hsame
  have hlength := congrArg List.length hshort
  rw [h.shortChars_eq, h.split, textOf_append, textOf_cons, textOf_cons] at hlength
  have hwords : (Word.path p).text = m ++ ':' :: ':' :: (Word.path p.stripped).text := hpath
  rw [hwords] at hlength
  simp only [List.length_append, List.length_cons] at hlength
  omega

/-- **A path with nothing in sight behind it loses its modules**, if it has any. -/
theorem textOf_path (p : Path) {rest : List Word} (hrest : sight rest = []) :
    textOf (.path p :: rest) = p.front ++ shortChars (textOf (.path p :: rest)) := by
  have hnone : Unqualified (sight rest) := by
    rw [hrest]
    exact fun q hq => absurd hq List.not_mem_nil
  by_cases hmodules : p.modules = []
  · have hfront : p.front = [] := by
      rw [Path.front, hmodules, List.flatMap_nil]
    have hunqualified : Unqualified (sight (.path p :: rest)) := by
      rw [sight_cons (by simp)]
      refine hnone.cons fun q hq => ?_
      cases hq
      exact hmodules
    rw [shortChars_of_unqualified hunqualified, hfront, List.nil_append]
  · have hlast : LastInSight (.path p :: rest) [] p rest :=
      ⟨rfl, List.not_mem_nil, hmodules, hnone⟩
    rw [hlast.shortChars_eq, textOf_cons, textOf_cons, ← List.append_assoc]
    rfl

/-- **The short form of a balanced name opens no bracket for good.** -/
theorem closing_shortChars {ws : List Word} (hws : standing [] ws = some []) :
    Closing (shortChars (textOf ws)) := by
  rcases unqualified_or_lastInSight ws with hnone | ⟨before, p, after, h⟩
  · rw [shortChars_of_unqualified hnone]
    exact closing_of_nest hws
  · obtain ⟨opened, _, hafter⟩ := h.exists_standing hws
    rw [h.shortChars_eq]
    exact closing_of_nest hafter

/-! ## 3. Names -/

namespace TypeName

/-- The path of a name that is nothing but a path, with arguments or without. -/
def outermost? : TypeName → Option Path
  | .path p => some p
  | .generic p _ => some p
  | _ => none

/-- Whether a name as a whole stands between brackets. -/
def isEnclosed : TypeName → Bool
  | .tuple _ => true
  | .slice _ => true
  | .array .. => true
  | _ => false

/-- **A name begins with a path or with a sign.** Behind an outermost path nothing is in sight. -/
theorem words_cases (t : TypeName) :
    (∃ p rest, t.outermost? = some p ∧ t.words = .path p :: rest ∧ sight rest = []) ∨
      ∃ s rest, t.outermost? = none ∧ t.words = .sign s :: rest := by
  cases t with
  | path p => exact Or.inl ⟨p, [], rfl, by rw [words], rfl⟩
  | generic p args => exact Or.inl ⟨p, _, rfl, by rw [words], sight_openAngle _⟩
  | tuple elements => exact Or.inr ⟨_, _, rfl, by rw [words]⟩
  | slice element => exact Or.inr ⟨_, _, rfl, by rw [words]⟩
  | array element size => exact Or.inr ⟨_, _, rfl, by rw [words]⟩
  | pointer kind target => exact Or.inr ⟨_, _, rfl, by rw [words]⟩
  | dynamic p => exact Or.inr ⟨_, _, rfl, by rw [words]⟩
  | function params result => exact Or.inr ⟨_, _, rfl, by rw [words]⟩

/-- A name between brackets begins and ends with them. -/
theorem words_of_isEnclosed {t : TypeName} (h : t.isEnclosed = true) :
    ∃ s kind inner closing, t.words = .sign s :: (inner ++ closing) ∧
      brackets s.text = [⟨kind, true⟩] ∧ standing [] inner = some [] ∧
      ∀ p, Word.path p ∉ closing := by
  cases t with
  | tuple elements =>
      refine ⟨.openRound, .round, listed elements, tupleEnd elements.length, by rw [words], rfl,
        standing_listed [] elements, fun p hp => ?_⟩
      unfold tupleEnd at hp
      split at hp
      · simp at hp
      · simp at hp
  | slice element =>
      exact ⟨.openSquare, .square, element.words, [.sign .closeSquare], by rw [words], rfl,
        element.standing_words [], fun p hp => by simp at hp⟩
  | array element size =>
      exact ⟨.openSquare, .square, element.words,
        [.sign .semicolon, .number size, .sign .closeSquare], by rw [words], rfl,
        element.standing_words [], fun p hp => by simp at hp⟩
  | path _ => cases h
  | generic _ _ => cases h
  | pointer _ _ => cases h
  | dynamic _ => cases h
  | function _ _ => cases h

end TypeName

/-- **A path between brackets has one of them open in front of it.** -/
theorem LastInSight.standing_ne {s : Sign} {kind : BracketKind} {inner closing before after : List Word}
    {p : Path} (h : LastInSight (.sign s :: (inner ++ closing)) before p after)
    (hopen : brackets s.text = [⟨kind, true⟩]) (hinner : standing [] inner = some [])
    (hclosing : ∀ q, Word.path q ∉ closing) : standing [] before ≠ some [] := by
  cases before with
  | nil =>
      have hfirst := (List.cons.inj h.split).1
      cases hfirst
  | cons w front =>
      obtain ⟨rfl, hsplit⟩ := List.cons.inj h.split
      rcases List.append_eq_append_iff.mp hsplit with ⟨more, hfront, hrest⟩ | ⟨more, hmore, _⟩
      · have hmem : Word.path p ∈ closing := by
          rw [hrest]
          exact List.mem_append_right more List.mem_cons_self
        exact absurd hmem (hclosing p)
      · -- the front is a part of what stands between the brackets
        rw [hmore, standing_append] at hinner
        obtain ⟨opened, hopened, _⟩ := Option.bind_eq_some_iff.mp hinner
        have honto : standing [kind] front = some (opened ++ [kind]) := nest_onto hopened [kind]
        rw [standing_opening hopen, honto]
        simp

/-- **The short form of a name keeps what stands from the last path with modules on**, that path
    without its modules. -/
structure KeepsFromLastPath (t : TypeName) : Prop where
  /-- A path, with arguments or without, loses its modules and nothing else. -/
  path : ∀ p, t.outermost? = some p → t.name = String.ofList p.front ++ shortName t.name
  /-- Any name without a path with modules in sight stays as it is. -/
  plain : Unqualified (sight t.words) → shortName t.name = t.name
  /-- Any other is cut in the last one. -/
  cut : Unqualified (sight t.words) ∨ ∃ before p after, LastInSight t.words before p after
  kept : ∀ before p after, LastInSight t.words before p after →
    shortName t.name = String.ofList (textOf (.path p.stripped :: after))
  /-- A name that is no path loses the sign that it begins with. -/
  lost : t.outermost? = none → ∀ before p after, LastInSight t.words before p after →
    ∃ s rest, before = .sign s :: rest
  /-- The brackets of the full name are balanced. -/
  balanced : Balanced t.name.toList
  /-- Those of the short form are if none stands open in front of the path. -/
  balanced_iff : ∀ before p after, LastInSight t.words before p after →
    (Balanced (shortName t.name).toList ↔ standing [] before = some [])
  /-- One does in a tuple, a slice or an array. -/
  enclosed : t.isEnclosed = true → ∀ before p after, LastInSight t.words before p after →
    ¬ Balanced (shortName t.name).toList

theorem TypeName.toList_shortName_name (t : TypeName) :
    (shortName t.name).toList = shortChars (textOf t.words) := by
  rw [shortName, name, String.toList_ofList, String.toList_ofList]

/-- **Full names are balanced.** -/
theorem TypeName.balanced_name (t : TypeName) : Balanced t.name.toList := by
  rw [name, String.toList_ofList]
  exact t.standing_words []

/-- **What the short form of a name is.** -/
theorem keepsFromLastPath (t : TypeName) : KeepsFromLastPath t where
  path p hp := by
    rw [← String.toList_inj, String.toList_append, String.toList_ofList, t.toList_shortName_name,
      TypeName.name, String.toList_ofList]
    rcases t.words_cases with ⟨q, rest, hq, hwords, hrest⟩ | ⟨s, rest, hnone, _⟩
    · rw [hp] at hq
      obtain rfl := Option.some.inj hq
      rw [hwords]
      exact textOf_path p hrest
    · rw [hp] at hnone
      cases hnone
  plain h := by
    rw [← String.toList_inj, t.toList_shortName_name, shortChars_of_unqualified h, TypeName.name,
      String.toList_ofList]
  cut := unqualified_or_lastInSight t.words
  kept before p after h := by
    rw [← String.toList_inj, t.toList_shortName_name, h.shortChars_eq, String.toList_ofList]
  lost hnone before p after h := by
    rcases t.words_cases with ⟨q, rest, hq, _⟩ | ⟨s, rest, _, hwords⟩
    · rw [hnone] at hq
      cases hq
    · have hsplit := h.split
      rw [hwords] at hsplit
      cases before with
      | nil => cases hsplit
      | cons w front => exact ⟨s, front, by rw [(List.cons.inj hsplit).1]⟩
  balanced := t.balanced_name
  balanced_iff before p after h := by
    rw [t.toList_shortName_name]
    exact h.balanced_iff (t.standing_words [])
  enclosed henclosed before p after h := by
    obtain ⟨s, kind, inner, closing, hwords, hopen, hinner, hclosing⟩ :=
      TypeName.words_of_isEnclosed henclosed
    rw [t.toList_shortName_name, h.balanced_iff (t.standing_words [])]
    rw [hwords] at h
    exact h.standing_ne hopen hinner hclosing

example : shortName "fn(a::B, c::D) -> u8" = "D) -> u8" := by decide

/-! ## 4. Names without their modules -/

/-- **A short form strips modules only**: those of a path, with arguments or without. Any other name
    keeps its outermost form, and no bracket loses its partner. -/
structure StripsModulesOnly (t : TypeName) : Prop where
  path : ∀ p, t.outermost? = some p →
    shortName t.name = t.name ∨ t.name = String.ofList p.front ++ shortName t.name
  other : t.outermost? = none → shortName t.name = t.name
  balanced : Balanced t.name.toList → Balanced (shortName t.name).toList

/-- Modules have no brackets. -/
theorem Path.balanced_front_append (p : Path) (cs : List Char) :
    Balanced (p.front ++ cs) ↔ Balanced cs := by
  have hplain : ∀ c ∈ p.front, isPlain c = true := fun c hc =>
    isPlain_of_mem_path (List.mem_append_left p.base.chars hc)
  have hfront : brackets p.front = [] :=
    brackets_of_plain fun c hc => bracket?_of_isPlain (hplain c hc)
  have hjoins : Joins p.front cs := Or.inl fun hlast =>
    absurd (hplain '-' (List.mem_of_getLast? hlast)) (by decide)
  unfold Balanced
  rw [brackets_append hjoins, hfront, List.nil_append]

/-- **Modules alone are stripped exactly off paths**, and off names without a path with modules in
    sight, which have none to lose. -/
theorem stripsModulesOnly_iff (t : TypeName) :
    StripsModulesOnly t ↔ t.outermost?.isSome = true ∨ Unqualified (sight t.words) := by
  have hkeeps := keepsFromLastPath t
  cases hpath : t.outermost? with
  | some p =>
      have hname := hkeeps.path p hpath
      refine iff_of_true ⟨fun q hq => ?_, fun hnone => ?_, fun hbalanced => ?_⟩ (Or.inl rfl)
      · rw [hpath] at hq
        cases hq
        exact Or.inr hname
      · rw [hpath] at hnone
        cases hnone
      · rw [hname, String.toList_append, String.toList_ofList, p.balanced_front_append] at hbalanced
        exact hbalanced
  | none =>
      constructor
      · intro h
        rcases hkeeps.cut with hnone | ⟨before, p, after, hlast⟩
        · exact Or.inr hnone
        · exact absurd (h.other hpath) hlast.shortName_ne
      · intro h
        have hsame : shortName t.name = t.name := hkeeps.plain (h.resolve_left (by simp))
        refine ⟨fun p hp => ?_, fun _ => hsame, fun hbalanced => ?_⟩
        · rw [hpath] at hp
          cases hp
        · rw [hsame]
          exact hbalanced

end Structural.Text
