import Mathlib.Data.List.TakeWhile
import Structural.Publish.Token

/-!
# Texts of one word

What an attribute is about is decided by its path, a text that is split into tokens first.

* `Token.IsWord` -- **a text is one word**, with blanks in front of it and behind it, or none;
* `Token.Plain` -- a word that is a name and starts no quotation;
* `Token.scan_eq_nil_iff` -- a text without tokens is blank;
* `Token.ofSource_eq_name_iff` -- **the one token of a text is a plain word exactly if the text is this
  word.**
-/

namespace Structural.Publish.Token

/-! ## 1. Words and blanks -/

/-- **A text is one word**, with blanks around it or none. -/
def IsWord (word s : String) : Prop :=
  ∃ front back : List Char, s.toList = front ++ word.toList ++ back ∧
    (∀ c ∈ front, isGap c = true) ∧ ∀ c ∈ back, isGap c = true

/-- A word is a text of itself. -/
theorem isWord_self (word : String) : IsWord word word :=
  ⟨[], [], by simp, by simp, by simp⟩

/-- **A plain word** is a name, and no quotation starts with it. -/
structure Plain (word : String) : Prop where
  name : ∃ c rest, word.toList = c :: rest ∧ startsName c = true ∧ ∀ d ∈ rest, inName d = true
  bare : word ≠ "r"
  unmarked : markedQuotations.lookup word = none

/-- No name goes on with a blank. -/
theorem inName_eq_false_of_isGap {c : Char} (h : isGap c = true) : inName c = false := by
  simp only [isGap, Char.isWhitespace, Bool.or_eq_true, decide_eq_true_eq] at h
  rcases h with ((((rfl | rfl) | rfl) | rfl) | rfl) | rfl <;> decide

theorem isGap_eq_false_of_inName {c : Char} (h : inName c = true) : isGap c = false := by
  cases hgap : isGap c with
  | false => rfl
  | true =>
      rw [inName_eq_false_of_isGap hgap] at h
      cases h

theorem inName_of_startsName {c : Char} (h : startsName c = true) : inName c = true := by
  rw [inName, h, Bool.true_or]

theorem dropWhile_isGap_eq_nil_iff {cs : List Char} :
    cs.dropWhile isGap = [] ↔ ∀ c ∈ cs, isGap c = true :=
  List.dropWhile_eq_nil_iff

/-- **A text has no tokens exactly if it is blank.** -/
theorem scan_eq_nil_iff {rounds : Nat} {cs : List Char} (h : cs.length ≤ rounds) :
    scan rounds cs = [] ↔ ∀ c ∈ cs, isGap c = true := by
  cases rounds with
  | zero =>
      obtain rfl := List.eq_nil_of_length_eq_zero (Nat.le_zero.mp h)
      exact iff_of_true rfl fun c hc => absurd hc List.not_mem_nil
  | succ rounds =>
      rw [← dropWhile_isGap_eq_nil_iff, scan]
      cases cs.dropWhile isGap with
      | nil => exact iff_of_true rfl rfl
      | cons c rest => exact iff_of_false (List.cons_ne_nil _ _) (List.cons_ne_nil _ _)

/-! ## 2. Tokens that start with a word -/

/-- A plain word is a name, whatever follows it. -/
theorem ofWord_of_plain {word : String} (h : Plain word) (rest : List Char) :
    ofWord word rest = (.name word, rest) := by
  simp only [ofWord, h.bare, h.unmarked, if_false]

/-- A plain word has no sign in it. -/
theorem Plain.not_mem {word : String} (h : Plain word) {c : Char} (hc : inName c = false) :
    c ∉ word.toList := by
  obtain ⟨d, rest, hword, hfirst, hrest⟩ := h.name
  intro hmem
  rw [hword] at hmem
  rcases List.mem_cons.mp hmem with rfl | hmem
  · rw [inName_of_startsName hfirst] at hc
    cases hc
  · rw [hrest c hmem] at hc
    cases hc

/-- **Only the word itself is read as a plain word.** -/
theorem eq_of_ofWord {word start : String} {rest after : List Char} (h : Plain word)
    (hread : ofWord start rest = (.name word, after)) : start = word ∧ rest = after := by
  have hasName : ∀ {p : Token × List Char}, (name start, rest) = p → p = (.name word, after) →
      start = word ∧ rest = after := by
    rintro p rfl hp
    exact ⟨Token.name.inj (Prod.mk.inj hp).1, (Prod.mk.inj hp).2⟩
  unfold ofWord at hread
  dsimp only at hread
  split at hread
  · rename_i hr
    split at hread
    · split at hread
      · -- a name that is marked as none has a sign in it
        have hmarked := Token.name.inj (Prod.mk.inj hread).1
        refine absurd ?_ (h.not_mem (c := '#') (by decide))
        rw [← hmarked, String.toList_append]
        exact List.mem_append_left _ (by decide)
      · split at hread
        · cases (Prod.mk.inj hread).1
        · exact hasName rfl hread
    · split at hread
      · cases (Prod.mk.inj hread).1
      · exact hasName rfl hread
  · split at hread
    · exact hasName rfl hread
    · rename_i raw hlookup
      have hstart : start ≠ word := by
        rintro rfl
        rw [h.unmarked] at hlookup
        cases hlookup
      split at hread
      · cases (Prod.mk.inj hread).1
      · split at hread
        · cases (Prod.mk.inj hread).1
        · exact hasName rfl hread
      · exact hasName rfl hread

theorem ofCharacter_of_startsName {c : Char} (h : startsName c = true) (rest : List Char) :
    ofCharacter c rest =
      ofWord (String.ofList (c :: rest.takeWhile inName)) (rest.dropWhile inName) := by
  unfold ofCharacter
  exact if_pos h

/-- A name starts as one. -/
theorem startsName_of_ofCharacter {c : Char} {rest after : List Char} {word : String}
    (h : ofCharacter c rest = (.name word, after)) : startsName c = true := by
  unfold ofCharacter at h
  split at h
  · assumption
  · split at h
    · cases (Prod.mk.inj h).1
    · split at h
      · cases (Prod.mk.inj h).1
      · split at h
        · cases (Prod.mk.inj h).1
        · cases (Prod.mk.inj h).1
      · cases (Prod.mk.inj h).1
      · cases (Prod.mk.inj h).1
      · cases (Prod.mk.inj h).1

/-- **A plain word is read where it stands**, up to its end. -/
theorem ofCharacter_eq_name_iff {word : String} (h : Plain word) {c : Char}
    {rest after : List Char} : ofCharacter c rest = (.name word, after) ↔
      c :: rest.takeWhile inName = word.toList ∧ rest.dropWhile inName = after := by
  constructor
  · intro hread
    have hfirst := startsName_of_ofCharacter hread
    rw [ofCharacter_of_startsName hfirst] at hread
    obtain ⟨hword, hafter⟩ := eq_of_ofWord h hread
    refine ⟨?_, hafter⟩
    rw [← hword, String.toList_ofList]
  · rintro ⟨hword, hafter⟩
    obtain ⟨d, more, hchars, hfirst, _⟩ := h.name
    have hc : startsName c = true := by
      rw [hchars] at hword
      rw [(List.cons.inj hword).1]
      exact hfirst
    rw [ofCharacter_of_startsName hc, hword, String.ofList_toList, hafter]
    exact ofWord_of_plain h after

/-! ## 3. Texts -/

/-- Blanks go on with no name. -/
theorem span_inName_of_isGap {cs : List Char} (h : ∀ c ∈ cs, isGap c = true) :
    cs.takeWhile inName = [] ∧ cs.dropWhile inName = cs := by
  cases cs with
  | nil => exact ⟨rfl, rfl⟩
  | cons c rest =>
      have hc := inName_eq_false_of_isGap (h c List.mem_cons_self)
      rw [List.takeWhile_cons, List.dropWhile_cons, hc]
      exact ⟨rfl, rfl⟩

/-- A text with a plain word for its one token is this word, between the blanks in front of it and
    what the name leaves. -/
theorem isWord_of_ofSource {word s : String} (h : Plain word) (hscan : ofSource s = [.name word]) :
    IsWord word s := by
  unfold ofSource at hscan
  rw [← String.length_toList] at hscan
  obtain ⟨first, more, hword, _, _⟩ := h.name
  cases hlength : s.toList.length with
  | zero =>
      rw [hlength] at hscan
      cases hscan
  | succ rounds =>
      rw [hlength, scan] at hscan
      cases hdrop : s.toList.dropWhile isGap with
      | nil =>
          rw [hdrop] at hscan
          cases hscan
      | cons c rest =>
          rcases hread : ofCharacter c rest with ⟨token, after⟩
          simp only [hdrop, hread] at hscan
          obtain ⟨rfl, hafter⟩ := List.cons.inj hscan
          obtain ⟨hstart, rfl⟩ := (ofCharacter_eq_name_iff h).mp hread
          have hsplit : s.toList =
              s.toList.takeWhile isGap ++ word.toList ++ rest.dropWhile inName := by
            calc s.toList = s.toList.takeWhile isGap ++ c :: rest := by
                  rw [← hdrop, List.takeWhile_append_dropWhile]
              _ = s.toList.takeWhile isGap ++ (c :: rest.takeWhile inName) ++
                  rest.dropWhile inName := by
                  rw [List.append_assoc, List.cons_append, List.takeWhile_append_dropWhile]
              _ = s.toList.takeWhile isGap ++ word.toList ++ rest.dropWhile inName := by
                  rw [hstart]
          have hle : (rest.dropWhile inName).length ≤ rounds := by
            have hall := congrArg List.length hsplit
            rw [hword] at hall
            simp only [List.length_append, List.length_cons] at hall
            omega
          exact ⟨_, _, hsplit, fun c hc => List.mem_takeWhile_imp hc,
            (scan_eq_nil_iff hle).mp hafter⟩

/-- A text that is a plain word has this for its one token. -/
theorem IsWord.ofSource {word s : String} (hs : IsWord word s) (h : Plain word) :
    ofSource s = [.name word] := by
  obtain ⟨front, back, hs, hfront, hback⟩ := hs
  obtain ⟨first, more, hword, hfirst, hmore⟩ := h.name
  rw [hword] at hs
  have hgap : isGap first = false := isGap_eq_false_of_inName (inName_of_startsName hfirst)
  have hdrop : (front ++ first :: more ++ back).dropWhile isGap = first :: (more ++ back) := by
    rw [List.append_assoc, List.dropWhile_append_of_pos hfront, List.cons_append,
      List.dropWhile_cons, if_neg (by simp [hgap])]
  have hstop := span_inName_of_isGap hback
  have htoken : ofCharacter first (more ++ back) = (.name word, back) := by
    rw [ofCharacter_eq_name_iff h, List.takeWhile_append_of_pos hmore,
      List.dropWhile_append_of_pos hmore, hstop.1, hstop.2, List.append_nil, hword]
    exact ⟨rfl, rfl⟩
  obtain ⟨rounds, hrounds⟩ : ∃ n, (front ++ first :: more ++ back).length = n + 1 :=
    ⟨(front ++ more ++ back).length, by simp; omega⟩
  have hle : back.length ≤ rounds := by
    simp only [List.length_append, List.length_cons] at hrounds
    omega
  rw [Token.ofSource, ← String.length_toList, hs, hrounds, scan]
  simp only [hdrop, htoken, (scan_eq_nil_iff hle).mpr hback]

/-- **The one token of a text is a plain word exactly if the text is this word.** -/
theorem ofSource_eq_name_iff {word s : String} (h : Plain word) :
    ofSource s = [.name word] ↔ IsWord word s :=
  ⟨isWord_of_ofSource h, fun hs => hs.ofSource h⟩

end Structural.Publish.Token
