import Mathlib.Logic.Function.Basic
import Structural.Config.Environment
import Structural.Proofs.Text.Numeral

/-!
# What variables do to a configuration

* `CachePolicy.Written`, `Ambiguity.Written` -- **how the policies are written** in a variable, blanks
  around them apart, and `ofText?_eq_some_iff` for each: nothing else is read;
* `Decides` -- **what one variable makes of one field**: the policy that it names, or what was there;
* `override_eq` -- the two fields of a configuration after both variables;
* `override_exact` -- the main result: each variable decides its own field, by its own value alone,
  and once applied the variables have nothing left to change.
-/

namespace Structural

open Text (Trimmed Numeral decimal trimBlanks)

/-! ## 1. Cache policies -/

/-- **How a cache policy is written.** The number of adapter types kept has 64 bits. -/
inductive CachePolicy.Written : CachePolicy → List Char → Prop where
  | off : Written .disabled "off".toList
  | disabled : Written .disabled "disabled".toList
  | none : Written .disabled "none".toList
  | capacity {word : List Char} {n : Nat} (h : Numeral word n) (hn : n < 2 ^ 64) :
      Written (.lru n) word

/-- The words for a registry that keeps none. -/
def offWords : List (List Char) :=
  ["off".toList, "disabled".toList, "none".toList]

/-- How a numeral begins. -/
def startsNumeral (c : Char) : Bool :=
  c == '+' || c.isDigit

theorem Text.Numeral.head {word : List Char} {n : Nat} (h : Numeral word n) :
    word.head?.any startsNumeral = true := by
  cases h with
  | bare _ hne hdigits =>
      obtain ⟨c, rest, rfl⟩ := List.exists_cons_of_ne_nil hne
      have hc : c.isDigit = true := hdigits c List.mem_cons_self
      simp [startsNumeral, hc]
  | signed => rfl

/-- None of the words is a numeral. -/
theorem Text.Numeral.not_offWord {word : List Char} {n : Nat} (h : Numeral word n) :
    word ∉ offWords := by
  have hwords : ∀ w ∈ offWords, w.head?.any startsNumeral = false := by decide
  intro hmem
  have hhead := h.head
  rw [hwords word hmem] at hhead
  cases hhead

theorem CachePolicy.written_offWord {word : List Char} (h : word ∈ offWords) :
    CachePolicy.Written .disabled word := by
  simp only [offWords, List.mem_cons, List.not_mem_nil, or_false] at h
  rcases h with rfl | rfl | rfl
  · exact .off
  · exact .disabled
  · exact .none

/-- A policy is written by one of the words, or it is a number of adapter types. -/
theorem CachePolicy.Written.cases_word {policy : CachePolicy} {word : List Char}
    (h : policy.Written word) : (word ∈ offWords ∧ policy = .disabled) ∨
      ∃ n, Numeral word n ∧ n < 2 ^ 64 ∧ policy = .lru n := by
  cases h with
  | off => exact Or.inl ⟨by decide, rfl⟩
  | disabled => exact Or.inl ⟨by decide, rfl⟩
  | none => exact Or.inl ⟨by decide, rfl⟩
  | capacity h hn => exact Or.inr ⟨_, h, hn, rfl⟩

/-- **The cache policies that are read are those written.** -/
theorem CachePolicy.ofText?_eq_some_iff {value : String} {policy : CachePolicy} :
    CachePolicy.ofText? value = some policy ↔ policy.Written (trimBlanks value.toList) := by
  unfold CachePolicy.ofText?
  generalize trimBlanks value.toList = word
  show (if word ∈ offWords then _ else _) = some policy ↔ _
  by_cases hword : word ∈ offWords
  · rw [if_pos hword]
    constructor
    · intro h
      cases h
      exact CachePolicy.written_offWord hword
    · intro h
      rcases h.cases_word with ⟨_, rfl⟩ | ⟨n, hnumeral, _, _⟩
      · rfl
      · exact absurd hword hnumeral.not_offWord
  · rw [if_neg hword]
    cases hread : Text.readInt .size word with
    | ok z =>
        obtain ⟨n, hnumeral, hn, rfl⟩ := Text.readInt_size_eq_ok_iff.mp hread
        constructor
        · intro h
          cases h
          exact .capacity hnumeral hn
        · intro h
          rcases h.cases_word with ⟨hmem, _⟩ | ⟨m, hnumeral', hm, rfl⟩
          · exact absurd hmem hword
          · have hsame := Text.readInt_size_eq_ok_iff.mpr ⟨m, hnumeral', hm, rfl⟩
            rw [hread] at hsame
            cases hsame
            rfl
    | error e =>
        constructor
        · intro h
          cases h
        · intro h
          rcases h.cases_word with ⟨hmem, _⟩ | ⟨m, hnumeral, hm, _⟩
          · exact absurd hmem hword
          · have hok := Text.readInt_size_eq_ok_iff.mpr ⟨m, hnumeral, hm, rfl⟩
            rw [hread] at hok
            cases hok

example : CachePolicy.ofText? "\t +0016 " = some (.lru 16) := by decide

/-- **What is not written**: nothing, a sign alone, or anything after a minus sign. -/
theorem CachePolicy.Written.sensible {policy : CachePolicy} {word : List Char}
    (h : policy.Written word) : word ≠ [] ∧ word ≠ ['+'] ∧ word.head? ≠ some '-' := by
  rcases h.cases_word with ⟨hmem, _⟩ | ⟨n, hnumeral, _⟩
  · have hwords : ∀ w ∈ offWords, w ≠ [] ∧ w ≠ ['+'] ∧ w.head? ≠ some '-' := by decide
    exact hwords word hmem
  · have hhead := hnumeral.head
    refine ⟨?_, ?_, ?_⟩
    · rintro rfl
      cases hhead
    · rintro rfl
      cases hnumeral with
      | bare _ _ hdigits => exact absurd (hdigits '+' List.mem_cons_self) (by decide)
      | signed _ hne => exact hne rfl
    · intro hminus
      rw [hminus] at hhead
      exact absurd hhead (by decide)

/-- Digits write only the number that they stand for, after a plus sign too. -/
theorem Text.Numeral.eq_decimal {digits : List Char} {n : Nat}
    (hdigits : ∀ c ∈ digits, c.isDigit = true)
    (h : Numeral digits n ∨ Numeral ('+' :: digits) n) : n = decimal digits := by
  rcases h with h | h
  · cases h with
    | bare => rfl
    | signed rest => exact absurd (hdigits '+' List.mem_cons_self) (by decide)
  · cases h with
    | bare _ _ hall => exact absurd (hall '+' List.mem_cons_self) (by decide)
    | signed => rfl

/-- **A number of more than 64 bits is not written either**, whatever zeros it begins with. -/
theorem CachePolicy.not_written_of_large {digits : List Char}
    (hdigits : ∀ c ∈ digits, c.isDigit = true) (hlarge : 2 ^ 64 ≤ decimal digits)
    (policy : CachePolicy) : ¬ policy.Written digits ∧ ¬ policy.Written ('+' :: digits) := by
  have hwords : ∀ w ∈ offWords, w.all Char.isDigit = false ∧ w.head? ≠ some '+' := by decide
  constructor
  · intro h
    rcases h.cases_word with ⟨hmem, _⟩ | ⟨n, hnumeral, hn, _⟩
    · have hnone := (hwords digits hmem).1
      rw [List.all_eq_true.mpr hdigits] at hnone
      cases hnone
    · have hvalue := Text.Numeral.eq_decimal hdigits (Or.inl hnumeral)
      omega
  · intro h
    rcases h.cases_word with ⟨hmem, _⟩ | ⟨n, hnumeral, hn, _⟩
    · exact (hwords _ hmem).2 rfl
    · have hvalue := Text.Numeral.eq_decimal hdigits (Or.inr hnumeral)
      omega

/-! ## 2. Ambiguity policies -/

/-- **How an ambiguity policy is written.** -/
inductive Ambiguity.Written : Ambiguity → List Char → Prop where
  | first : Written .firstMatch "first".toList
  | firstMatch : Written .firstMatch "first_match".toList
  | reject : Written .reject "reject".toList

/-- **The ambiguity policies that are read are those written.** -/
theorem Ambiguity.ofText?_eq_some_iff {value : String} {policy : Ambiguity} :
    Ambiguity.ofText? value = some policy ↔ policy.Written (trimBlanks value.toList) := by
  unfold Ambiguity.ofText?
  generalize trimBlanks value.toList = word
  dsimp only
  constructor
  · intro h
    split at h
    · rename_i hfirst
      cases h
      simp only [List.mem_cons, List.not_mem_nil, or_false] at hfirst
      rcases hfirst with rfl | rfl
      · exact .first
      · exact .firstMatch
    · split at h
      · rename_i hreject
        cases h
        rw [hreject]
        exact .reject
      · cases h
  · intro h
    cases h with
    | first => decide
    | firstMatch => decide
    | reject => decide

/-! ## 3. One variable and its field -/

/-- **What one variable makes of one field**, where policies are written in one way: the policy that
    its value names, blanks around it apart. A variable that is not set, or whose value names none,
    leaves what was there. -/
structure Decides {α : Type} (written : α → List Char → Prop) (setting : Option String)
    (base result : α) : Prop where
  unset : setting = none → result = base
  named : ∀ value word policy, setting = some value → Trimmed value.toList word →
    written policy word → result = policy
  ignored : ∀ value, setting = some value →
    (∀ word policy, Trimmed value.toList word → ¬ written policy word) → result = base

/-- A reader that reads the policies written decides a field. -/
theorem decides_of_reader {α : Type} {written : α → List Char → Prop} {reader : String → Option α}
    (h : ∀ {value policy}, reader value = some policy ↔ written policy (trimBlanks value.toList))
    (setting : Option String) (base : α) :
    Decides written setting base ((setting.bind reader).getD base) where
  unset := by
    rintro rfl
    rfl
  named := by
    rintro value word policy rfl htrimmed hwritten
    rw [← htrimmed.trimBlanks_eq] at hwritten
    rw [Option.bind_some, h.mpr hwritten, Option.getD_some]
  ignored := by
    rintro value rfl hnone
    rw [Option.bind_some]
    cases hread : reader value with
    | none => rfl
    | some policy => exact absurd (h.mp hread) (hnone _ policy (Text.trimmed_trimBlanks _))

/-! ## 4. Both variables -/

theorem Config.overrideCache_eq (c : Config) (value : Option String) :
    (c.overrideCache value).1 =
      ⟨(value.bind CachePolicy.ofText?).getD c.cache, c.ambiguity⟩ := by
  unfold Config.overrideCache
  cases value with
  | none => rfl
  | some value =>
      cases hread : CachePolicy.ofText? value with
      | none => simp [hread]
      | some policy => simp [hread]

theorem Config.overrideAmbiguity_eq (c : Config) (value : Option String) :
    (c.overrideAmbiguity value).1 =
      ⟨c.cache, (value.bind Ambiguity.ofText?).getD c.ambiguity⟩ := by
  unfold Config.overrideAmbiguity
  cases value with
  | none => rfl
  | some value =>
      cases hread : Ambiguity.ofText? value with
      | none => simp [hread]
      | some policy => simp [hread]

/-- **The two fields after both variables.** -/
theorem Config.override_eq (c : Config) (valueOf : String → Option String) :
    (c.override valueOf).1 =
      ⟨((valueOf cacheVariable).bind CachePolicy.ofText?).getD c.cache,
        ((valueOf ambiguityVariable).bind Ambiguity.ofText?).getD c.ambiguity⟩ := by
  show ((c.overrideCache (valueOf cacheVariable)).1.overrideAmbiguity
    (valueOf ambiguityVariable)).1 = _
  rw [overrideAmbiguity_eq, overrideCache_eq]

/-- The values ignored do not depend on the configuration. -/
theorem Config.override_ignored (c c' : Config) (valueOf : String → Option String) :
    (c.override valueOf).2 = (c'.override valueOf).2 := by
  have hcache : (c.overrideCache (valueOf cacheVariable)).2 =
      (c'.overrideCache (valueOf cacheVariable)).2 := by
    unfold Config.overrideCache
    split
    · rfl
    · split <;> rfl
  have hambiguity : ∀ d d' : Config, (d.overrideAmbiguity (valueOf ambiguityVariable)).2 =
      (d'.overrideAmbiguity (valueOf ambiguityVariable)).2 := by
    intro d d'
    unfold Config.overrideAmbiguity
    split
    · rfl
    · split <;> rfl
  show (c.overrideCache (valueOf cacheVariable)).2 ++
      ((c.overrideCache (valueOf cacheVariable)).1.overrideAmbiguity
        (valueOf ambiguityVariable)).2 =
    (c'.overrideCache (valueOf cacheVariable)).2 ++
      ((c'.overrideCache (valueOf cacheVariable)).1.overrideAmbiguity
        (valueOf ambiguityVariable)).2
  rw [hcache, hambiguity]

/-- A field that a variable decided stays as it is when the variable is applied again. -/
theorem getD_getD {α : Type} (o : Option α) (a : α) : o.getD (o.getD a) = o.getD a := by
  cases o <;> rfl

/-- **Each variable decides its own field**, by its own value alone: the other variable and the other
    field may be anything. Applied once more, the variables change nothing, and the same values are
    ignored. -/
theorem Config.override_exact (base : Config) (valueOf : String → Option String) :
    Decides CachePolicy.Written (valueOf cacheVariable) base.cache
        (base.override valueOf).1.cache ∧
      Decides Ambiguity.Written (valueOf ambiguityVariable) base.ambiguity
        (base.override valueOf).1.ambiguity ∧
      (∀ ambiguity value, (Config.override ⟨base.cache, ambiguity⟩
          (Function.update valueOf ambiguityVariable value)).1.cache =
        (base.override valueOf).1.cache) ∧
      (∀ cache value, (Config.override ⟨cache, base.ambiguity⟩
          (Function.update valueOf cacheVariable value)).1.ambiguity =
        (base.override valueOf).1.ambiguity) ∧
      (base.override valueOf).1.override valueOf = base.override valueOf := by
  have hnames : cacheVariable ≠ ambiguityVariable := by decide
  rw [override_eq]
  refine ⟨decides_of_reader CachePolicy.ofText?_eq_some_iff _ _,
    decides_of_reader Ambiguity.ofText?_eq_some_iff _ _, fun ambiguity value => ?_,
    fun cache value => ?_, Prod.ext ?_ (override_ignored _ _ _)⟩
  · rw [override_eq, Function.update_of_ne hnames]
  · rw [override_eq, Function.update_of_ne hnames.symm]
  · rw [override_eq, override_eq, getD_getD, getD_getD]

end Structural
