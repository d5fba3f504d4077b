import Mathlib.Data.List.DropRight
import Mathlib.Data.Nat.Digits.Defs
import Mathlib.Tactic.Ring
import Structural.Text.Blank
import Structural.Text.Numeral

/-!
# Trimmed words and numerals

What the readers of single words accept, said as a grammar.

* `Trimmed` -- **a word with blanks around it**: what is left has no blank at either end, so that
  there is only one (`trimBlanks_eq_iff`);
* `decimal` -- the number that some digits write in base ten;
* `Numeral` -- **a text that writes a number**: one or more ASCII digits, a plus sign in front of
  them or not;
* `readDigits_eq_ok_iff` -- digits are read onto a value one by one, and none of the values on the
  way is larger than the last, so that the range is left exactly if the number is too large;
* `readInt_size_eq_ok_iff` -- **a size is read from the numerals of numbers below 2^64**, and from
  no other text.
-/

namespace Structural.Text

/-! ## 1. Blanks at both ends -/

/-- **A word with blanks around it.** The word itself neither begins nor ends with a blank. -/
structure Trimmed (value word : List Char) : Prop where
  split : ∃ front back, value = front ++ (word ++ back) ∧ (∀ c ∈ front, isBlank c = true) ∧
    ∀ c ∈ back, isBlank c = true
  first : ∀ c, word.head? = some c → isBlank c = false
  last : ∀ c, word.getLast? = some c → isBlank c = false

theorem trimBlanks_eq (cs : List Char) :
    trimBlanks cs = (cs.dropWhile isBlank).rdropWhile isBlank := rfl

/-- **Every text has its blanks around a word.** -/
theorem trimmed_trimBlanks (value : List Char) : Trimmed value (trimBlanks value) where
  split := by
    refine ⟨value.takeWhile isBlank, (value.dropWhile isBlank).rtakeWhile isBlank, ?_, ?_, ?_⟩
    · rw [trimBlanks_eq, List.rdropWhile_append_rtakeWhile, List.takeWhile_append_dropWhile]
    · exact fun c hc => List.mem_takeWhile_imp hc
    · exact fun c hc => List.mem_rtakeWhile_imp hc
  first c hc := by
    -- the word begins as what is left after the blanks in front
    have hhead : (value.dropWhile isBlank).head? = some c := by
      obtain ⟨rest, hrest⟩ := List.rdropWhile_prefix isBlank (value.dropWhile isBlank)
      rw [← hrest, ← trimBlanks_eq, List.head?_append, hc]
      rfl
    have hnot := List.head?_dropWhile_not isBlank value
    rw [hhead] at hnot
    exact hnot
  last c hc := by
    have hne : (value.dropWhile isBlank).rdropWhile isBlank ≠ [] := by
      intro hnil
      rw [trimBlanks_eq, hnil] at hc
      cases hc
    have hnot := List.rdropWhile_last_not isBlank _ hne
    rw [trimBlanks_eq, List.getLast?_eq_some_getLast hne] at hc
    cases hc
    simpa using hnot

/-- **There is only one such word.** -/
theorem Trimmed.trimBlanks_eq {value word : List Char} (h : Trimmed value word) :
    trimBlanks value = word := by
  obtain ⟨front, back, rfl, hfront, hback⟩ := h.split
  rw [Text.trimBlanks_eq, List.dropWhile_append_of_pos hfront]
  cases word with
  | nil =>
      rw [List.nil_append, List.dropWhile_eq_nil_iff.mpr hback, List.rdropWhile_nil]
  | cons c rest =>
      have hkeep : (c :: rest ++ back).dropWhile isBlank = c :: rest ++ back := by
        have hc : isBlank c = false := h.first c rfl
        simp [hc]
      have hdrop : (c :: rest ++ back).rdropWhile isBlank = (c :: rest).rdropWhile isBlank := by
        unfold List.rdropWhile
        rw [List.reverse_append, List.dropWhile_append_of_pos]
        exact fun x hx => hback x (List.mem_reverse.mp hx)
      rw [hkeep, hdrop, List.rdropWhile_eq_self_iff]
      intro hne
      have hlast := h.last _ (List.getLast?_eq_some_getLast hne)
      simp [hlast]

theorem trimBlanks_eq_iff {value word : List Char} :
    trimBlanks value = word ↔ Trimmed value word := by
  constructor
  · rintro rfl
    exact trimmed_trimBlanks value
  · exact Trimmed.trimBlanks_eq

/-! ## 2. Numerals -/

/-- **The number that digits write** in base ten. -/
def decimal (digits : List Char) : Nat :=
  Nat.ofDigits 10 (digits.map fun c => c.toNat - '0'.toNat).reverse

@[simp] theorem decimal_nil : decimal [] = 0 := rfl

theorem decimal_cons (c : Char) (rest : List Char) :
    decimal (c :: rest) = (c.toNat - '0'.toNat) * 10 ^ rest.length + decimal rest := by
  unfold decimal
  rw [List.map_cons, List.reverse_cons, Nat.ofDigits_append, Nat.ofDigits_singleton,
    List.length_reverse, List.length_map]
  ring

/-- **A text that writes a number.** -/
inductive Numeral : List Char → Nat → Prop where
  | bare (digits : List Char) (hne : digits ≠ []) (hdigits : ∀ c ∈ digits, c.isDigit = true) :
      Numeral digits (decimal digits)
  | signed (digits : List Char) (hne : digits ≠ []) (hdigits : ∀ c ∈ digits, c.isDigit = true) :
      Numeral ('+' :: digits) (decimal digits)

theorem digit?_eq_some_iff {c : Char} {d : Nat} :
    digit? c = some d ↔ c.isDigit = true ∧ d = c.toNat - '0'.toNat := by
  have hrange : ('0' ≤ c ∧ c ≤ '9') ↔ c.isDigit = true := by
    rw [Char.isDigit_iff_toNat]
    rfl
  unfold digit?
  rw [← hrange]
  by_cases h : '0' ≤ c ∧ c ≤ '9'
  · simp [h, eq_comm]
  · simp [h]

/-! ## 3. Digits read -/

/-- **Digits read onto a value**, in a range that goes down to zero: the value is shifted past them,
    and the reader gets through exactly if the last value is in the range. -/
theorem readDigits_eq_ok_iff {range : IntRange} (hlo : range.lo ≤ 0) {z : Int} :
    ∀ (digits : List Char) (value : Int), 0 ≤ value → value ≤ range.hi →
      (readDigits range false value digits = .ok z ↔ (∀ c ∈ digits, c.isDigit = true) ∧
        z = value * 10 ^ digits.length + decimal digits ∧ z ≤ range.hi)
  | [], value, _, hhi => by
      simp only [readDigits, Except.ok.injEq, List.length_nil, pow_zero, mul_one, decimal_nil,
        Nat.cast_zero, add_zero]
      constructor
      · rintro rfl
        exact ⟨fun c hc => absurd hc List.not_mem_nil, rfl, hhi⟩
      · rintro ⟨_, rfl, _⟩
        rfl
  | c :: rest, value, hvalue, hhi => by
      unfold readDigits
      cases hdigit : digit? c with
      | none =>
          have hc : ¬ c.isDigit = true := by
            intro hc
            rw [digit?_eq_some_iff.mpr ⟨hc, rfl⟩] at hdigit
            cases hdigit
          simp [hc]
      | some d =>
          obtain ⟨hc, rfl⟩ := digit?_eq_some_iff.mp hdigit
          -- the value with one more digit, and what the remaining digits make of it
          have hnext : 0 ≤ value * 10 + (c.toNat - '0'.toNat : Nat) := by omega
          have hshift : value * 10 ^ (rest.length + 1) + (decimal (c :: rest) : Int) =
              (value * 10 + (c.toNat - '0'.toNat : Nat)) * 10 ^ rest.length + decimal rest := by
            rw [decimal_cons]
            push_cast
            ring
          have hall : (∀ x ∈ c :: rest, x.isDigit = true) ↔ ∀ x ∈ rest, x.isDigit = true := by
            simp [hc]
          simp only [Bool.false_eq_true, if_false, List.length_cons]
          rw [hshift, hall]
          generalize value * 10 + ((c.toNat - '0'.toNat : Nat) : Int) = next at hnext ⊢
          by_cases hlarge : range.hi < next
          · -- the values only grow, so the last one is too large as well
            have hgrow : next ≤ next * 10 ^ rest.length :=
              le_mul_of_one_le_right hnext (one_le_pow₀ (by decide))
            rw [if_pos hlarge]
            constructor
            · intro h
              cases h
            · rintro ⟨_, rfl, hle⟩
              omega
          · rw [if_neg hlarge, if_neg (by omega)]
            exact readDigits_eq_ok_iff hlo rest next hnext (by omega)

/-- Digits read as a size. -/
theorem readDigits_size_eq_ok_iff {digits : List Char} {z : Int} :
    readDigits .size false 0 digits = .ok z ↔
      (∀ c ∈ digits, c.isDigit = true) ∧ decimal digits < 2 ^ 64 ∧ z = decimal digits := by
  have hhi : IntRange.size.hi = 2 ^ 64 - 1 := by decide
  rw [readDigits_eq_ok_iff (by decide) digits 0 (by decide) (by decide), hhi, zero_mul, zero_add]
  constructor
  · rintro ⟨hdigits, rfl, hle⟩
    exact ⟨hdigits, by omega, rfl⟩
  · rintro ⟨hdigits, hlt, rfl⟩
    exact ⟨hdigits, rfl, by omega⟩

/-- Without a sign, the whole text is digits. -/
theorem readInt_of_digits (range : IntRange) {digits : List Char} (hne : digits ≠ [])
    (hdigits : ∀ c ∈ digits, c.isDigit = true) :
    readInt range digits = readDigits range false 0 digits := by
  obtain ⟨c, rest, rfl⟩ := List.exists_cons_of_ne_nil hne
  have hc : c.isDigit = true := hdigits c List.mem_cons_self
  -- a digit is no sign
  have hplus : c ≠ '+' := by
    rintro rfl
    exact absurd hc (by decide)
  have hminus : c ≠ '-' := by
    rintro rfl
    exact absurd hc (by decide)
  unfold readInt
  split
  · rename_i h
    cases h
  · rename_i h
    cases h
    exact absurd rfl hplus
  · rename_i h
    cases h
    exact absurd rfl hminus
  · rename_i h
    cases h
    exact absurd rfl hplus
  · rename_i h
    cases h
    exact absurd rfl hminus
  · rfl

/-- After a plus sign come the digits. -/
theorem readInt_plus (range : IntRange) {digits : List Char} (hne : digits ≠ []) :
    readInt range ('+' :: digits) = readDigits range false 0 digits := by
  obtain ⟨c, rest, rfl⟩ := List.exists_cons_of_ne_nil hne
  rfl

/-- **A size is read from the numerals of numbers below 2^64**, and from no other text. -/
theorem readInt_size_eq_ok_iff {cs : List Char} {z : Int} :
    readInt .size cs = .ok z ↔ ∃ n, Numeral cs n ∧ n < 2 ^ 64 ∧ z = n := by
  constructor
  · intro h
    unfold readInt at h
    split at h
    · cases h
    · cases h
    · cases h
    · rename_i rest hrest
      obtain ⟨hdigits, hlt, hz⟩ := readDigits_size_eq_ok_iff.mp h
      exact ⟨decimal rest, .signed rest hrest hdigits, hlt, hz⟩
    · -- there are no sizes below zero
      rw [if_neg (by decide)] at h
      cases h
    · rename_i hne _ _ _ _
      obtain ⟨hdigits, hlt, hz⟩ := readDigits_size_eq_ok_iff.mp h
      exact ⟨decimal cs, .bare cs hne hdigits, hlt, hz⟩
  · rintro ⟨n, hnumeral, hlt, rfl⟩
    cases hnumeral with
    | bare digits hne hdigits =>
        rw [readInt_of_digits .size hne hdigits]
        exact readDigits_size_eq_ok_iff.mpr ⟨hdigits, hlt, rfl⟩
    | signed digits hne hdigits =>
        rw [readInt_plus .size hne]
        exact readDigits_size_eq_ok_iff.mpr ⟨hdigits, hlt, rfl⟩

end Structural.Text
