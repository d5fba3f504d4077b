import Mathlib.Data.List.Infix
import Mathlib.Data.List.TakeWhile
import Structural.Text.ShortName

/-!
# What stands behind the last separator

A separator is two colons next to each other. The short form of a text is cut behind the last
separator of its head, and its head ends at the first `<`.

* `HasSeparator` -- **a text has a separator** somewhere;
* `lastSeparator?_eq_some_iff` -- the last separator is found where it stands: nothing behind its
  first colon is one, which settles three and more colons in a row;
* `head_append`, `head_append_tail` -- the head of a text and what is behind it;
* `shortChars_cases` -- **the text is its own short form, or it is a front without `<`, a separator
  and the short form**;
* `shortChars_append` -- the converse: such a front is cut off, whatever it is.
-/

namespace Structural.Text

/-! ## 1. Separators -/

/-- **A text has a separator.** -/
def HasSeparator (cs : List Char) : Prop :=
  [':', ':'] <:+: cs

instance (cs : List Char) : Decidable (HasSeparator cs) :=
  inferInstanceAs (Decidable ([':', ':'] <:+: cs))

theorem not_hasSeparator_nil : ¬ HasSeparator [] := by
  decide

/-- A separator begins at the first character, or it stands behind it. -/
theorem hasSeparator_cons {c : Char} {rest : List Char} :
    HasSeparator (c :: rest) ↔ (c = ':' ∧ rest.head? = some ':') ∨ HasSeparator rest := by
  have hfirst : [':', ':'] <+: c :: rest ↔ c = ':' ∧ rest.head? = some ':' := by
    cases rest with
    | nil => simp
    | cons d rest => simp [List.cons_prefix_cons, eq_comm]
  unfold HasSeparator
  rw [List.infix_cons_iff, hfirst]

/-- A text without colons has no separator. -/
theorem not_hasSeparator_of_not_mem {cs : List Char} (h : ':' ∉ cs) : ¬ HasSeparator cs := by
  intro hsep
  exact h (hsep.subset List.mem_cons_self)

theorem lastSeparator?_eq_none_iff {cs : List Char} :
    lastSeparator? cs = none ↔ ¬ HasSeparator cs := by
  induction cs with
  | nil => simp [lastSeparator?, not_hasSeparator_nil]
  | cons c rest ih =>
      rw [hasSeparator_cons, not_or, ← ih, lastSeparator?]
      cases lastSeparator? rest with
      | some n => simp
      | none =>
          by_cases hc : c = ':' ∧ rest.head? = some ':'
          · simp [hc]
          · simp [hc]

/-- The last separator is found, whatever is in front of it. -/
theorem lastSeparator?_append (m : List Char) {r : List Char} (h : ¬ HasSeparator (':' :: r)) :
    lastSeparator? (m ++ ':' :: ':' :: r) = some m.length := by
  induction m with
  | nil =>
      have hlast : lastSeparator? (':' :: r) = none := lastSeparator?_eq_none_iff.mpr h
      rw [List.nil_append, lastSeparator?, hlast]
      rfl
  | cons c m ih =>
      rw [List.cons_append, lastSeparator?, ih]
      rfl

/-- **The last separator is found where it stands.** -/
theorem lastSeparator?_eq_some_iff {cs : List Char} {n : Nat} :
    lastSeparator? cs = some n ↔
      ∃ m r, cs = m ++ ':' :: ':' :: r ∧ m.length = n ∧ ¬ HasSeparator (':' :: r) := by
  constructor
  · intro h
    induction cs generalizing n with
    | nil => cases h
    | cons c rest ih =>
        rw [lastSeparator?] at h
        cases hrest : lastSeparator? rest with
        | some k =>
            rw [hrest] at h
            cases h
            obtain ⟨m, r, hr, hk, hlast⟩ := ih hrest
            exact ⟨c :: m, r, by rw [hr, List.cons_append], by rw [List.length_cons, hk], hlast⟩
        | none =>
            simp only [hrest] at h
            split at h
            · rename_i hc
              obtain ⟨rfl, hcolon⟩ := hc
              cases h
              obtain ⟨r, rfl⟩ := List.head?_eq_some_iff.mp hcolon
              exact ⟨[], r, rfl, rfl, lastSeparator?_eq_none_iff.mp hrest⟩
            · cases h
  · intro h
    obtain ⟨m, r, rfl, rfl, hlast⟩ := h
    exact lastSeparator?_append m hlast

/-! ## 2. Heads -/

/-- The part of a text from its first `<` on. -/
def tail (cs : List Char) : List Char :=
  cs.dropWhile (· != '<')

theorem head_append_tail (cs : List Char) : head cs ++ tail cs = cs :=
  List.takeWhile_append_dropWhile

theorem not_mem_head (cs : List Char) : '<' ∉ head cs := by
  intro h
  have hne := List.mem_takeWhile_imp h
  simp at hne

theorem head_tail (cs : List Char) : head (tail cs) = [] := by
  induction cs with
  | nil => rfl
  | cons c rest ih =>
      unfold tail
      rw [List.dropWhile_cons]
      split
      · exact ih
      · rename_i hc
        unfold head
        rw [List.takeWhile_cons, if_neg hc]

/-- A front without `<` belongs to the head. -/
theorem head_append {m : List Char} (hm : '<' ∉ m) (cs : List Char) :
    head (m ++ cs) = m ++ head cs := by
  refine List.takeWhile_append_of_pos fun c hc => ?_
  have hne : c ≠ '<' := fun h => hm (h ▸ hc)
  simp [hne]

theorem tail_append {m : List Char} (hm : '<' ∉ m) (cs : List Char) :
    tail (m ++ cs) = tail cs := by
  refine List.dropWhile_append_of_pos fun c hc => ?_
  have hne : c ≠ '<' := fun h => hm (h ▸ hc)
  simp [hne]

/-! ## 3. The cut -/

/-- Behind the last separator of the head stands the short form. -/
theorem shortChars_of_head {cs m r : List Char} (h : head cs = m ++ ':' :: ':' :: r)
    (hr : ¬ HasSeparator (':' :: r)) : shortChars cs = r ++ tail cs := by
  have hlast : lastSeparator? (head cs) = some m.length := by
    rw [h]
    exact lastSeparator?_append m hr
  calc shortChars cs = (head cs ++ tail cs).drop (m.length + 2) := by
        rw [shortChars_of_some hlast, head_append_tail]
    _ = r ++ tail cs := by
        rw [h]
        simp

/-- **A text is its own short form, or a front is cut off it** that has no `<` in it and ends in the
    last separator of the head. -/
theorem shortChars_cases (cs : List Char) :
    (shortChars cs = cs ∧ ¬ HasSeparator (head cs)) ∨
      ∃ m, cs = m ++ ':' :: ':' :: shortChars cs ∧ '<' ∉ m ∧
        ¬ HasSeparator (':' :: head (shortChars cs)) := by
  cases hlast : lastSeparator? (head cs) with
  | none => exact Or.inl ⟨shortChars_of_none hlast, lastSeparator?_eq_none_iff.mp hlast⟩
  | some n =>
      obtain ⟨m, r, hhead, _, hr⟩ := lastSeparator?_eq_some_iff.mp hlast
      have hshort : shortChars cs = r ++ tail cs := shortChars_of_head hhead hr
      have hfree : '<' ∉ m ++ ':' :: ':' :: r := hhead ▸ not_mem_head cs
      have hm : '<' ∉ m := fun h => hfree (List.mem_append_left _ h)
      have hrfree : '<' ∉ r := by
        intro h
        exact hfree (List.mem_append_right m (List.mem_cons_of_mem _ (List.mem_cons_of_mem _ h)))
      refine Or.inr ⟨m, ?_, hm, ?_⟩
      · calc cs = head cs ++ tail cs := (head_append_tail cs).symm
          _ = m ++ ':' :: ':' :: shortChars cs := by
            rw [hhead, hshort]
            simp
      · rw [hshort, head_append hrfree, head_tail, List.append_nil]
        exact hr

/-- **A front without `<` is cut off together with the separator behind it**, if that separator is the
    last one of the head. -/
theorem shortChars_append {m r : List Char} (hm : '<' ∉ m)
    (hr : ¬ HasSeparator (':' :: head r)) : shortChars (m ++ ':' :: ':' :: r) = r := by
  have hcolons : '<' ∉ m ++ [':', ':'] := by
    simp [hm]
  have hhead : head (m ++ ':' :: ':' :: r) = m ++ ':' :: ':' :: head r := by
    simpa using head_append hcolons r
  have htail : tail (m ++ ':' :: ':' :: r) = tail r := by
    simpa using tail_append hcolons r
  rw [shortChars_of_head hhead hr, htail, head_append_tail]

/-- What begins with no colon gets no separator from a colon in front of it. -/
theorem not_hasSeparator_colon {cs : List Char} (hfirst : cs.head? ≠ some ':')
    (h : ¬ HasSeparator (head cs)) : ¬ HasSeparator (':' :: head cs) := by
  have hhead : (head cs).head? ≠ some ':' := by
    cases cs with
    | nil => exact hfirst
    | cons c rest =>
        unfold head
        rw [List.takeWhile_cons]
        split
        · exact hfirst
        · simp
  rw [hasSeparator_cons]
  intro hsep
  cases hsep with
  | inl hsep => exact hhead hsep.2
  | inr hsep => exact h hsep

/-- What the head of a short form looks like, cut or not. -/
theorem not_hasSeparator_shortChars (cs : List Char) : ¬ HasSeparator (head (shortChars cs)) := by
  rcases shortChars_cases cs with ⟨hshort, hnone⟩ | ⟨m, _, _, hr⟩
  · rw [hshort]
    exact hnone
  · intro hsep
    exact hr (hasSeparator_cons.mpr (Or.inr hsep))

/-- **A short form is cut only once.** -/
theorem shortChars_shortChars (cs : List Char) : shortChars (shortChars cs) = shortChars cs :=
  shortChars_of_none (lastSeparator?_eq_none_iff.mpr (not_hasSeparator_shortChars cs))

/-- **What is behind the head is never cut.** -/
theorem tail_shortChars (cs : List Char) : tail (shortChars cs) = tail cs := by
  rcases shortChars_cases cs with ⟨hshort, _⟩ | ⟨m, hcs, hm, _⟩
  · rw [hshort]
  · have hcolons : '<' ∉ m ++ [':', ':'] := by
      simp [hm]
    calc tail (shortChars cs) = tail (m ++ [':', ':'] ++ shortChars cs) :=
          (tail_append hcolons _).symm
      _ = tail cs := by rw [List.append_assoc, List.cons_append, List.singleton_append, ← hcs]

theorem tail_suffix (cs : List Char) : tail cs <:+ cs :=
  List.dropWhile_suffix _

end Structural.Text
