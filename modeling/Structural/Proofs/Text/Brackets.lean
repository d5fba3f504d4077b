import Structural.Text.Outline

/-!
# Balanced brackets

A text is read from the left with the brackets that stand open, the innermost first.

* `brackets` -- **the brackets of a text**: round, square and angle ones. The `>` of an arrow `->` is
  none of them;
* `nest` -- what stands open behind some brackets, if each that closes one closes the innermost;
* `Balanced` -- **nothing stands open at the end**, as nothing did at the start;
* `nest_onto` -- brackets leave alone what stood open below those they close;
* `net` -- how many more brackets are opened than closed;
* `Closing` -- **a text that opens none for good**: it closes at least as many brackets as it opens,
  and it is balanced if these are as many;
* `HingesOn` -- **what the balance of such a text hinges on**: of texts put together, on that of every
  one of them (`HingesOn.append`, `HingesOn.round`, `HingesOn.commas`).
-/

namespace Structural.Text

/-! ## 1. Brackets -/

/-- The kinds of brackets. -/
inductive BracketKind where
  | round
  | square
  | angle
deriving DecidableEq, Repr

/-- A bracket that opens or closes. -/
structure Bracket where
  kind : BracketKind
  opens : Bool
deriving DecidableEq, Repr

/-- The bracket that a character is. -/
def bracket? : Char → Option Bracket
  | '(' => some ⟨.round, true⟩
  | ')' => some ⟨.round, false⟩
  | '[' => some ⟨.square, true⟩
  | ']' => some ⟨.square, false⟩
  | '<' => some ⟨.angle, true⟩
  | '>' => some ⟨.angle, false⟩
  | _ => none

/-- The brackets of a text behind a character. -/
def bracketsAfter (before : Char) : List Char → List Bracket
  | [] => []
  | c :: rest =>
    (if before = '-' ∧ c = '>' then [] else (bracket? c).toList) ++ bracketsAfter c rest

/-- **The brackets of a text**, in order. An arrow is none. -/
def brackets (cs : List Char) : List Bracket :=
  bracketsAfter ' ' cs

/-- Two texts put together make no arrow that neither of them has. -/
def Joins (cs ds : List Char) : Prop :=
  cs.getLast? ≠ some '-' ∨ ds.head? ≠ some '>'

instance (cs ds : List Char) : Decidable (Joins cs ds) :=
  inferInstanceAs (Decidable (_ ∨ _))

@[simp] theorem brackets_nil : brackets [] = [] := rfl

theorem bracketsAfter_append (before : Char) (cs ds : List Char) :
    bracketsAfter before (cs ++ ds) =
      bracketsAfter before cs ++ bracketsAfter (cs.getLast?.getD before) ds := by
  induction cs generalizing before with
  | nil => rfl
  | cons c rest ih =>
      rw [List.cons_append, bracketsAfter, bracketsAfter, ih c, List.append_assoc,
        List.getLast?_cons, Option.getD_some]

/-- What stands in front of a text matters for an arrow only. -/
theorem bracketsAfter_eq {before : Char} {cs : List Char}
    (h : before ≠ '-' ∨ cs.head? ≠ some '>') : bracketsAfter before cs = brackets cs := by
  cases cs with
  | nil => rfl
  | cons c rest =>
      have hnone : ¬ (before = '-' ∧ c = '>') := by
        intro harrow
        cases h with
        | inl h => exact h harrow.1
        | inr h => exact h (congrArg some harrow.2)
      have hblank : ¬ (' ' = '-' ∧ c = '>') := fun harrow => absurd harrow.1 (by decide)
      rw [brackets, bracketsAfter, bracketsAfter, if_neg hnone, if_neg hblank]

/-- A text of other characters has no brackets. -/
theorem brackets_of_plain {cs : List Char} (h : ∀ c ∈ cs, bracket? c = none) :
    brackets cs = [] := by
  suffices hafter : ∀ before, bracketsAfter before cs = [] from hafter ' '
  induction cs with
  | nil => exact fun _ => rfl
  | cons c rest ih =>
      intro before
      have hrest := ih fun x hx => h x (List.mem_cons_of_mem c hx)
      rw [bracketsAfter, h c List.mem_cons_self, hrest c]
      simp

/-- **The brackets of two texts put together.** -/
theorem brackets_append {cs ds : List Char} (h : Joins cs ds) :
    brackets (cs ++ ds) = brackets cs ++ brackets ds := by
  have hlast : cs.getLast?.getD ' ' ≠ '-' ∨ ds.head? ≠ some '>' := by
    cases h with
    | inr h => exact Or.inr h
    | inl h =>
        refine Or.inl fun hdash => ?_
        cases hc : cs.getLast? with
        | none =>
            rw [hc] at hdash
            exact absurd hdash (by decide)
        | some c =>
            rw [hc, Option.getD_some] at hdash
            exact h (hdash ▸ hc)
  unfold brackets
  rw [bracketsAfter_append]
  exact congrArg (bracketsAfter ' ' cs ++ ·) (bracketsAfter_eq hlast)

/-! ## 2. Nesting -/

/-- What stands open after one more bracket. One that closes has to close the innermost. -/
def Bracket.read (standing : List BracketKind) (b : Bracket) : Option (List BracketKind) :=
  if b.opens then some (b.kind :: standing)
  else
    match standing with
    | [] => none
    | innermost :: outer => if innermost = b.kind then some outer else none

/-- **What stands open after some brackets**, if they match. -/
def nest (standing : List BracketKind) (bs : List Bracket) : Option (List BracketKind) :=
  bs.foldlM Bracket.read standing

@[simp] theorem nest_nil (standing : List BracketKind) : nest standing [] = some standing := rfl

theorem nest_cons (standing : List BracketKind) (b : Bracket) (bs : List Bracket) :
    nest standing (b :: bs) = (b.read standing).bind (nest · bs) := rfl

theorem nest_append (standing : List BracketKind) (bs bs' : List Bracket) :
    nest standing (bs ++ bs') = (nest standing bs).bind (nest · bs') :=
  List.foldlM_append

/-- A bracket leaves alone what stands open below. -/
theorem Bracket.read_onto {b : Bracket} {standing after : List BracketKind}
    (h : b.read standing = some after) (below : List BracketKind) :
    b.read (standing ++ below) = some (after ++ below) := by
  unfold Bracket.read at h ⊢
  by_cases hopens : b.opens = true
  · rw [if_pos hopens] at h ⊢
    cases h
    rfl
  · rw [if_neg hopens] at h ⊢
    cases standing with
    | nil => cases h
    | cons innermost outer =>
        simp only [List.cons_append] at h ⊢
        split at h
        · rename_i hkind
          cases h
          rw [if_pos hkind]
        · cases h

/-- **Brackets leave alone what stands open below** those that they close. -/
theorem nest_onto {bs : List Bracket} {standing after : List BracketKind}
    (h : nest standing bs = some after) (below : List BracketKind) :
    nest (standing ++ below) bs = some (after ++ below) := by
  induction bs generalizing standing with
  | nil =>
      cases h
      rfl
  | cons b bs ih =>
      rw [nest_cons] at h ⊢
      obtain ⟨next, hread, hrest⟩ := Option.bind_eq_some_iff.mp h
      rw [Bracket.read_onto hread below]
      exact ih hrest

/-- **A text is balanced**: it closes what it opens, and nothing else. -/
def Balanced (cs : List Char) : Prop :=
  nest [] (brackets cs) = some []

instance (cs : List Char) : Decidable (Balanced cs) :=
  inferInstanceAs (Decidable (_ = _))

/-! ## 3. More opened than closed -/

/-- One more for a bracket that opens, one less for one that closes. -/
def Bracket.weight (b : Bracket) : Int :=
  if b.opens then 1 else -1

/-- **How many more brackets are opened than closed.** -/
def net : List Bracket → Int
  | [] => 0
  | b :: bs => b.weight + net bs

@[simp] theorem net_nil : net [] = 0 := rfl

@[simp] theorem net_cons (b : Bracket) (bs : List Bracket) : net (b :: bs) = b.weight + net bs :=
  rfl

@[simp] theorem net_append (bs bs' : List Bracket) : net (bs ++ bs') = net bs + net bs' := by
  induction bs with
  | nil => simp
  | cons b bs ih =>
      rw [List.cons_append, net_cons, net_cons, ih]
      omega

theorem Bracket.length_read {b : Bracket} {standing after : List BracketKind}
    (h : b.read standing = some after) : (after.length : Int) = standing.length + b.weight := by
  unfold Bracket.read at h
  unfold Bracket.weight
  by_cases hopens : b.opens = true
  · rw [if_pos hopens] at h ⊢
    cases h
    simp
  · rw [if_neg hopens] at h ⊢
    cases standing with
    | nil => cases h
    | cons innermost outer =>
        simp only at h
        split at h
        · cases h
          rw [List.length_cons]
          omega
        · cases h

/-- **The brackets that stand open are counted.** -/
theorem length_nest {bs : List Bracket} {standing after : List BracketKind}
    (h : nest standing bs = some after) : (after.length : Int) = standing.length + net bs := by
  induction bs generalizing standing with
  | nil =>
      cases h
      simp
  | cons b bs ih =>
      rw [nest_cons] at h
      obtain ⟨next, hread, hrest⟩ := Option.bind_eq_some_iff.mp h
      have hfirst := Bracket.length_read hread
      have hlater := ih hrest
      rw [net_cons]
      omega

theorem Balanced.net_eq {cs : List Char} (h : Balanced cs) : net (brackets cs) = 0 := by
  have hlength := length_nest h
  simp only [List.length_nil] at hlength
  omega

/-- Balanced texts one after the other. -/
theorem Balanced.append {cs ds : List Char} (hjoins : Joins cs ds) (hcs : Balanced cs)
    (hds : Balanced ds) : Balanced (cs ++ ds) := by
  unfold Balanced
  rw [brackets_append hjoins, nest_append, hcs]
  exact hds

/-! ## 4. Texts that open no bracket for good -/

/-- **A text opens no bracket for good.** -/
structure Closing (cs : List Char) : Prop where
  le : net (brackets cs) ≤ 0
  even : net (brackets cs) = 0 → Balanced cs

/-- A text that closes what stood open, and leaves nothing open, opens none for good. -/
theorem closing_of_nest {cs : List Char} {standing : List BracketKind}
    (h : nest standing (brackets cs) = some []) : Closing cs := by
  have hlength := length_nest h
  simp only [List.length_nil] at hlength
  constructor
  · omega
  · intro heven
    have hnil : standing = [] := by
      apply List.eq_nil_of_length_eq_zero
      omega
    rw [hnil] at h
    exact h

/-- **What closes brackets that stood open is balanced exactly if there were none.** -/
theorem balanced_iff_of_nest {cs : List Char} {standing : List BracketKind}
    (h : nest standing (brackets cs) = some []) : Balanced cs ↔ standing = [] := by
  have hlength := length_nest h
  simp only [List.length_nil] at hlength
  constructor
  · intro hbalanced
    have hnet := hbalanced.net_eq
    apply List.eq_nil_of_length_eq_zero
    omega
  · intro hnil
    rw [hnil] at h
    exact h

theorem Closing.append {cs ds : List Char} (hjoins : Joins cs ds) (hcs : Closing cs)
    (hds : Closing ds) : Closing (cs ++ ds) := by
  have hnet : net (brackets (cs ++ ds)) = net (brackets cs) + net (brackets ds) := by
    rw [brackets_append hjoins, net_append]
  have hle := hcs.le
  have hle' := hds.le
  constructor
  · omega
  · intro heven
    exact (hcs.even (by omega)).append hjoins (hds.even (by omega))

/-! ## 5. Texts put together -/

/-- **Whether a text is balanced hinges on a condition**; it opens no bracket for good anyway. -/
structure HingesOn (cs : List Char) (P : Prop) : Prop extends Closing cs where
  iff : Balanced cs ↔ P

/-- A balanced text hinges on nothing. -/
theorem Balanced.hinges {cs : List Char} (h : Balanced cs) : HingesOn cs True where
  le := Int.le_of_eq h.net_eq
  even _ := h
  iff := iff_of_true h trivial

theorem Closing.hinges {cs : List Char} (h : Closing cs) : HingesOn cs (Balanced cs) :=
  ⟨h, Iff.rfl⟩

namespace HingesOn

variable {cs ds : List Char} {P Q : Prop}

theorem congr (h : HingesOn cs P) (hiff : P ↔ Q) : HingesOn cs Q :=
  ⟨h.toClosing, h.iff.trans hiff⟩

/-- **Two texts, one after the other.** Brackets that one closes are not opened by the other. -/
theorem append (hjoins : Joins cs ds) (hcs : HingesOn cs P) (hds : HingesOn ds Q) :
    HingesOn (cs ++ ds) (P ∧ Q) := by
  refine ⟨hcs.toClosing.append hjoins hds.toClosing, ?_⟩
  rw [← hcs.iff, ← hds.iff]
  constructor
  · intro h
    have hnet := h.net_eq
    rw [brackets_append hjoins, net_append] at hnet
    have hle := hcs.le
    have hle' := hds.le
    exact ⟨hcs.even (by omega), hds.even (by omega)⟩
  · intro h
    exact h.1.append hjoins h.2

/-- **A text between round brackets.** -/
theorem round (h : HingesOn cs P) : HingesOn ('(' :: (cs ++ [')'])) P := by
  have hopen : Joins ['('] (cs ++ [')']) := Or.inl (by decide)
  have hclose : Joins cs [')'] := Or.inr (by decide)
  have hbrackets : brackets ('(' :: (cs ++ [')'])) =
      ⟨.round, true⟩ :: (brackets cs ++ [⟨.round, false⟩]) := by
    have hfirst := brackets_append hopen
    rw [brackets_append hclose] at hfirst
    exact hfirst
  have hnet : net (brackets ('(' :: (cs ++ [')']))) = net (brackets cs) := by
    rw [hbrackets, net_cons, net_append]
    show (1 : Int) + (net (brackets cs) + -1) = net (brackets cs)
    omega
  have hround : Balanced cs → Balanced ('(' :: (cs ++ [')'])) := by
    intro hcs
    have hinside : nest [.round] (brackets cs) = some [.round] := nest_onto hcs [.round]
    show nest [] (brackets ('(' :: (cs ++ [')']))) = some []
    rw [hbrackets]
    show nest [.round] (brackets cs ++ [⟨.round, false⟩]) = some []
    rw [nest_append, hinside]
    rfl
  refine ⟨⟨?_, ?_⟩, ?_⟩
  · rw [hnet]
    exact h.le
  · intro heven
    rw [hnet] at heven
    exact hround (h.even heven)
  · rw [← h.iff]
    constructor
    · intro hbalanced
      have heven := hbalanced.net_eq
      rw [hnet] at heven
      exact h.even heven
    · exact hround

/-- **Texts with commas between them.** -/
theorem commas {α : Type} {text : α → List Char} {holds : α → Prop} :
    ∀ {xs : List α}, (∀ x ∈ xs, HingesOn (text x) (holds x)) →
      HingesOn ([',', ' '].intercalate (xs.map text)) (∀ x ∈ xs, holds x)
  | [], _ => by
      have hnil : Balanced [] := rfl
      refine hnil.hinges.congr ?_
      simp
  | [x], h => by
      rw [List.map_singleton, List.intercalate_singleton]
      refine (h x List.mem_cons_self).congr ?_
      simp
  | x :: y :: rest, h => by
      have hx := h x List.mem_cons_self
      have hrest : HingesOn ([',', ' '].intercalate ((y :: rest).map text))
          (∀ z ∈ y :: rest, holds z) := commas fun z hz => h z (List.mem_cons_of_mem x hz)
      have hcomma : HingesOn [',', ' '] True := Balanced.hinges (by decide)
      rw [List.map_cons, List.map_cons, List.intercalate_cons_cons, ← List.map_cons,
        List.append_assoc]
      refine (hx.append (Or.inr (by simp)) (hcomma.append (Or.inl (by decide)) hrest)).congr ?_
      simp

end HingesOn

end Structural.Text
