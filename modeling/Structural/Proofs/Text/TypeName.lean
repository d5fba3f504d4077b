import Structural.Proofs.Text.Brackets
import Structural.Proofs.Text.Separator

/-!
# Full names of types

The full names of types by their grammar, as sequences of words.

* `TypeName` -- **the full name of a type**: a path with arguments or without, a tuple, a slice, an
  array, a reference or pointer, a type behind `dyn`, a function;
* `Word`, `TypeName.words` -- the words that a name is written with: paths, numbers and signs;
  `TypeName.name` is the text, and `TypeName.name_generic`, `TypeName.name_tuple` say how the texts of
  arguments and elements stand in it;
* `Word.not_mem_of_ne`, `Word.colon_not_mem` -- one sign alone has a `<`, and paths with modules alone
  have colons;
* `standing` -- the brackets that stand open behind some words;
* `TypeName.standing_words` -- **every name closes the brackets that it opens**, and no others.
-/

namespace Structural.Text

/-! ## 1. Names -/

/-- The characters of identifiers. Beyond ASCII every character is let through. -/
def isIdentChar (c : Char) : Bool :=
  c.isAlphanum || c == '_' || 128 ≤ c.toNat

/-- An identifier. -/
structure Ident where
  chars : List Char
  nonempty : chars ≠ []
  ofIdentChars : ∀ c ∈ chars, isIdentChar c = true
deriving DecidableEq

/-- **A path**: identifiers with `::` between them, the modules first. -/
structure Path where
  modules : List Ident
  base : Ident
deriving DecidableEq

/-- The module path, each module with the `::` behind it. -/
def Path.front (p : Path) : List Char :=
  p.modules.flatMap fun m => m.chars ++ [':', ':']

/-- A path as it is written. -/
def Path.text (p : Path) : List Char :=
  p.front ++ p.base.chars

/-- What stands in front of the type that is pointed to. -/
inductive Pointer where
  | reference
  | mutableReference
  | constant
deriving DecidableEq, Repr

/-- **The full name of a type.** -/
inductive TypeName where
  | path (p : Path)
  /-- A path with arguments between angle brackets. -/
  | generic (p : Path) (args : List TypeName)
  | tuple (elements : List TypeName)
  | slice (element : TypeName)
  | array (element : TypeName) (size : Nat)
  | pointer (kind : Pointer) (target : TypeName)
  /-- A type known by one bound only. -/
  | dynamic (p : Path)
  | function (params : List TypeName) (result : TypeName)

/-! ## 2. Words -/

/-- The signs between the paths of a name, with the blanks around them. -/
inductive Sign where
  | openRound
  | closeRound
  | openSquare
  | closeSquare
  | openAngle
  | closeAngle
  | comma
  /-- The comma behind the only element of a tuple. -/
  | onlyComma
  | semicolon
  | reference
  | mutableReference
  | constant
  | dynamic
  | function
  | arrow
deriving DecidableEq, Repr

/-- A sign as it is written. -/
def Sign.text : Sign → List Char
  | openRound => ['(']
  | closeRound => [')']
  | openSquare => ['[']
  | closeSquare => [']']
  | openAngle => ['<']
  | closeAngle => ['>']
  | comma => [',', ' ']
  | onlyComma => [',']
  | semicolon => [';', ' ']
  | reference => ['&']
  | mutableReference => ['&', 'm', 'u', 't', ' ']
  | constant => ['*', 'c', 'o', 'n', 's', 't', ' ']
  | dynamic => ['d', 'y', 'n', ' ']
  | function => ['f', 'n']
  | arrow => [' ', '-', '>', ' ']

/-- The sign of a pointer. -/
def Pointer.sign : Pointer → Sign
  | reference => .reference
  | mutableReference => .mutableReference
  | constant => .constant

/-- **A word of a name.** -/
inductive Word where
  | path (p : Path)
  | number (n : Nat)
  | sign (s : Sign)
deriving DecidableEq

/-- A word as it is written. -/
def Word.text : Word → List Char
  | path p => p.text
  | number n => Nat.toDigits 10 n
  | sign s => s.text

/-- Words one after the other. -/
def textOf (words : List Word) : List Char :=
  words.flatMap Word.text

/-- What is written behind the elements of a tuple. -/
def tupleEnd (size : Nat) : List Word :=
  if size = 1 then [.sign .onlyComma, .sign .closeRound] else [.sign .closeRound]

mutual

/-- **The words of a name.** -/
def TypeName.words : TypeName → List Word
  | .path p => [.path p]
  | .generic p args => .path p :: .sign .openAngle :: (listed args ++ [.sign .closeAngle])
  | .tuple elements => .sign .openRound :: (listed elements ++ tupleEnd elements.length)
  | .slice element => .sign .openSquare :: (element.words ++ [.sign .closeSquare])
  | .array element size =>
    .sign .openSquare :: (element.words ++ [.sign .semicolon, .number size, .sign .closeSquare])
  | .pointer kind target => .sign kind.sign :: target.words
  | .dynamic p => [.sign .dynamic, .path p]
  | .function params result =>
    .sign .function :: .sign .openRound ::
      (listed params ++ .sign .closeRound :: .sign .arrow :: result.words)

/-- Names with commas between them. -/
def listed : List TypeName → List Word
  | [] => []
  | t :: rest => t.words ++ listedMore rest

/-- More names, each behind a comma. -/
def listedMore : List TypeName → List Word
  | [] => []
  | t :: rest => .sign .comma :: (t.words ++ listedMore rest)

end

/-- **A name as it is written.** -/
def TypeName.name (t : TypeName) : String :=
  String.ofList (textOf t.words)

theorem textOf_cons (w : Word) (ws : List Word) : textOf (w :: ws) = w.text ++ textOf ws :=
  List.flatMap_cons

theorem textOf_append (ws vs : List Word) : textOf (ws ++ vs) = textOf ws ++ textOf vs :=
  List.flatMap_append

/-- Names with commas between them, as a text. -/
theorem textOf_listed : ∀ ts : List TypeName,
    textOf (listed ts) = (commas (ts.map TypeName.name)).toList
  | [] => rfl
  | [t] => by
      have hone : commas ([t].map TypeName.name) = t.name := rfl
      rw [hone, TypeName.name, String.toList_ofList, listed, listedMore, List.append_nil]
  | t :: u :: rest => by
      have hrest := textOf_listed (u :: rest)
      have hcomma : ", ".toList = Sign.comma.text := rfl
      rw [commas, String.toList_intercalate, hcomma] at hrest ⊢
      simp only [List.map_cons] at hrest ⊢
      rw [List.intercalate_cons_cons, ← hrest, listed, listedMore, textOf_append, textOf_cons,
        TypeName.name, String.toList_ofList, List.append_assoc]
      rfl

/-- **The name of a path with arguments.** -/
theorem TypeName.name_generic (p : Path) (args : List TypeName) :
    (generic p args).name =
      String.ofList (p.text ++ ['<']) ++ commas (args.map name) ++ ">" := by
  have hclose : ">".toList = ['>'] := rfl
  rw [← String.toList_inj, String.toList_append, String.toList_append, ← textOf_listed, hclose]
  simp [name, words, textOf, Word.text, Sign.text]

/-- **The name of a tuple**, but for a tuple of one element. -/
theorem TypeName.name_tuple {elements : List TypeName} (h : elements.length ≠ 1) :
    (tuple elements).name = "(" ++ commas (elements.map name) ++ ")" := by
  have hopen : "(".toList = ['('] := rfl
  have hclose : ")".toList = [')'] := rfl
  rw [← String.toList_inj, String.toList_append, String.toList_append, ← textOf_listed, hopen,
    hclose]
  simp [name, words, tupleEnd, h, textOf, Word.text, Sign.text]

/-! ## 3. Characters of words -/

/-- The characters of paths and numbers. -/
def isPlain (c : Char) : Bool :=
  isIdentChar c || c == ':'

theorem bracket?_of_isPlain {c : Char} (h : isPlain c = true) : bracket? c = none := by
  unfold bracket?
  split
  · exact absurd h (by decide)
  · exact absurd h (by decide)
  · exact absurd h (by decide)
  · exact absurd h (by decide)
  · exact absurd h (by decide)
  · exact absurd h (by decide)
  · rfl

theorem isPlain_of_mem_path {p : Path} {c : Char} (h : c ∈ p.text) : isPlain c = true := by
  unfold isPlain
  rw [Bool.or_eq_true, beq_iff_eq]
  rcases List.mem_append.mp h with h | h
  · obtain ⟨m, _, hc⟩ := List.mem_flatMap.mp h
    rcases List.mem_append.mp hc with hc | hc
    · exact Or.inl (m.ofIdentChars c hc)
    · refine Or.inr ?_
      simpa using hc
  · exact Or.inl (p.base.ofIdentChars c h)

theorem isIdentChar_of_mem_number {n : Nat} {c : Char} (h : c ∈ Nat.toDigits 10 n) :
    isIdentChar c = true := by
  have hdigit : c.isDigit = true := Nat.isDigit_of_mem_toDigits (by decide) (by decide) h
  simp [isIdentChar, Char.isAlphanum, hdigit]

namespace Word

/-- A character of a word is a plain one, or the word is a sign. -/
theorem isPlain_of_mem {w : Word} {c : Char} (h : c ∈ w.text) :
    isPlain c = true ∨ ∃ s, w = .sign s := by
  cases w with
  | path p => exact Or.inl (isPlain_of_mem_path h)
  | number n =>
      refine Or.inl ?_
      simp [isPlain, isIdentChar_of_mem_number h]
  | sign s => exact Or.inr ⟨s, rfl⟩

/-- The opening angle bracket is the only word with a `<`. -/
theorem not_mem_of_ne {w : Word} (hw : w ≠ .sign .openAngle) : '<' ∉ w.text := by
  intro h
  rcases isPlain_of_mem h with hplain | ⟨s, rfl⟩
  · exact absurd hplain (by decide)
  · cases s with
    | openAngle => exact hw rfl
    | _ => exact absurd h (by decide)

/-- Only a path with modules has colons. -/
theorem colon_not_mem {w : Word} (hw : ∀ p, w = .path p → p.modules = []) : ':' ∉ w.text := by
  intro h
  cases w with
  | path p =>
      have htext : p.text = p.base.chars := by
        rw [Path.text, Path.front, hw p rfl, List.flatMap_nil, List.nil_append]
      have hcolon : ':' ∈ p.base.chars := htext ▸ h
      exact absurd (p.base.ofIdentChars ':' hcolon) (by decide)
  | number n => exact absurd (isIdentChar_of_mem_number h) (by decide)
  | sign s =>
      cases s with
      | _ => exact absurd h (by decide)

/-- No word ends in the dash of an arrow. -/
theorem joins (w : Word) (cs : List Char) : Joins w.text cs := by
  refine Or.inl fun h => ?_
  rcases isPlain_of_mem (List.mem_of_getLast? h) with hplain | ⟨s, rfl⟩
  · exact absurd hplain (by decide)
  · cases s with
    | _ => exact absurd h (by decide)

theorem brackets_path (p : Path) : brackets (Word.path p).text = [] :=
  brackets_of_plain fun _ hc => bracket?_of_isPlain (isPlain_of_mem_path hc)

theorem brackets_number (n : Nat) : brackets (Word.number n).text = [] := by
  refine brackets_of_plain fun c hc => bracket?_of_isPlain ?_
  simp [isPlain, isIdentChar_of_mem_number hc]

end Word

/-! ## 4. Brackets of names -/

/-- What stands open behind some words. -/
def standing (before : List BracketKind) (ws : List Word) : Option (List BracketKind) :=
  nest before (brackets (textOf ws))

theorem standing_nil (before : List BracketKind) : standing before [] = some before := rfl

theorem standing_cons (before : List BracketKind) (w : Word) (ws : List Word) :
    standing before (w :: ws) = (nest before (brackets w.text)).bind (standing · ws) := by
  unfold standing
  rw [textOf_cons, brackets_append (w.joins _), nest_append]

theorem standing_append (before : List BracketKind) (ws vs : List Word) :
    standing before (ws ++ vs) = (standing before ws).bind (standing · vs) := by
  induction ws generalizing before with
  | nil => rfl
  | cons w ws ih =>
      rw [List.cons_append, standing_cons, standing_cons, Option.bind_assoc]
      exact Option.bind_congr fun next _ => ih next

theorem standing_path (before : List BracketKind) (p : Path) (ws : List Word) :
    standing before (.path p :: ws) = standing before ws := by
  rw [standing_cons, Word.brackets_path]
  rfl

theorem standing_number (before : List BracketKind) (n : Nat) (ws : List Word) :
    standing before (.number n :: ws) = standing before ws := by
  rw [standing_cons, Word.brackets_number]
  rfl

/-- A sign without brackets. -/
theorem standing_neutral {s : Sign} (h : brackets s.text = []) (before : List BracketKind)
    (ws : List Word) : standing before (.sign s :: ws) = standing before ws := by
  rw [standing_cons, Word.text, h]
  rfl

/-- A sign that opens a bracket. -/
theorem standing_opening {s : Sign} {kind : BracketKind} (h : brackets s.text = [⟨kind, true⟩])
    (before : List BracketKind) (ws : List Word) :
    standing before (.sign s :: ws) = standing (kind :: before) ws := by
  rw [standing_cons, Word.text, h]
  rfl

/-- A sign that closes the innermost bracket. -/
theorem standing_closing {s : Sign} {kind : BracketKind} (h : brackets s.text = [⟨kind, false⟩])
    (before : List BracketKind) (ws : List Word) :
    standing (kind :: before) (.sign s :: ws) = standing before ws := by
  have hread : nest (kind :: before) [⟨kind, false⟩] = some before := by
    simp [nest_cons, Bracket.read]
  rw [standing_cons, Word.text, h, hread]
  rfl

/-- A tuple closes its bracket. -/
theorem standing_tupleEnd (before : List BracketKind) (size : Nat) :
    standing (.round :: before) (tupleEnd size) = some before := by
  unfold tupleEnd
  split
  · rfl
  · rfl

mutual

/-- **Every name closes the brackets that it opens.** -/
theorem TypeName.standing_words (before : List BracketKind) : ∀ t : TypeName,
    standing before t.words = some before
  | .path p => standing_path before p []
  | .generic p args => by
      have hargs := standing_listed (.angle :: before) args
      rw [TypeName.words, standing_path, standing_opening rfl, standing_append, hargs,
        Option.bind_some, standing_closing rfl, standing_nil]
  | .tuple elements => by
      have helements := standing_listed (.round :: before) elements
      rw [TypeName.words, standing_opening rfl, standing_append, helements, Option.bind_some,
        standing_tupleEnd]
  | .slice element => by
      have helement := element.standing_words (.square :: before)
      rw [TypeName.words, standing_opening rfl, standing_append, helement, Option.bind_some,
        standing_closing rfl, standing_nil]
  | .array element size => by
      have helement := element.standing_words (.square :: before)
      rw [TypeName.words, standing_opening rfl, standing_append, helement, Option.bind_some,
        standing_neutral rfl, standing_number, standing_closing rfl, standing_nil]
  | .pointer kind target => by
      have htarget := target.standing_words before
      have hsign : brackets kind.sign.text = [] := by
        cases kind <;> rfl
      rw [TypeName.words, standing_neutral hsign, htarget]
  | .dynamic p => by
      rw [TypeName.words, standing_neutral rfl, standing_path, standing_nil]
  | .function params result => by
      have hparams := standing_listed (.round :: before) params
      have hresult := result.standing_words before
      rw [TypeName.words, standing_neutral rfl, standing_opening rfl, standing_append, hparams,
        Option.bind_some, standing_closing rfl, standing_neutral rfl, hresult]

theorem standing_listed (before : List BracketKind) : ∀ ts : List TypeName,
    standing before (listed ts) = some before
  | [] => rfl
  | t :: rest => by
      have ht := t.standing_words before
      have hrest := standing_listedMore before rest
      rw [listed, standing_append, ht, Option.bind_some, hrest]

theorem standing_listedMore (before : List BracketKind) : ∀ ts : List TypeName,
    standing before (listedMore ts) = some before
  | [] => rfl
  | t :: rest => by
      have ht := t.standing_words before
      have hrest := standing_listedMore before rest
      rw [listedMore, standing_neutral rfl, standing_append, ht, Option.bind_some, hrest]

end

end Structural.Text
