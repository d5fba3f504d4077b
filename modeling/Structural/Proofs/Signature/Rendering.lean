import Structural.Error
import Structural.Proofs.Text.LastPath

/-!
# Brackets in signatures and errors

Signatures and errors name types by their short forms, which may have lost brackets.

* `Ty.Written` -- **the full name of a type follows the grammar**; `Ty.written_of_parts`: it does if
  the names that the type contains do;
* `Shape.hinges_render` and what follows it -- a text that names types is balanced exactly if the
  short form of each of them is;
* `not_stripsModulesOnly` -- what the short form makes of a pair with a path in it;
* `RendersBalanced` -- which calls, signatures and errors are balanced;
* `keeps_from_last_path` -- the main result: **what the short form of every name is, and in which
  texts the brackets are balanced because of it.**
-/

namespace Structural

open Text (Ident Path TypeName Balanced HingesOn Joins StripsModulesOnly shortName)

/-! ## 1. Types with written names -/

/-- **The full name of a type follows the grammar.** -/
def Ty.Written (ty : Ty) : Prop :=
  ∃ t : TypeName, ty.fullName = t.name

/-- The names that stand in a type follow the grammar. -/
def Ty.PartsWritten : Ty → Prop
  | .vec elem => elem.PartsWritten
  | .option elem => elem.PartsWritten
  | .box elem => elem.PartsWritten
  | .pair fst snd => fst.PartsWritten ∧ snd.PartsWritten
  | .result ok error => ok.PartsWritten ∧ error.PartsWritten
  | .nominal name _ => ∃ t : TypeName, name = t.name
  | .foreign name => ∃ t : TypeName, name = t.name
  | _ => True

/-- An identifier given as a text. -/
def Text.identOf (s : String)
    (h : s.toList ≠ [] ∧ s.toList.all Text.isIdentChar = true := by decide) : Ident :=
  ⟨s.toList, h.1, List.all_eq_true.mp h.2⟩

/-- The path of a vector, without its argument. -/
def Text.vecPath : Path :=
  ⟨[identOf "alloc", identOf "vec"], identOf "Vec"⟩

/-- The path of a box. -/
def Text.boxPath : Path :=
  ⟨[identOf "alloc", identOf "boxed"], identOf "Box"⟩

/-- The path of an optional value. -/
def Text.optionPath : Path :=
  ⟨[identOf "core", identOf "option"], identOf "Option"⟩

/-- The path of a result. -/
def Text.resultPath : Path :=
  ⟨[identOf "core", identOf "result"], identOf "Result"⟩

/-- The path of owned text. -/
def Text.stringPath : Path :=
  ⟨[identOf "alloc", identOf "string"], identOf "String"⟩

/-- The path of unsized text. -/
def Text.strPath : Path :=
  ⟨[], identOf "str"⟩

/-- A name of one identifier. -/
theorem Text.exists_name_of_ident {s : String}
    (h : s.toList ≠ [] ∧ s.toList.all isIdentChar = true) : ∃ t : TypeName, s = t.name := by
  refine ⟨.path ⟨[], identOf s h⟩, ?_⟩
  rw [TypeName.name, ← String.toList_inj, String.toList_ofList]
  simp [TypeName.words, textOf, Word.text, Path.text, Path.front, identOf]

namespace Ty

theorem written_int (signed : Bool) (width : Width) : (int signed width).Written := by
  cases signed with
  | false => cases width <;> exact Text.exists_name_of_ident (by decide)
  | true => cases width <;> exact Text.exists_name_of_ident (by decide)

/-- A container has one argument. -/
theorem written_container {elem : Ty} (p : Path) (h : elem.Written) :
    ∃ t : TypeName, String.ofList (p.text ++ ['<']) ++ elem.fullName ++ ">" = t.name := by
  obtain ⟨t, ht⟩ := h
  refine ⟨.generic p [t], ?_⟩
  rw [ht, TypeName.name_generic]
  rfl

/-- **A type has a written name if the names that stand in it are written.** -/
theorem written_of_parts : ∀ ty : Ty, ty.PartsWritten → ty.Written
  | .unit, _ => ⟨.tuple [], by decide⟩
  | .bool, _ => Text.exists_name_of_ident (by decide)
  | .char, _ => Text.exists_name_of_ident (by decide)
  | .float, _ => Text.exists_name_of_ident (by decide)
  | .string, _ => ⟨.path Text.stringPath, by decide⟩
  | .text, _ => ⟨.pointer .reference (.path Text.strPath), by decide⟩
  | .int signed width, _ => written_int signed width
  | .vec elem, h => written_container Text.vecPath (elem.written_of_parts h)
  | .option elem, h => written_container Text.optionPath (elem.written_of_parts h)
  | .box elem, h => written_container Text.boxPath (elem.written_of_parts h)
  | .pair fst snd, h => by
      obtain ⟨t, ht⟩ := fst.written_of_parts h.1
      obtain ⟨u, hu⟩ := snd.written_of_parts h.2
      refine ⟨.tuple [t, u], ?_⟩
      show "(" ++ fst.fullName ++ ", " ++ snd.fullName ++ ")" = _
      rw [ht, hu, TypeName.name_tuple (by simp)]
      show _ = "(" ++ (t.name ++ ", " ++ u.name) ++ ")"
      simp only [String.append_assoc]
  | .result ok error, h => by
      obtain ⟨t, ht⟩ := ok.written_of_parts h.1
      obtain ⟨u, hu⟩ := error.written_of_parts h.2
      refine ⟨.generic Text.resultPath [t, u], ?_⟩
      show "core::result::Result<" ++ ok.fullName ++ ", " ++ error.fullName ++ ">" = _
      rw [ht, hu, TypeName.name_generic]
      show _ = "core::result::Result<" ++ (t.name ++ ", " ++ u.name) ++ ">"
      simp only [String.append_assoc]
  | .nominal _ _, h => h
  | .foreign _, h => h

end Ty

/-! ## 2. Texts that name types -/

/-- **The brackets of a type's short form are balanced.** -/
def Ty.ShortBalanced (ty : Ty) : Prop :=
  Balanced ty.shortName.toList

instance (ty : Ty) : Decidable ty.ShortBalanced :=
  inferInstanceAs (Decidable (Balanced _))

/-- A short form opens no bracket for good. -/
theorem Ty.Written.hinges {ty : Ty} (h : ty.Written) :
    HingesOn ty.shortName.toList ty.ShortBalanced := by
  obtain ⟨t, ht⟩ := h
  have hclosing : Text.Closing ty.shortName.toList := by
    rw [Ty.shortName, ht, t.toList_shortName_name]
    exact Text.closing_shortChars (t.standing_words [])
  exact hclosing.hinges

/-- **A fixed text that may stand between two others**: balanced, and no end of it becomes part of an
    arrow. -/
structure Text.Connects (s : String) : Prop where
  balanced : Balanced s.toList
  first : s.toList.head? ≠ some '>'
  last : s.toList.getLast?.any (· ≠ '-') = true

instance (s : String) : Decidable (Text.Connects s) :=
  decidable_of_iff (Balanced s.toList ∧ s.toList.head? ≠ some '>' ∧
      s.toList.getLast?.any (· ≠ '-') = true)
    ⟨fun h => ⟨h.1, h.2.1, h.2.2⟩, fun h => ⟨h.balanced, h.first, h.last⟩⟩

/-- Behind a fixed text no arrow begins. -/
theorem Text.Connects.getLast?_ne {s : String} (h : Connects s) (cs : List Char) :
    (cs ++ s.toList).getLast? ≠ some '-' := by
  obtain ⟨c, hlast, hc⟩ := (Option.any_eq_true _ _).mp h.last
  rw [List.getLast?_append, hlast, Option.some_or]
  intro heq
  rw [Option.some.inj heq] at hc
  exact absurd hc (by decide)

namespace Text.HingesOn

variable {a b : String} {P Q : Prop}

/-- A fixed text in front. -/
theorem behind (ha : HingesOn a.toList P) (fixed : String) (hfixed : Connects fixed) :
    HingesOn (fixed ++ a).toList P := by
  rw [String.toList_append]
  refine (hfixed.balanced.hinges.append (Or.inl ?_) ha).congr (Iff.of_eq (true_and P))
  exact hfixed.getLast?_ne []

/-- A fixed text behind. -/
theorem before (ha : HingesOn a.toList P) (fixed : String) (hfixed : Connects fixed) :
    HingesOn (a ++ fixed).toList P := by
  rw [String.toList_append]
  exact (ha.append (Or.inr hfixed.first) hfixed.balanced.hinges).congr (Iff.of_eq (and_true P))

/-- **Two texts with a fixed one between them.** -/
theorem connected (ha : HingesOn a.toList P) (fixed : String) (hfixed : Connects fixed)
    (hb : HingesOn b.toList Q) : HingesOn (a ++ fixed ++ b).toList (P ∧ Q) := by
  have hfront := ha.before fixed hfixed
  rw [String.toList_append]
  refine hfront.append (Or.inl ?_) hb
  rw [String.toList_append]
  exact hfixed.getLast?_ne a.toList

theorem ticked (ha : HingesOn a.toList P) : HingesOn (Fault.ticked a).toList P :=
  (ha.behind "`" (by decide)).before "`" (by decide)

end Text.HingesOn

/-- **A call that can be written**: the name has no bracket alone, and the types have written
    names. -/
structure Shape.Written (s : Shape) : Prop where
  name : Balanced s.name.toList
  params : ∀ ty ∈ s.params, ty.Written

/-- All argument types have balanced short forms. -/
def Shape.ShortBalanced (s : Shape) : Prop :=
  ∀ ty ∈ s.params, ty.ShortBalanced

/-- **A call is balanced exactly if the short forms of its types are.** -/
theorem Shape.hinges_render {s : Shape} (h : s.Written) :
    HingesOn s.render.toList s.ShortBalanced := by
  have hparams : HingesOn (Text.commas (s.params.map Ty.shortName)).toList s.ShortBalanced := by
    have hcomma : ", ".toList = [',', ' '] := rfl
    rw [Text.commas, String.toList_intercalate, hcomma, List.map_map]
    exact HingesOn.commas fun ty hty => (h.params ty hty).hinges
  have htext : s.render.toList =
      s.name.toList ++ '(' :: ((Text.commas (s.params.map Ty.shortName)).toList ++ [')']) := by
    have hopen : "(".toList = ['('] := rfl
    have hclose : ")".toList = [')'] := rfl
    rw [render, String.toList_append, String.toList_append, String.toList_append, hopen, hclose]
    simp
  rw [htext]
  refine (h.name.hinges.append (Or.inr (by simp)) hparams.round).congr ?_
  simp

/-- **A signature hinges on its result as well.** -/
theorem Signature.hinges_render {s : Signature} (h : s.shape.Written) (hresult : s.result.Written) :
    HingesOn s.render.toList (s.shape.ShortBalanced ∧ s.result.ShortBalanced) :=
  (Shape.hinges_render h).connected " -> " (by decide) hresult.hinges

/-! ## 3. Errors that name types -/

/-- A number is written without brackets. -/
theorem Text.hinges_toString (n : Nat) : HingesOn (toString n).toList True := by
  have hdigits : (toString n).toList = Nat.toDigits 10 n := String.toList_ofList
  refine Balanced.hinges ?_
  rw [Text.Balanced, hdigits]
  show Text.nest [] (Text.brackets (Text.Word.number n).text) = some []
  rw [Text.Word.brackets_number, Text.nest_nil]

section Errors

variable {s : Shape} {source : Ty}

/-- **A call that finds no method hinges on its types and on the type searched.** -/
theorem MatchError.hinges_noMatch (h : s.Written) (hs : source.Written) :
    HingesOn (MatchError.noMatch s source.shortName).message.toList
      (s.ShortBalanced ∧ source.ShortBalanced) := by
  have hcall := (Shape.hinges_render h).ticked.behind "no method " (by decide)
  exact hcall.connected " on " (by decide) hs.hinges.ticked

/-- So does one that finds several. -/
theorem MatchError.hinges_ambiguous (h : s.Written) (hs : source.Written) (candidates : Nat) :
    HingesOn (MatchError.ambiguous s source.shortName candidates).message.toList
      (s.ShortBalanced ∧ source.ShortBalanced) := by
  have hcall := (Shape.hinges_render h).ticked.behind "method " (by decide)
  have hsource := hcall.connected " on " (by decide) hs.hinges.ticked
  have hcounted := hsource.connected " is ambiguous: " (by decide)
    (Text.hinges_toString candidates)
  exact (hcounted.congr (Iff.of_eq (and_true _))).before " candidates" (by decide)

/-- **An unexpected result hinges on the call, on both results and on the type that has the
    method**; the name of the interface is a text of its own. -/
theorem SynthesisError.hinges_returnMismatch {interface : String} {expected found : Ty}
    (hi : Balanced interface.toList) (h : s.Written) (hs : source.Written)
    (he : expected.Written) (hf : found.Written) :
    HingesOn (SynthesisError.returnMismatch interface source.shortName s.render expected
        found).message.toList
      (((s.ShortBalanced ∧ expected.ShortBalanced) ∧ source.ShortBalanced) ∧
        found.ShortBalanced) := by
  have hcall := hi.hinges.ticked.connected " declares " (by decide) (Shape.hinges_render h).ticked
  have hexpected := (hcall.congr (Iff.of_eq (true_and _))).connected " returning " (by decide)
    he.hinges.ticked
  have hsource := hexpected.connected ", but " (by decide) hs.hinges.ticked
  exact hsource.connected " returns " (by decide) hf.hinges.ticked

end Errors

/-! ## 4. What short forms keep -/

/-- The name of a pair of a number and a text. -/
def Text.numberAndText : TypeName :=
  .tuple [.path ⟨[], identOf "i32"⟩, .path stringPath]

/-- A call with such a pair. -/
def Shape.takesPair : Shape :=
  ⟨"f", [.pair .i32 .string]⟩

theorem Shape.written_takesPair : takesPair.Written where
  name := by decide
  params ty hty := by
    obtain rfl := List.mem_singleton.mp hty
    exact Ty.written_of_parts _ ⟨trivial, trivial⟩

/-- **The short form of the pair is `String)`**, so that it strips more, and a call with the pair is not
    balanced. -/
theorem not_stripsModulesOnly :
    Text.numberAndText.name = "(i32, alloc::string::String)" ∧
      shortName Text.numberAndText.name = "String)" ∧ ¬ StripsModulesOnly Text.numberAndText ∧
      Shape.takesPair.Written ∧ ¬ Balanced Shape.takesPair.render.toList := by
  refine ⟨by decide, by decide, fun h => ?_, Shape.written_takesPair, by decide⟩
  exact absurd (h.other rfl) (by decide)

/-- **Which texts about a call are balanced**: those in which no type has lost a bracket. -/
structure RendersBalanced (s : Shape) : Prop where
  call : Balanced s.render.toList ↔ s.ShortBalanced
  signature : ∀ result : Ty, result.Written →
    (Balanced (Signature.mk s result).render.toList ↔ s.ShortBalanced ∧ result.ShortBalanced)
  noMatch : ∀ source : Ty, source.Written →
    (Balanced (MatchError.noMatch s source.shortName).message.toList ↔
      s.ShortBalanced ∧ source.ShortBalanced)
  ambiguous : ∀ (source : Ty) (candidates : Nat), source.Written →
    (Balanced (MatchError.ambiguous s source.shortName candidates).message.toList ↔
      s.ShortBalanced ∧ source.ShortBalanced)
  returnMismatch : ∀ (interface : String) (source expected found : Ty),
    Balanced interface.toList → source.Written → expected.Written → found.Written →
      (Balanced (SynthesisError.returnMismatch interface source.shortName s.render expected
          found).message.toList ↔
        ((s.ShortBalanced ∧ expected.ShortBalanced) ∧ source.ShortBalanced) ∧ found.ShortBalanced)

/-- **A short form keeps what stands from the last path with modules in sight on.** So it strips
    modules only off a path or if there is none in sight, and a text that names types is balanced
    exactly if every short form in it is. -/
theorem keeps_from_last_path (t : TypeName) {s : Shape} (h : s.Written) :
    (StripsModulesOnly t ↔ t.outermost?.isSome = true ∨ Text.Unqualified (Text.sight t.words)) ∧
      Text.KeepsFromLastPath t ∧ RendersBalanced s := by
  refine ⟨Text.stripsModulesOnly_iff t, Text.keepsFromLastPath t, ⟨?_, ?_, ?_, ?_, ?_⟩⟩
  · exact (Shape.hinges_render h).iff
  · intro result hresult
    exact (Signature.hinges_render (s := ⟨s, result⟩) h hresult).iff
  · intro source hsource
    exact (MatchError.hinges_noMatch h hsource).iff
  · intro source candidates hsource
    exact (MatchError.hinges_ambiguous h hsource candidates).iff
  · intro interface source expected found hi hsource hexpected hfound
    exact (SynthesisError.hinges_returnMismatch hi h hsource hexpected hfound).iff

/-- The path of the text is the last one in the pair, behind the parenthesis that opens it. -/
theorem keeps_from_last_path_pair :
    Text.LastInSight Text.numberAndText.words
        [.sign .openRound, .path ⟨[], Text.identOf "i32"⟩, .sign .comma] Text.stringPath
        [.sign .closeRound] ∧
      shortName Text.numberAndText.name = "String)" ∧ Shape.takesPair.Written ∧
      ¬ Shape.takesPair.ShortBalanced ∧ ¬ Balanced Shape.takesPair.render.toList := by
  have hlast : Text.LastInSight Text.numberAndText.words
      [.sign .openRound, .path ⟨[], Text.identOf "i32"⟩, .sign .comma] Text.stringPath
      [.sign .closeRound] := by
    refine ⟨rfl, by decide, by decide, ?_⟩
    intro p hp
    simp [Text.sight] at hp
  obtain ⟨_, hkeeps, hrenders⟩ :=
    keeps_from_last_path Text.numberAndText Shape.written_takesPair
  have hpair : ¬ Shape.takesPair.ShortBalanced := by
    intro h
    exact absurd (h (.pair .i32 .string) List.mem_cons_self) (by decide)
  refine ⟨hlast, hkeeps.kept _ _ _ hlast, Shape.written_takesPair, hpair, fun h => ?_⟩
  exact hpair (hrenders.call.mp h)

end Structural
