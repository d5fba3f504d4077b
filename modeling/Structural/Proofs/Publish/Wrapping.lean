import Mathlib.Data.List.Basic
import Structural.Proofs.Publish.Contributions

/-!
# Parentheses around types

Parentheses around a type mean nothing, written or invisible. Most of what is decided about the
types of a method looks through them, but not all of it does.

* `TypeExpr.unwrapped` -- **a type without its parentheses**, at every depth; types are the same up to
  parentheses if this is the same for both;
* `TypeExpr.borrows_unwrapped` -- whether a type borrows does not depend on them;
* `TypeExpr.cannotBeError_unwrapped_iff` -- whether it is visibly no error type depends on them at
  one place, around a type in a box (`TypeExpr.HidesBoxed`);
* `TypeExpr.Hides` / `TypeExpr.fallible?_unwrapped_of_hides` -- **where they matter to the kind of a
  method**: around the whole result, and around a type in the box of its error type;
* `not_wrappingIrrelevant` -- so what is published does depend on parentheses;
* `WrappingMatters` / `wrapping_matters_where_hidden` -- what holds: **it depends on them at these
  two places only.**
-/

namespace Structural.Publish

/-! ## 1. Types without parentheses -/

mutual

/-- **A type without its parentheses** of both kinds, at every depth. -/
def TypeExpr.unwrapped : TypeExpr → TypeExpr
  | .path of? leading segments => .path (unwrappedOf of?) leading (unwrappedSegments segments)
  | .reference mutable target => .reference mutable target.unwrapped
  | .tuple elements => .tuple (unwrappedTypes elements)
  | .paren inner => inner.unwrapped
  | .group inner => inner.unwrapped
  | .anonymous bounds => .anonymous (unwrappedSegments bounds)
  | .dynamic bounds => .dynamic (unwrappedSegments bounds)
  | .array element => .array element.unwrapped
  | .slice element => .slice element.unwrapped
  | .pointer target => .pointer target.unwrapped
  | .function params => .function (unwrappedTypes params)

/-- The type before a path. -/
def unwrappedOf : Option TypeExpr → Option TypeExpr
  | none => none
  | some t => some t.unwrapped

/-- Several types. -/
def unwrappedTypes : List TypeExpr → List TypeExpr
  | [] => []
  | t :: rest => t.unwrapped :: unwrappedTypes rest

/-- One segment of a path. -/
def Segment.unwrapped : Segment → Segment
  | .mk name args? => .mk name (unwrappedArgs? args?)

/-- Several segments. -/
def unwrappedSegments : List Segment → List Segment
  | [] => []
  | s :: rest => s.unwrapped :: unwrappedSegments rest

/-- What stands between angle brackets, if they are there. -/
def unwrappedArgs? : Option (List GenericArg) → Option (List GenericArg)
  | none => none
  | some args => some (unwrappedArgs args)

/-- Several arguments. -/
def unwrappedArgs : List GenericArg → List GenericArg
  | [] => []
  | a :: rest => a.unwrapped :: unwrappedArgs rest

/-- One argument. -/
def GenericArg.unwrapped : GenericArg → GenericArg
  | .type t => .type t.unwrapped
  | .lifetime name => .lifetime name
  | .constant source => .constant source

end

theorem unwrappedSegments_eq : ∀ segments : List Segment,
    unwrappedSegments segments = segments.map Segment.unwrapped
  | [] => by simp [unwrappedSegments]
  | s :: rest => by simp [unwrappedSegments, unwrappedSegments_eq rest]

theorem unwrappedArgs_eq : ∀ args : List GenericArg,
    unwrappedArgs args = args.map GenericArg.unwrapped
  | [] => by simp [unwrappedArgs]
  | a :: rest => by simp [unwrappedArgs, unwrappedArgs_eq rest]

namespace Segment

@[simp] theorem name_unwrapped (s : Segment) : s.unwrapped.name = s.name := by
  cases s
  simp [unwrapped, name]

theorem args_unwrapped (s : Segment) : s.unwrapped.args = s.args.map GenericArg.unwrapped := by
  obtain ⟨name, args?⟩ := s
  cases args? <;> simp [unwrapped, args, unwrappedArgs?, unwrappedArgs_eq]

theorem typeArgs_unwrapped (s : Segment) :
    s.unwrapped.typeArgs = s.typeArgs.map TypeExpr.unwrapped := by
  unfold typeArgs
  rw [args_unwrapped, List.filterMap_map, List.map_filterMap]
  refine List.filterMap_congr fun a _ => ?_
  cases a <;> simp [GenericArg.unwrapped, GenericArg.type?]

end Segment

theorem startsOpaque_unwrapped (segments : List Segment) :
    startsOpaque (unwrappedSegments segments) = startsOpaque segments := by
  cases segments <;> simp [unwrappedSegments, startsOpaque]

theorem getLast?_unwrapped (segments : List Segment) :
    (unwrappedSegments segments).getLast? = segments.getLast?.map Segment.unwrapped := by
  rw [unwrappedSegments_eq, List.getLast?_map]

theorem getLast?_unwrapped_of_eq {segments : List Segment} {last : Segment}
    (h : segments.getLast? = some last) :
    (unwrappedSegments segments).getLast? = some last.unwrapped := by
  rw [getLast?_unwrapped, h]
  rfl

/-! ## 2. Parentheses around a whole type -/

namespace TypeExpr

/-- Whether a type stands in parentheses. -/
def isWrapped : TypeExpr → Bool
  | .paren _ => true
  | .group _ => true
  | _ => false

/-- A type without the parentheses around it. -/
def core : TypeExpr → TypeExpr
  | .paren inner => inner.core
  | .group inner => inner.core
  | t => t

theorem isWrapped_core (t : TypeExpr) : t.core.isWrapped = false := by
  fun_induction core t with
  | case1 inner ih => exact ih
  | case2 inner ih => exact ih
  | case3 t hparen hgroup =>
      cases t with
      | paren inner => exact absurd rfl (hparen inner)
      | group inner => exact absurd rfl (hgroup inner)
      | _ => rfl

theorem unwrapped_core (t : TypeExpr) : t.core.unwrapped = t.unwrapped := by
  fun_induction core t with
  | case1 inner ih => rw [ih, unwrapped]
  | case2 inner ih => rw [ih, unwrapped]
  | case3 => rfl

theorem cannotBeError_core (t : TypeExpr) : t.core.cannotBeError = t.cannotBeError := by
  fun_induction core t with
  | case1 inner ih => rw [ih, cannotBeError]
  | case2 inner ih => rw [ih, cannotBeError]
  | case3 => rfl

end TypeExpr

/-! ## 3. Borrowing -/

mutual

/-- **Whether a type borrows does not depend on parentheses.** -/
theorem TypeExpr.borrows_unwrapped : ∀ t : TypeExpr, t.unwrapped.borrows = t.borrows
  | .path .. => by simp [TypeExpr.unwrapped, TypeExpr.borrows]
  | .reference .. => by simp [TypeExpr.unwrapped, TypeExpr.borrows]
  | .tuple elements => by
      rw [TypeExpr.unwrapped, TypeExpr.borrows, TypeExpr.borrows, anyBorrows_unwrapped elements]
  | .paren inner => by rw [TypeExpr.unwrapped, TypeExpr.borrows, inner.borrows_unwrapped]
  | .group inner => by rw [TypeExpr.unwrapped, TypeExpr.borrows, inner.borrows_unwrapped]
  | .anonymous _ => by simp [TypeExpr.unwrapped, TypeExpr.borrows]
  | .dynamic _ => by simp [TypeExpr.unwrapped, TypeExpr.borrows]
  | .array _ => by simp [TypeExpr.unwrapped, TypeExpr.borrows]
  | .slice _ => by simp [TypeExpr.unwrapped, TypeExpr.borrows]
  | .pointer _ => by simp [TypeExpr.unwrapped, TypeExpr.borrows]
  | .function _ => by simp [TypeExpr.unwrapped, TypeExpr.borrows]

theorem anyBorrows_unwrapped : ∀ ts : List TypeExpr,
    anyBorrows (unwrappedTypes ts) = anyBorrows ts
  | [] => by simp [unwrappedTypes]
  | t :: rest => by
      rw [unwrappedTypes, anyBorrows, anyBorrows, t.borrows_unwrapped, anyBorrows_unwrapped rest]

end

/-! ## 4. Error types -/

/-- **The last segment of a path boxes a type that only parentheses hide**: it is a box, none of its
    arguments is a type known by its bounds only, but one of them is such a type in parentheses. -/
structure BoxHides (segments : List Segment) (last : Segment) : Prop where
  ends : segments.getLast? = some last
  box : last.name = "Box"
  transparent : startsOpaque segments = false
  bare : last.args.any GenericArg.isDynamic = false
  hidden : (last.args.map GenericArg.unwrapped).any GenericArg.isDynamic = true

/-- A type known by its bounds only is one without its parentheses too. -/
theorem GenericArg.isDynamic_unwrapped {a : GenericArg} (h : a.isDynamic = true) :
    a.unwrapped.isDynamic = true := by
  unfold isDynamic at h
  split at h
  · simp [GenericArg.unwrapped, TypeExpr.unwrapped, isDynamic]
  · cases h

theorem any_isDynamic_unwrapped {args : List GenericArg}
    (h : args.any GenericArg.isDynamic = true) :
    (args.map GenericArg.unwrapped).any GenericArg.isDynamic = true := by
  obtain ⟨a, ha, hdynamic⟩ := List.any_eq_true.mp h
  exact List.any_eq_true.mpr
    ⟨_, List.mem_map_of_mem ha, GenericArg.isDynamic_unwrapped hdynamic⟩

/-- Whether a path ends in no error type, by its last segment. -/
theorem endsInNoError_iff {segments : List Segment} : endsInNoError segments = true ↔
    ∃ last, segments.getLast? = some last ∧ (startsOpaque segments = true ∨ last.name = "String" ∨
      last.name = "Box" ∧ last.args.any GenericArg.isDynamic = true) := by
  unfold endsInNoError
  cases segments.getLast? with
  | none => simp
  | some last =>
      simp [or_assoc]

/-- Without its parentheses, a path ends in no error type if it does so with them or its box hides
    a type. -/
theorem endsInNoError_unwrapped_iff {segments : List Segment} :
    endsInNoError (unwrappedSegments segments) = true ↔
      endsInNoError segments = true ∨ ∃ last, BoxHides segments last := by
  rw [endsInNoError_iff, endsInNoError_iff, getLast?_unwrapped, startsOpaque_unwrapped]
  constructor
  · rintro ⟨last', hlast', h⟩
    obtain ⟨last, hlast, rfl⟩ := Option.map_eq_some_iff.mp hlast'
    rw [Segment.name_unwrapped, Segment.args_unwrapped] at h
    rcases h with hforeign | hstring | ⟨hbox, hany⟩
    · exact .inl ⟨last, hlast, .inl hforeign⟩
    · exact .inl ⟨last, hlast, .inr (.inl hstring)⟩
    · cases hforeign : startsOpaque segments with
      | true => exact .inl ⟨last, hlast, .inl rfl⟩
      | false =>
          cases hbare : last.args.any GenericArg.isDynamic with
          | true => exact .inl ⟨last, hlast, .inr (.inr ⟨hbox, hbare⟩)⟩
          | false => exact .inr ⟨last, hlast, hbox, hforeign, hbare, hany⟩
  · rintro (⟨last, hlast, h⟩ | ⟨last, hhides⟩)
    · refine ⟨last.unwrapped, by rw [hlast]; rfl, ?_⟩
      rw [Segment.name_unwrapped, Segment.args_unwrapped]
      exact h.imp_right (.imp_right (.imp_right any_isDynamic_unwrapped))
    · refine ⟨last.unwrapped, by rw [hhides.ends]; rfl, .inr (.inr ?_)⟩
      rw [Segment.name_unwrapped, Segment.args_unwrapped]
      exact ⟨hhides.box, hhides.hidden⟩

namespace TypeExpr

/-- **A type hides in a box that it is no error type**: it is a path, in parentheses or not,
    whose last segment boxes a type that only parentheses hide. -/
def HidesBoxed (t : TypeExpr) : Prop :=
  ∃ of? leading segments last, t.core = .path of? leading segments ∧ BoxHides segments last

theorem cannotBeError_unwrapped_of_not_wrapped {t : TypeExpr} (h : t.isWrapped = false) :
    t.unwrapped.cannotBeError = true ↔ t.cannotBeError = true ∨
      ∃ of? leading segments last, t = .path of? leading segments ∧ BoxHides segments last := by
  cases t with
  | path of? leading segments =>
      rw [unwrapped, cannotBeError, cannotBeError, endsInNoError_unwrapped_iff]
      refine or_congr_right ⟨?_, ?_⟩
      · rintro ⟨last, hhides⟩
        exact ⟨of?, leading, segments, last, rfl, hhides⟩
      · rintro ⟨_, _, _, last, heq, hhides⟩
        cases heq
        exact ⟨last, hhides⟩
  | paren inner => cases h
  | group inner => cases h
  | _ => simp [unwrapped, cannotBeError]

/-- **Parentheses matter to whether a type is visibly no error type in a box only.** -/
theorem cannotBeError_unwrapped_iff (t : TypeExpr) :
    t.unwrapped.cannotBeError = true ↔ t.cannotBeError = true ∨ t.HidesBoxed := by
  have h := cannotBeError_unwrapped_of_not_wrapped t.isWrapped_core
  rwa [unwrapped_core, cannotBeError_core] at h

/-- A type that hides it passes for an error type. -/
theorem cannotBeError_of_hidesBoxed {t : TypeExpr} (h : t.HidesBoxed) :
    t.cannotBeError = false := by
  obtain ⟨of?, leading, segments, last, hcore, hhides⟩ := h
  rw [← cannotBeError_core, hcore, cannotBeError, endsInNoError, hhides.ends]
  simp [hhides.transparent, hhides.box, hhides.bare]

end TypeExpr

/-! ## 5. Results -/

/-- A path that ends in a result is refused: it is of an opaque package, or its error type is
    visibly none. -/
def RefusesError (segments : List Segment) (last : Segment) : Prop :=
  startsOpaque segments = true ∨ ∃ e, last.typeArgs[1]? = some e ∧ e.cannotBeError = true

/-- The error type of a result hides from its box that it is none. -/
structure ErrorHides (segments : List Segment) (last : Segment) (e : TypeExpr) : Prop where
  transparent : startsOpaque segments = false
  error : last.typeArgs[1]? = some e
  hides : e.HidesBoxed

theorem refusesError_unwrapped_iff {segments : List Segment} {last : Segment} :
    RefusesError (unwrappedSegments segments) last.unwrapped ↔
      RefusesError segments last ∨ ∃ e, ErrorHides segments last e := by
  unfold RefusesError
  rw [startsOpaque_unwrapped, Segment.typeArgs_unwrapped, List.getElem?_map]
  constructor
  · rintro (hforeign | ⟨e', he', h⟩)
    · exact .inl (.inl hforeign)
    · obtain ⟨e, he, rfl⟩ := Option.map_eq_some_iff.mp he'
      cases hforeign : startsOpaque segments with
      | true => exact .inl (.inl rfl)
      | false =>
          rcases e.cannotBeError_unwrapped_iff.mp h with h | h
          · exact .inl (.inr ⟨e, he, h⟩)
          · exact .inr ⟨e, hforeign, he, h⟩
  · rintro ((hforeign | ⟨e, he, h⟩) | ⟨e, hhides⟩)
    · exact .inl hforeign
    · exact .inr ⟨e.unwrapped, by rw [he]; rfl, e.cannotBeError_unwrapped_iff.mpr (.inl h)⟩
    · exact .inr ⟨e.unwrapped, by rw [hhides.error]; rfl,
        e.cannotBeError_unwrapped_iff.mpr (.inr hhides.hides)⟩

/-- An error type that hides is not refused. -/
theorem ErrorHides.accepted {segments : List Segment} {last : Segment} {e : TypeExpr}
    (h : ErrorHides segments last e) : ¬ RefusesError segments last := by
  rintro (hforeign | ⟨e', he', hrefused⟩)
  · exact absurd (h.transparent.symm.trans hforeign) Bool.false_ne_true
  · cases h.error.symm.trans he'
    exact absurd ((TypeExpr.cannotBeError_of_hidesBoxed h.hides).symm.trans hrefused)
      Bool.false_ne_true

namespace TypeExpr

/-- **A type is a result**: a path, without parentheses around it, that ends so. -/
def IsResult (t : TypeExpr) : Prop :=
  ∃ of? leading segments last,
    t = .path of? leading segments ∧ segments.getLast? = some last ∧ last.name = "Result"

variable {of? : Option TypeExpr} {leading : Bool} {segments : List Segment} {last : Segment}

theorem fallible?_of_refused (h : segments.getLast? = some last) (hname : last.name = "Result")
    (hrefuses : RefusesError segments last) :
    (path of? leading segments).fallible? = none := by
  rw [fallible?, h]
  rcases hrefuses with hforeign | ⟨e, he, hnone⟩
  · simp [hname, hforeign]
  · simp [hname, he, hnone]

theorem fallible?_of_accepted (h : segments.getLast? = some last) (hname : last.name = "Result")
    (haccepts : ¬ RefusesError segments last) :
    (path of? leading segments).fallible? = some true := by
  rw [RefusesError, not_or, Bool.not_eq_true] at haccepts
  rw [fallible?, h]
  cases he : last.typeArgs[1]? with
  | none => simp [hname, haccepts.1, he]
  | some e =>
      have hpasses : e.cannotBeError = false :=
        Bool.eq_false_iff.mpr fun hnone => haccepts.2 ⟨e, he, hnone⟩
      simp [hname, haccepts.1, he, hpasses]

/-- **A type that is no result makes a method that does not fail**, and only such a type. -/
theorem fallible?_eq_false_iff {t : TypeExpr} : t.fallible? = some false ↔ ¬ t.IsResult := by
  constructor
  · rintro h ⟨of?, leading, segments, last, rfl, hlast, hname⟩
    by_cases hrefuses : RefusesError segments last
    · rw [fallible?_of_refused hlast hname hrefuses] at h
      cases h
    · rw [fallible?_of_accepted hlast hname hrefuses] at h
      cases h
  · intro h
    cases t with
    | path of? leading segments =>
        rw [fallible?]
        split
        · rfl
        · rename_i last hlast
          rw [if_pos fun hname => h ⟨of?, leading, segments, last, rfl, hlast, hname⟩]
    | _ => rfl

theorem isResult_unwrapped_of_not_wrapped {t : TypeExpr} (h : t.isWrapped = false) :
    t.unwrapped.IsResult ↔ t.IsResult := by
  cases t with
  | path of? leading segments =>
      rw [unwrapped]
      constructor
      · rintro ⟨_, _, _, last', heq, hlast', hname⟩
        cases heq
        rw [getLast?_unwrapped] at hlast'
        obtain ⟨last, hlast, rfl⟩ := Option.map_eq_some_iff.mp hlast'
        exact ⟨of?, leading, segments, last, rfl, hlast, last.name_unwrapped ▸ hname⟩
      · rintro ⟨_, _, _, last, heq, hlast, hname⟩
        cases heq
        exact ⟨_, _, _, last.unwrapped, rfl, getLast?_unwrapped_of_eq hlast,
          last.name_unwrapped.trans hname⟩
  | paren inner => cases h
  | group inner => cases h
  | _ => simp [unwrapped, IsResult]

/-- Without its parentheses, a type is a result if it is one inside those around it. -/
theorem isResult_unwrapped (t : TypeExpr) : t.unwrapped.IsResult ↔ t.core.IsResult := by
  rw [← unwrapped_core, isResult_unwrapped_of_not_wrapped t.isWrapped_core]

/-- A type in parentheses is taken for none. -/
theorem fallible?_of_wrapped {t : TypeExpr} (h : t.isWrapped = true) :
    t.fallible? = some false := by
  cases t with
  | paren inner => rfl
  | group inner => rfl
  | _ => cases h

/-- **A type hides in parentheses what kind of method returns it**: it is a result in
    parentheses, or a result whose error type hides in a box. -/
inductive Hides : TypeExpr → Prop where
  | wrapped {t : TypeExpr} (wrapped : t.isWrapped = true) (result : t.core.IsResult) : Hides t
  | boxed {of? : Option TypeExpr} {leading : Bool} {segments : List Segment} {last : Segment}
      {e : TypeExpr} (ends : segments.getLast? = some last) (result : last.name = "Result")
      (error : ErrorHides segments last e) : Hides (.path of? leading segments)

/-- A result in parentheses is taken for none, one with a box for a result. -/
theorem fallible?_of_hides {t : TypeExpr} (h : t.Hides) : t.fallible? = some (!t.isWrapped) := by
  cases h with
  | wrapped hwrapped hresult => rw [fallible?_of_wrapped hwrapped, hwrapped, Bool.not_true]
  | boxed hlast hname herror => exact fallible?_of_accepted hlast hname herror.accepted

/-- Without its parentheses, such a type has another answer. -/
theorem fallible?_unwrapped_of_hides {t : TypeExpr} (h : t.Hides) :
    t.unwrapped.fallible? ≠ t.fallible? := by
  cases h with
  | wrapped hwrapped hresult =>
      rw [fallible?_of_wrapped hwrapped, Ne, fallible?_eq_false_iff, not_not, isResult_unwrapped]
      exact hresult
  | @boxed of? leading segments last e hlast hname herror =>
      have hlast' := getLast?_unwrapped_of_eq hlast
      rw [fallible?_of_accepted hlast hname herror.accepted, unwrapped,
        fallible?_of_refused hlast' (last.name_unwrapped.trans hname)
          (refusesError_unwrapped_iff.mpr (.inr ⟨e, herror⟩))]
      exact (Option.some_ne_none true).symm

/-- A result with one more type, that of its errors. -/
def resultOr (error : TypeExpr) : TypeExpr :=
  .path none false [.mk "Result" (some [.type (.path none false [.mk "i32" none]), .type error])]

example :
    let inBox := resultOr
      (.path none false [.mk "Box" (some [.type (.paren (.dynamic [.mk "Error" none]))])])
    inBox.fallible? = some true ∧ inBox.unwrapped.fallible? = none := by
  decide

/-- Any other type has the same. -/
theorem fallible?_unwrapped_of_not_hides {t : TypeExpr} (h : ¬ t.Hides) :
    t.unwrapped.fallible? = t.fallible? := by
  by_cases hresult : t.IsResult
  · obtain ⟨of?, leading, segments, last, rfl, hlast, hname⟩ := hresult
    have hlast' := getLast?_unwrapped_of_eq hlast
    have hname' : last.unwrapped.name = "Result" := last.name_unwrapped.trans hname
    rw [unwrapped]
    by_cases hrefuses : RefusesError segments last
    · rw [fallible?_of_refused hlast hname hrefuses, fallible?_of_refused hlast' hname'
        (refusesError_unwrapped_iff.mpr (.inl hrefuses))]
    · rw [fallible?_of_accepted hlast hname hrefuses, fallible?_of_accepted hlast' hname']
      rw [refusesError_unwrapped_iff, not_or]
      exact ⟨hrefuses, fun ⟨_, herror⟩ => h (.boxed hlast hname herror)⟩
  · rw [fallible?_eq_false_iff.mpr hresult, fallible?_eq_false_iff]
    cases hwrapped : t.isWrapped with
    | true => exact fun hunwrapped => h (.wrapped hwrapped ((isResult_unwrapped t).mp hunwrapped))
    | false => rwa [isResult_unwrapped_of_not_wrapped hwrapped]

end TypeExpr

/-! ## 6. Methods -/

namespace Declaration

/-- A method whose types have no parentheses. -/
def unwrapped (d : Declaration) : Declaration :=
  { d with params := d.params.map TypeExpr.unwrapped, result? := d.result?.map TypeExpr.unwrapped }

/-- **A method hides its kind**: it is published, with a result that hides it. -/
structure Hides (d : Declaration) (options : List MethodOption) (t : TypeExpr) : Prop where
  gives : d.Gives options
  offered : d.Offered options
  owned : d.borrowed? = none
  result : d.result? = some t
  hides : t.Hides

variable {d : Declaration} {options : List MethodOption} {t : TypeExpr}

theorem borrowed?_unwrapped (d : Declaration) : d.unwrapped.borrowed? = d.borrowed? := by
  have hborrows : TypeExpr.borrows ∘ TypeExpr.unwrapped = TypeExpr.borrows :=
    funext TypeExpr.borrows_unwrapped
  have hresult : (d.result?.map TypeExpr.unwrapped).any TypeExpr.borrows =
      d.result?.any TypeExpr.borrows := by
    cases d.result? with
    | none => rfl
    | some t => exact t.borrows_unwrapped
  unfold borrowed? unwrapped
  rw [List.any_map, hborrows, hresult]

/-- Whether a method is to be published does not depend on its types. -/
theorem offered_unwrapped : d.unwrapped.Offered options ↔ d.Offered options := by
  rw [offered_iff, offered_iff]
  exact Iff.rfl

/-- The kind of a method is asked for only if none of its types borrows. -/
theorem registration_unwrapped
    (h : d.borrowed? = none → d.unwrapped.fallible = d.fallible) (rename? : Option String) :
    d.unwrapped.registration rename? = d.registration rename? := by
  unfold registration
  rw [borrowed?_unwrapped]
  cases howned : d.borrowed? with
  | some e => rfl
  | none =>
      rw [h howned]
      rfl

/-- A method that hides its kind is registered as if its result were what it looks like. -/
theorem Hides.register (h : d.Hides options t) : d.register =
    .ok (some ⟨!t.isWrapped, (lastRename? options).getD d.name, d.name⟩) := by
  rw [register_of_offered h.gives h.offered, registration, h.owned, fallible, h.result]
  simp only [TypeExpr.fallible?_of_hides h.hides]
  rfl

/-- Without its parentheses, it is registered otherwise or refused. -/
theorem Hides.register_unwrapped (h : d.Hides options t) :
    d.unwrapped.register ≠ d.register := by
  have hgives : d.unwrapped.Gives options := h.gives
  have hoffered : d.unwrapped.Offered options := offered_unwrapped.mpr h.offered
  have hresult : d.unwrapped.result? = some t.unwrapped := by
    rw [unwrapped, h.result]
    rfl
  have hchanged := TypeExpr.fallible?_unwrapped_of_hides h.hides
  rw [TypeExpr.fallible?_of_hides h.hides] at hchanged
  rw [h.register, register_of_offered hgives hoffered, registration, borrowed?_unwrapped, h.owned,
    fallible, hresult]
  cases hkind : t.unwrapped.fallible? with
  | none => simp [hkind, Except.map]
  | some b =>
      intro heq
      simp only [hkind, Except.map, Except.ok.injEq, Option.some.injEq, Registration.mk.injEq]
        at heq
      exact hchanged (hkind.trans (congrArg some heq.1))

/-- Any other method is registered the same. -/
theorem register_unwrapped_of_not_hides (h : ∀ options t, ¬ d.Hides options t) :
    d.unwrapped.register = d.register := by
  by_cases hgives : ∃ options, d.Gives options
  · obtain ⟨options, hgives⟩ := hgives
    have hgives' : d.unwrapped.Gives options := hgives
    by_cases hoffered : d.Offered options
    · have hfallible : d.borrowed? = none → d.unwrapped.fallible = d.fallible := by
        intro howned
        unfold fallible unwrapped
        cases hresult : d.result? with
        | none => rfl
        | some t =>
            have hkind := TypeExpr.fallible?_unwrapped_of_not_hides fun hhides =>
              h options t ⟨hgives, hoffered, howned, hresult, hhides⟩
            simp only [Option.map_some, hkind]
      rw [register_of_offered hgives hoffered,
        register_of_offered hgives' (offered_unwrapped.mpr hoffered),
        registration_unwrapped hfallible]
    · rw [register_of_not_offered hgives hoffered,
        register_of_not_offered hgives' (mt offered_unwrapped.mp hoffered)]
  · -- the same attributes are refused, and nothing else is looked at
    have hoptions : d.unwrapped.options = d.options := rfl
    unfold register
    rw [hoptions]
    cases ho : d.options with
    | error e => rfl
    | ok o =>
        obtain ⟨options, hgives', _⟩ := options_eq_ok_iff.mp ho
        exact absurd ⟨options, hgives'⟩ hgives

/-- **A method contributes the same without parentheses exactly if it does not hide its kind.** -/
theorem register_unwrapped_iff :
    d.unwrapped.register = d.register ↔ ∀ options t, ¬ d.Hides options t := by
  constructor
  · intro h options t hhides
    exact hhides.register_unwrapped h
  · exact register_unwrapped_of_not_hides

/-- Whether a method is registered at all does not depend on parentheses, if it is not refused. -/
theorem isSome_register_unwrapped {r r' : Option Registration} (h : d.register = .ok r)
    (h' : d.unwrapped.register = .ok r') : r'.isSome = r.isSome := by
  have hoptions : d.unwrapped.options = d.options := rfl
  have hpublished : d.unwrapped.isPublished = d.isPublished := rfl
  unfold register at h h'
  rw [hoptions, hpublished] at h'
  obtain ⟨o, ho, h⟩ := bind_eq_ok_iff.mp h
  obtain ⟨o', ho', h'⟩ := bind_eq_ok_iff.mp h'
  cases ho.symm.trans ho'
  by_cases hout : (o.skip || !d.isPublished) = true
  · rw [if_pos hout] at h h'
    cases h
    cases h'
    rfl
  · rw [if_neg hout] at h h'
    obtain ⟨_, _, rfl⟩ := map_eq_ok_iff.mp h
    obtain ⟨_, _, rfl⟩ := map_eq_ok_iff.mp h'
    rfl

end Declaration

/-! ## 7. Blocks -/

/-- An item whose types have no parentheses. -/
def Item.unwrapped : Item → Item
  | method d => .method d.unwrapped
  | other => .other

/-- A block whose methods have no parentheses in their types. -/
def Block.unwrapped (b : Block) : Block :=
  b.withItems (b.items.map Item.unwrapped)

/-- **No method of a block hides its kind.** -/
def Block.Plain (b : Block) : Prop :=
  ∀ d options t, .method d ∈ b.items → ¬ d.Hides options t

theorem Item.kept?_unwrapped : ∀ item : Item, item.unwrapped.kept? = item.kept?
  | method _ => rfl
  | other => rfl

/-- Items that contribute the same one by one contribute the same together. -/
theorem registrations_map {f : Item → Item} : ∀ {items : List Item},
    (∀ item ∈ items, (f item).register = item.register) →
      registrations (items.map f) = registrations items
  | [], _ => rfl
  | item :: rest, h => by
      rw [List.map_cons, registrations, registrations, h item List.mem_cons_self,
        registrations_map fun item' hmem => h item' (List.mem_cons_of_mem item hmem)]

/-- What the first item contributes, and what the others do, if each contributes as much. -/
theorem toList_append_inj {r r' : Option Registration} {rs rs' : List Registration}
    (hsize : r'.isSome = r.isSome) (h : r'.toList ++ rs' = r.toList ++ rs) :
    r' = r ∧ rs' = rs := by
  cases r with
  | none =>
      cases r' with
      | none => exact ⟨rfl, h⟩
      | some a' => cases hsize
  | some a =>
      cases r' with
      | none => cases hsize
      | some a' =>
          obtain ⟨rfl, hrest⟩ := List.cons.inj h
          exact ⟨rfl, hrest⟩

/-- Conversely, items that contribute the same together contribute the same one by one, if none of
    them comes to contribute more or less. -/
theorem register_of_registrations_map {f : Item → Item} : ∀ {items : List Item}
    {rs : List Registration},
    (∀ item ∈ items, ∀ r r', item.register = .ok r → (f item).register = .ok r' →
      r'.isSome = r.isSome) →
    registrations items = .ok rs → registrations (items.map f) = .ok rs →
      ∀ item ∈ items, (f item).register = item.register
  | [], _, _, _, _ => fun _ hmem => absurd hmem List.not_mem_nil
  | first :: rest, rs, hsize, h, h' => by
      rw [registrations] at h
      rw [List.map_cons, registrations] at h'
      obtain ⟨r, hr, h⟩ := bind_eq_ok_iff.mp h
      obtain ⟨r', hr', h'⟩ := bind_eq_ok_iff.mp h'
      obtain ⟨more, hmore, heq⟩ := map_eq_ok_iff.mp h
      obtain ⟨more', hmore', heq'⟩ := map_eq_ok_iff.mp h'
      obtain ⟨hsame, hrest⟩ := toList_append_inj (hsize first List.mem_cons_self r r' hr hr')
        (heq'.trans heq.symm)
      rw [hrest] at hmore'
      intro item hmem
      rcases List.mem_cons.mp hmem with rfl | hmem
      · rw [hr, hr', hsame]
      · exact register_of_registrations_map
          (fun item' hmem' => hsize item' (List.mem_cons_of_mem first hmem')) hmore hmore' item hmem

namespace Block

variable {b : Block}

/-- No method hides its kind exactly if every item contributes the same without parentheses. -/
theorem plain_iff : b.Plain ↔ ∀ item ∈ b.items, item.unwrapped.register = item.register := by
  constructor
  · rintro hplain (d | _) hmem
    · exact Declaration.register_unwrapped_iff.mpr fun options t => hplain d options t hmem
    · rfl
  · intro h d options t hmem
    exact Declaration.register_unwrapped_iff.mp (h (.method d) hmem) options t

theorem publish_unwrapped_eq (clauses : List Clause) : b.unwrapped.publish clauses =
    (b.header clauses).bind fun home =>
      (registrations (b.items.map Item.unwrapped)).map fun rs =>
        ⟨home, rs, b.items.map Item.kept?⟩ := by
  have hkept : (b.items.map Item.unwrapped).map Item.kept? = b.items.map Item.kept? := by
    rw [List.map_map]
    exact List.map_congr_left fun item _ => item.kept?_unwrapped
  rw [unwrapped, publish_withItems, hkept]

theorem Plain.publish_unwrapped (h : b.Plain) (clauses : List Clause) :
    b.unwrapped.publish clauses = b.publish clauses := by
  rw [publish_unwrapped_eq, publish_eq, registrations_map (plain_iff.mp h)]

/-- **A block that is published is published the same without parentheses exactly if no method
    hides its kind.** -/
theorem publish_unwrapped_iff {clauses : List Clause} {p : Publication}
    (h : b.publish clauses = .ok p) : b.unwrapped.publish clauses = .ok p ↔ b.Plain := by
  constructor
  · intro h'
    rw [publish_eq] at h
    rw [publish_unwrapped_eq] at h'
    obtain ⟨home, hhome, h⟩ := bind_eq_ok_iff.mp h
    obtain ⟨home', _, h'⟩ := bind_eq_ok_iff.mp h'
    obtain ⟨rs, hrs, rfl⟩ := map_eq_ok_iff.mp h
    obtain ⟨rs', hrs', heq⟩ := map_eq_ok_iff.mp h'
    cases heq
    refine plain_iff.mpr (register_of_registrations_map ?_ hrs hrs')
    rintro (d | _) _ r r' hr hr'
    · exact Declaration.isSome_register_unwrapped hr hr'
    · cases hr
      cases hr'
      rfl
  · intro hplain
    rw [hplain.publish_unwrapped, h]

end Block

/-! ## 8. What parentheses decide -/

/-- What a block publishes does not depend on parentheses around types. -/
def WrappingIrrelevant : Prop :=
  ∀ (b b' : Block) (clauses : List Clause), b.unwrapped = b'.unwrapped →
    b.publish clauses = b'.publish clauses

/-- A block with one method, which divides, by the type of its result. -/
def dividing (result : TypeExpr) : Block where
  trait? := none
  generics := []
  self := .path none false [.mk "Target" none]
  items := [.method
    { name := "div", visibility := .everyone, isAsync := false, isUnsafe := false, generics := []
      receiver? := some ⟨true, false, false⟩
      params := List.replicate 2 (.path none false [.mk "i32" none])
      result? := some result, attributes := [] }]

/-- The result of a division. -/
def quotient : TypeExpr :=
  .resultOr (.path none false [.mk "DivideByZero" none])

/-- **What is published does depend on parentheses**: around its result they make a method that
    fails one that does not. -/
theorem not_wrappingIrrelevant : ¬ WrappingIrrelevant := by
  intro h
  have hpublished := congrArg (Except.map Publication.registrations)
    (h (dividing quotient) (dividing (.group quotient)) [] rfl)
  have hbare : ((dividing quotient).publish []).map Publication.registrations =
      .ok [⟨true, "div", "div"⟩] := rfl
  have hgroup : ((dividing (.group quotient)).publish []).map Publication.registrations =
      .ok [⟨false, "div", "div"⟩] := rfl
  rw [hbare, hgroup] at hpublished
  cases hpublished

/-- **Parentheses matter where they hide the kind of a method, and nowhere else.** -/
structure WrappingMatters (b : Block) (clauses : List Clause) : Prop where
  /-- A method contributes the same without parentheses exactly if it does not hide its kind. -/
  method : ∀ d, .method d ∈ b.items →
    (d.unwrapped.register = d.register ↔ ∀ options t, ¬ d.Hides options t)
  /-- One that does is registered as the kind that its result looks like. -/
  hidden : ∀ d options t, .method d ∈ b.items → d.Hides options t →
    d.register = .ok (some ⟨!t.isWrapped, (lastRename? options).getD d.name, d.name⟩)
  /-- A block that is published is published the same without parentheses exactly if no method
      hides its kind. -/
  published : ∀ p, b.publish clauses = .ok p → (b.unwrapped.publish clauses = .ok p ↔ b.Plain)
  /-- Blocks that are the same up to parentheses, at any depth of any type, are published or
      refused the same if no method hides its kind. -/
  plain : ∀ b' : Block, b.unwrapped = b'.unwrapped → b.Plain → b'.Plain →
    b.publish clauses = b'.publish clauses

/-- **Parentheses matter where they hide the kind of a method, and nowhere else**, in every block
    under every attribute. -/
theorem wrapping_matters_where_hidden (b : Block) (clauses : List Clause) :
    WrappingMatters b clauses where
  method _ _ := Declaration.register_unwrapped_iff
  hidden _ _ _ _ hhides := hhides.register
  published _ h := Block.publish_unwrapped_iff h
  plain b' hsame hplain hplain' := by
    calc b.publish clauses = b.unwrapped.publish clauses := (hplain.publish_unwrapped clauses).symm
      _ = b'.unwrapped.publish clauses := by rw [hsame]
      _ = b'.publish clauses := hplain'.publish_unwrapped clauses

end Structural.Publish
