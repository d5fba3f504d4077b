/-!
# Levels and filters of a log

* `Level` -- how much an event matters;
* `Threshold` -- the least level that passes, or none;
* `Directive` -- a threshold for the events whose origin starts with a text;
* `Filter.ofText?` -- **directives separated by commas**, each a threshold, an origin or
  `origin=threshold`. An origin alone lets everything pass;
* `Filter.passes` -- **whether an event passes**: the directive with the longest origin that fits
  decides, the last of several; where none fits, nothing passes.
-/

namespace Structural.Log

/-! ## 1. Levels -/

/-- **How much an event matters**, the most first. -/
inductive Level where
  | error
  | warn
  | info
  | debug
  | trace
deriving DecidableEq, Repr

namespace Level

/-- Levels that matter less have greater ranks. -/
def rank : Level → Nat
  | error => 1
  | warn => 2
  | info => 3
  | debug => 4
  | trace => 5

/-- The word for a level, five characters wide. -/
def word : Level → String
  | error => "ERROR"
  | warn => " WARN"
  | info => " INFO"
  | debug => "DEBUG"
  | trace => "TRACE"

end Level

/-- The least level that passes; `none` lets nothing pass. -/
abbrev Threshold := Option Level

namespace Threshold

/-- Whether a level passes. -/
def passes (t : Threshold) (l : Level) : Bool :=
  match t with
  | none => false
  | some least => l.rank ≤ least.rank

/-- The words and digits for thresholds. -/
def words : List (String × Threshold) :=
  [("off", none), ("0", none), ("error", some .error), ("1", some .error),
   ("warn", some .warn), ("2", some .warn), ("info", some .info), ("3", some .info),
   ("debug", some .debug), ("4", some .debug), ("trace", some .trace), ("5", some .trace)]

/-- The threshold that a text names, in letters of either case. -/
def ofText? (s : String) : Option Threshold :=
  words.lookup s.toLower

end Threshold

/-! ## 2. Directives -/

/-- **A threshold for the events whose origin starts with a text.** -/
structure Directive where
  origin : String
  threshold : Threshold
deriving DecidableEq, Repr

namespace Directive

/-- The characters of an origin. -/
def isOriginChar (c : Char) : Bool :=
  c.isAlphanum || c = '_' || c = ':' || c = '-'

/-- An origin, if a text is one. -/
def origin? (cs : List Char) : Option String :=
  if cs ≠ [] ∧ cs.all isOriginChar then some (String.ofList cs) else none

/-- An origin that is the name of a threshold stands for every origin. -/
def effective (origin : String) : String :=
  if (Threshold.ofText? origin).isSome then "" else origin

/-- **A directive read from a text.** -/
def ofText? (s : String) : Option Directive :=
  match Threshold.ofText? s with
  | some t => some ⟨"", t⟩
  | none =>
    let cs := s.toList
    (origin? (cs.takeWhile (· ≠ '='))).bind fun origin =>
      match cs.dropWhile (· ≠ '=') with
      | [] => some ⟨origin, some .trace⟩
      | ['='] => some ⟨effective origin, some .trace⟩
      | _ :: level => (Threshold.ofText? (String.ofList level)).map fun t => ⟨effective origin, t⟩

/-- Whether a directive is about the events of an origin. -/
def fits (d : Directive) (origin : String) : Bool :=
  d.origin.toList.isPrefixOf origin.toList

/-- Of two directives the one with the longer origin, of equally long ones the second. -/
def closer (a b : Directive) : Directive :=
  if b.origin.length < a.origin.length then a else b

end Directive

/-! ## 3. Filters -/

/-- **A filter**: directives, in order. -/
abbrev Filter := List Directive

namespace Filter

/-- The filter that lets warnings and errors pass. -/
def warnings : Filter := [⟨"", some .warn⟩]

/-- The filter that lets errors pass. -/
def errors : Filter := [⟨"", some .error⟩]

/-- **A filter read from a text.** A text without directives lets errors pass. -/
def ofText? (s : String) : Option Filter :=
  (((s.splitOn ",").filter (· ≠ "")).mapM Directive.ofText?).map fun f =>
    if f = [] then errors else f

/-- The filter of a variable: warnings, if it is not set or no filter. -/
def ofVariable (value : Option String) : Filter :=
  (value.bind ofText?).getD warnings

/-- The directive that decides about an origin. -/
def decisive? (f : Filter) (origin : String) : Option Directive :=
  match f.filter (·.fits origin) with
  | [] => none
  | d :: rest => some (rest.foldl Directive.closer d)

/-- **Whether an event passes.** -/
def passes (f : Filter) (level : Level) (origin : String) : Bool :=
  match f.decisive? origin with
  | none => false
  | some d => d.threshold.passes level

/-- A filter without directives lets nothing pass. -/
theorem passes_nil (level : Level) (origin : String) : passes [] level origin = false := rfl

/-- One threshold for every origin. -/
theorem passes_all (t : Threshold) (level : Level) (origin : String) :
    passes [⟨"", t⟩] level origin = t.passes level := by
  simp [passes, decisive?, Directive.fits]

end Filter

end Structural.Log
