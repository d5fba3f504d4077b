/-!
# Short names of types

A full type name is a text such as `a::b::Wrap<c::D>`. Its short form drops the module path in
front: everything up to the last `::` that stands before the first `<`.

* `lastSeparator?` -- where the last `::` of a text begins;
* `shortName` -- the text after the last `::` of its head, the head being what stands before the
  first `<` (`shortChars` on lists of characters);
* `shortChars_of_none` / `shortChars_of_some` -- the two cases of the cut.

The rule does not know brackets: the head of `(i32, alloc::string::String)` is the whole text, so
it shortens to `String)`.
-/

namespace Structural.Text

/-- Where the last `::` of a text begins, if it has one. In `:::` it is the second colon. -/
def lastSeparator? : List Char → Option Nat
  | [] => none
  | c :: rest =>
    match lastSeparator? rest with
    | some n => some (n + 1)
    | none => if c = ':' ∧ rest.head? = some ':' then some 0 else none

/-- The part of a type name before its first `<`. -/
def head (cs : List Char) : List Char :=
  cs.takeWhile (· != '<')

/-- **The short form of a type name**, on characters. -/
def shortChars (cs : List Char) : List Char :=
  match lastSeparator? (head cs) with
  | some n => cs.drop (n + 2)
  | none => cs

/-- **The short form of a type name.** -/
def shortName (full : String) : String :=
  String.ofList (shortChars full.toList)

theorem shortChars_of_none {cs : List Char} (h : lastSeparator? (head cs) = none) :
    shortChars cs = cs := by
  simp [shortChars, h]

theorem shortChars_of_some {cs : List Char} {n : Nat} (h : lastSeparator? (head cs) = some n) :
    shortChars cs = cs.drop (n + 2) := by
  simp [shortChars, h]

/-- A text that begins with `::` has a separator. -/
theorem lastSeparator?_cons_cons (cs : List Char) :
    ∃ n, lastSeparator? (':' :: ':' :: cs) = some n := by
  simp only [lastSeparator?]
  split <;> simp

end Structural.Text
