import Structural.Demo.Request
import Structural.Text.Numeral

/-!
# Arguments of the command line

A command and its arguments, with the option `--config` before the command or after it, at most
once in each place; the one after the command counts. After the word `--` all words are arguments.

* a word is an *option word* if it starts with a minus and goes on. Such a word is refused unless
  it is the option, or looks like a negative number where one is expected;
* `Invocation.ofArguments?` -- **the invocation that the words write**, if they write one.
-/

namespace Structural.CommandLine

open Demo (Request)

/-! ## 1. Words -/

/-- Whether a word starts with a minus and goes on. -/
def isOptionWord (w : String) : Bool :=
  match w.toList with
  | '-' :: _ :: _ => true
  | _ => false

/-- Whether the rest of a numeral is digits, with at most one point before an exponent that is not
    empty. -/
def isNumeralTail (seenPoint : Bool) : List Char → Bool
  | [] => true
  | '.' :: rest => !seenPoint && isNumeralTail true rest
  | 'e' :: rest => rest ≠ [] && rest.all Char.isDigit
  | c :: rest => c.isDigit && isNumeralTail seenPoint rest

/-- Whether a word looks like a negative number. -/
def looksNegative (w : String) : Bool :=
  match w.toList with
  | '-' :: c :: rest => c.isDigit && isNumeralTail false rest
  | _ => false

/-- Whether a word can be a value, where a negative number may be expected. -/
def isValue (negative : Bool) (w : String) : Bool :=
  !isOptionWord w || (negative && looksNegative w)

/-- The value that is written in one word with the option. -/
def attached? (w : String) : Option String :=
  let cs := w.toList
  let mark := "--config=".toList
  if mark.isPrefixOf cs then some (String.ofList (cs.drop mark.length)) else none

/-- An option value, the first in its place and not empty. -/
def setOnce (config : Option String) (value : String) : Option (Option String) :=
  if config.isNone ∧ value ≠ "" then some (some value) else none

/-! ## 2. After the command -/

/-- What stands after a command: the value of the option, and the arguments. -/
structure Operands where
  config : Option String
  words : List String

/-- The words after a command, read onto what was read before. Where the argument at a position may
    be a negative number, `negatives` says so. -/
def readOperands (negatives : Nat → Bool) : Operands → List String → Option Operands
  | sofar, [] => some sofar
  | sofar, "--" :: rest => some { sofar with words := sofar.words ++ rest }
  | _, ["--config"] => none
  | sofar, "--config" :: value :: rest =>
    if isValue (negatives sofar.words.length) value then
      (setOnce sofar.config value).bind fun config =>
        readOperands negatives { sofar with config := config } rest
    else none
  | sofar, w :: rest =>
    match attached? w with
    | some value =>
      (setOnce sofar.config value).bind fun config =>
        readOperands negatives { sofar with config := config } rest
    | none =>
      if isValue (negatives sofar.words.length) w then
        readOperands negatives { sofar with words := sofar.words ++ [w] } rest
      else none

/-! ## 3. Commands -/

/-- The commands. -/
inductive Verb where
  | run
  | call
  | inspect
deriving DecidableEq, Repr

namespace Verb

/-- The command that a word names. -/
def ofWord? : String → Option Verb
  | "run" => some run
  | "call" => some call
  | "inspect" => some inspect
  | _ => none

/-- Whether the argument at a position may be a negative number. -/
def negatives : Verb → Nat → Bool
  | run, k => k < 2
  | call, k => 1 ≤ k && k < 3
  | inspect, _ => false

/-- A number of 32 bits. -/
def number? (w : String) : Option (BitVec 32) :=
  match Text.readInt .signed32 w.toList with
  | .ok n => some (BitVec.ofInt 32 n)
  | .error _ => none

/-- The request of a command with its arguments. What is left out has its default. -/
def request? : Verb → List String → Option Request
  | run, [] => some (.run 5 6)
  | run, [a] => (number? a).map fun a => .run a 6
  | run, [a, b] => (number? a).bind fun a => (number? b).map fun b => .run a b
  | call, [method, a, b] =>
    (number? a).bind fun a => (number? b).map fun b => .call method a b
  | inspect, [] => some (.inspect ["add"])
  | inspect, methods => some (.inspect methods)
  | _, _ => none

end Verb

/-! ## 4. Invocations -/

/-- **What is to be done**, and with which configuration file. -/
structure Invocation where
  config : Option String
  request : Request
deriving DecidableEq, Repr

namespace Invocation

/-- An invocation from what stands before the command, the command, and the words after it. -/
def ofVerb? (config : Option String) (verb : Verb) (words : List String) : Option Invocation :=
  (readOperands verb.negatives ⟨none, []⟩ words).bind fun operands =>
    (verb.request? operands.words).map fun request =>
      ⟨operands.config.or config, request⟩

/-- The words from before the command on. -/
def read (config : Option String) : List String → Option Invocation
  | [] => none
  | ["--config"] => none
  | "--config" :: value :: rest =>
    if isValue false value then (setOnce config value).bind fun config => read config rest
    else none
  | w :: rest =>
    match attached? w with
    | some value => (setOnce config value).bind fun config => read config rest
    | none => (Verb.ofWord? w).bind fun verb => ofVerb? config verb rest

/-- **The invocation that the words write.** -/
def ofArguments? (words : List String) : Option Invocation :=
  read none words

end Invocation

end Structural.CommandLine
