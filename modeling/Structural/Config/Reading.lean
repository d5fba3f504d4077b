import Structural.Config
import Structural.Data
import Structural.Text.Numeral

/-!
# Configuration from data

A configuration read from a data tree: a table with the members `cache` and `ambiguity`, each
optional, others ignored. Members are read in the order of the document, and the first error ends
the reading.

* the cache policy is a table whose member `policy` names it, with the member `capacity` where the
  policy has one;
* the ambiguity policy is a text, or a table whose one member names it and holds nothing;
* both the configuration and the cache policy may also be lists, their parts by position.
-/

namespace Structural

/-- Why a data tree is no configuration. -/
inductive ConfigError where
  /-- A text names none of the expected policies. -/
  | unknownVariant (found : String) (expected : List String)
  | missingField (name : String)
  /-- A value is of the wrong kind or out of range. -/
  | mismatch
deriving DecidableEq, Repr

namespace ConfigError

/-- Two names, each between back quotes. -/
def alternatives (names : List String) : String :=
  " or ".intercalate (names.map fun n => "`" ++ n ++ "`")

/-- The sentence that reports the error; there is none for a value of the wrong kind. -/
def message? : ConfigError → Option String
  | unknownVariant found expected =>
    some ("unknown variant `" ++ found ++ "`, expected " ++ alternatives expected)
  | missingField name => some ("missing field `" ++ name ++ "`")
  | mismatch => none

end ConfigError

namespace Config

/-- The names of the cache policies. -/
inductive PolicyName where
  | disabled
  | lru
deriving DecidableEq, Repr

/-- The cache policy that a text names. -/
def policyName : Data → Except ConfigError PolicyName
  | .text "disabled" => .ok .disabled
  | .text "lru" => .ok .lru
  | .text other => .error (.unknownVariant other ["disabled", "lru"])
  | _ => .error .mismatch

/-- A capacity: a number of 64 bits without a sign. -/
def capacity : Data → Except ConfigError Nat
  | .int n => if Text.IntRange.size.contains n then .ok n.toNat else .error .mismatch
  | _ => .error .mismatch

/-- A cache policy from its name and the members beside it. -/
def policyOfMembers (members : List (String × Data)) : PolicyName → Except ConfigError CachePolicy
  | .disabled => .ok .disabled
  | .lru =>
    match members.lookup "capacity" with
    | none => .error (.missingField "capacity")
    | some d => (capacity d).map .lru

/-- A cache policy from its name and the parts after it. -/
def policyOfParts : List Data → PolicyName → Except ConfigError CachePolicy
  | [], .disabled => .ok .disabled
  | [d], .lru => (capacity d).map .lru
  | _, _ => .error .mismatch

/-- **The cache policy of a data tree.** -/
def cachePolicy : Data → Except ConfigError CachePolicy
  | .table _ members =>
    match members.lookup "policy" with
    | none => .error (.missingField "policy")
    | some d => (policyName d).bind (policyOfMembers members)
  | .list [] => .error (.missingField "policy")
  | .list (d :: rest) => (policyName d).bind (policyOfParts rest)
  | _ => .error .mismatch

/-- The ambiguity policy with a name. -/
def ambiguityName : String → Except ConfigError Ambiguity
  | "first_match" => .ok .firstMatch
  | "reject" => .ok .reject
  | other => .error (.unknownVariant other ["first_match", "reject"])

/-- Whether a value under the name of a policy holds nothing, as the form of its table says it. -/
def holdsNothing : TableForm → Data → Bool
  | .object, .null => true
  | .inline, .list [] => true
  | .inline, .table _ [] => true
  | .section_, .list [] => true
  | .section_, .table _ [] => true
  | _, _ => false

/-- **The ambiguity policy of a data tree.** In a section only the first member counts. -/
def ambiguityPolicy : Data → Except ConfigError Ambiguity
  | .text name => ambiguityName name
  | .table form ((name, d) :: rest) =>
    if form ≠ .section_ ∧ rest ≠ [] then .error .mismatch
    else (ambiguityName name).bind fun a => if holdsNothing form d then .ok a else .error .mismatch
  | _ => .error .mismatch

/-- The members of a configuration read onto one. -/
def readMembers (c : Config) : List (String × Data) → Except ConfigError Config
  | [] => .ok c
  | ("cache", d) :: rest => (cachePolicy d).bind fun p => readMembers { c with cache := p } rest
  | ("ambiguity", d) :: rest =>
    (ambiguityPolicy d).bind fun a => readMembers { c with ambiguity := a } rest
  | _ :: rest => readMembers c rest

/-- **The configuration of a data tree.** What it leaves out has its default. -/
def ofData : Data → Except ConfigError Config
  | .table _ members => readMembers .default members
  | .list [] => .ok .default
  | .list [d] => (cachePolicy d).map fun p => ⟨p, Config.default.ambiguity⟩
  | .list [d, e] => (cachePolicy d).bind fun p => (ambiguityPolicy e).map fun a => ⟨p, a⟩
  | .list (d :: e :: _ :: _) =>
    (cachePolicy d).bind fun _ => (ambiguityPolicy e).bind fun _ => .error .mismatch
  | _ => .error .mismatch

end Config

end Structural
