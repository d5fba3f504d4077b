import Structural.Publish.Token

/-!
# Options of an attribute

An attribute holds clauses with commas between them, a comma after the last one allowed. A clause
starts with a path; what may follow depends on the path.

* `Clause` -- a clause as it is given, `Clause.tokens` its tokens;
* `Refusal` -- why a block of methods is refused, here and in its methods;
* `readClauses` -- **the clauses read from tokens**, one by one onto a state;
* `MethodOptions`, `homePath` -- the options of a method and of a block. Of an option given
  twice, the last one counts.
-/

namespace Structural.Publish

/-! ## 1. Refusals -/

/-- What stands where something else was expected. -/
inductive Found where
  | ending
  | keyword (word : String)
  | other
deriving DecidableEq, Repr

/-- **Why a block is refused.** -/
inductive Refusal where
  /-- The block implements a trait. -/
  | traitBlock
  | genericBlock
  | borrowedArgument
  | borrowedResult
  /-- The error type of a result is visibly no error type. -/
  | noErrorType
  | unknownBlockOption
  | unknownMethodOption
  /-- The attribute of a method has no parentheses. -/
  | bareAttribute
  /-- The attribute of a method has a value in place of parentheses. -/
  | attributeValue
  | expectedSign (sign : String)
  | expectedText (found : Found)
  | expectedName (found : Found)
  /-- A clause does not start with a path. -/
  | expectedClause (ending literal : Bool)
  | expectedPathName (ending : Bool)
deriving DecidableEq, Repr

namespace Refusal

/-- A sentence, with a remark in front if the tokens have ended. -/
def atEnding (ending : Bool) (sentence : String) : String :=
  if ending then "unexpected end of input, " ++ sentence else sentence

/-- The sentence that reports a refusal. -/
def message : Refusal → String
  | traitBlock => "#[reflect] goes on an inherent impl block, not a trait impl"
  | genericBlock => "#[reflect] does not support generic impl blocks"
  | borrowedArgument =>
    "#[reflect] methods must take owned arguments; use #[reflect(skip)] to exclude this method"
  | borrowedResult =>
    "#[reflect] methods must return owned values; use #[reflect(skip)] to exclude this method"
  | noErrorType =>
    "#[reflect] methods returning `Result` need an error type implementing "
      ++ "`std::error::Error + Send + Sync + 'static`; use #[reflect(skip)] to exclude this method"
  | unknownBlockOption => "unsupported #[reflect] option, expected `crate = path`"
  | unknownMethodOption => "expected `skip` or `rename = \"...\"`"
  | bareAttribute => "expected attribute arguments in parentheses: #[reflect(...)]"
  | attributeValue => "expected parentheses: #[reflect(...)]"
  | expectedSign sign => "expected `" ++ sign ++ "`"
  | expectedText found => atEnding (found = .ending) "expected string literal"
  | expectedName (.keyword word) => "expected identifier, found keyword `" ++ word ++ "`"
  | expectedName found => atEnding (found = .ending) "expected identifier"
  | expectedClause true _ => atEnding true "expected nested attribute"
  | expectedClause false true => "unexpected literal in nested attribute, expected ident"
  | expectedClause false false => "unexpected token in nested attribute, expected ident"
  | expectedPathName ending => atEnding ending "expected ident"

end Refusal

/-! ## 2. Clauses -/

/-- What follows the path of a clause. -/
inductive ClauseRest where
  | nothing
  /-- An equals sign and a text. -/
  | text (value : String)
  /-- An equals sign and anything. -/
  | value (source : String)
  /-- Anything between parentheses. -/
  | list (source : String)
deriving DecidableEq, Repr

/-- **A clause as it is given.** -/
structure Clause where
  path : String
  rest : ClauseRest
deriving DecidableEq, Repr

/-- The tokens after the path of a clause. -/
def ClauseRest.tokens : ClauseRest → List Token
  | nothing => []
  | text s => [.sign "=", .text s]
  | value s => .sign "=" :: Token.ofSource s
  | list s => .sign "(" :: Token.ofSource s ++ [.sign ")"]

/-- The tokens of a clause. -/
def Clause.tokens (c : Clause) : List Token :=
  Token.ofSource c.path ++ c.rest.tokens

/-- The tokens of clauses with commas between them. -/
def clauseTokens (clauses : List Clause) : List Token :=
  List.intercalate [.sign ","] (clauses.map Clause.tokens)

/-- What reads a part of the tokens. -/
abbrev TokenReader (α : Type) := List Token → Except Refusal (α × List Token)

/-- The path that a clause starts with. -/
structure ClausePath where
  leading : Bool
  names : List String
deriving DecidableEq, Repr

/-- Whether a path is one name. -/
def ClausePath.isName (p : ClausePath) (name : String) : Bool :=
  !p.leading && p.names = [name]

/-- The names after the first one of a path. -/
def moreNames : List Token → Except Refusal (List String × List Token)
  | .sign "::" :: .name n :: rest => (moreNames rest).map fun (ns, rest) => (n :: ns, rest)
  | .sign "::" :: rest => .error (.expectedPathName rest.isEmpty)
  | tokens => .ok ([], tokens)

/-- The names of a path. -/
def pathNames : TokenReader (List String)
  | .name n :: rest => (moreNames rest).map fun (ns, rest) => (n :: ns, rest)
  | [] => .error (.expectedClause true false)
  | .text _ :: _ => .error (.expectedClause false true)
  | .literal _ :: _ => .error (.expectedClause false true)
  | _ => .error (.expectedClause false false)

/-- The path that a clause starts with. -/
def clausePath : TokenReader ClausePath
  | .sign "::" :: rest => (pathNames rest).map fun (ns, rest) => (⟨true, ns⟩, rest)
  | tokens => (pathNames tokens).map fun (ns, rest) => (⟨false, ns⟩, rest)

/-- The equals sign before a value. -/
def equalsSign : List Token → Except Refusal (List Token)
  | .sign "=" :: rest => .ok rest
  | _ => .error (.expectedSign "=")

/-- One or more clauses, at most so many. -/
def readSome {σ : Type} (clause : σ → ClausePath → TokenReader σ) :
    Nat → σ → List Token → Except Refusal σ
  | 0, state, _ => .ok state
  | rounds + 1, state, tokens =>
    (clausePath tokens).bind fun (path, rest) =>
      (clause state path rest).bind fun (state, rest) =>
        match rest with
        | [] => .ok state
        | [.sign ","] => .ok state
        | .sign "," :: rest => readSome clause rounds state rest
        | _ => .error (.expectedSign ",")

/-- **The clauses read from tokens**, one by one onto a state. Every clause takes a token, so their
    number is bounded by that of the tokens. -/
def readClauses {σ : Type} (clause : σ → ClausePath → TokenReader σ) (state : σ)
    (tokens : List Token) : Except Refusal σ :=
  if tokens = [] then .ok state else readSome clause tokens.length state tokens

/-- No tokens, no change. -/
theorem readClauses_nil {σ : Type} (clause : σ → ClausePath → TokenReader σ) (state : σ) :
    readClauses clause state [] = .ok state := rfl

/-! ## 3. Options of a method -/

/-- **The options of a method**: not to be published, or under another name. -/
structure MethodOptions where
  skip : Bool
  rename? : Option String
deriving DecidableEq, Repr

namespace MethodOptions

/-- No options. -/
def unset : MethodOptions := ⟨false, none⟩

/-- A text between quotes. -/
def textValue : TokenReader String
  | .text value :: rest => .ok (value, rest)
  | [] => .error (.expectedText .ending)
  | _ => .error (.expectedText .other)

/-- One clause of a method's attribute. -/
def clause (o : MethodOptions) (path : ClausePath) : TokenReader MethodOptions := fun tokens =>
  if path.isName "skip" then .ok ({ o with skip := true }, tokens)
  else if path.isName "rename" then
    (equalsSign tokens).bind fun rest =>
      (textValue rest).map fun (name, rest) => ({ o with rename? := some name }, rest)
  else .error .unknownMethodOption

/-- The options of one more attribute of a method. -/
def read (o : MethodOptions) (tokens : List Token) : Except Refusal MethodOptions :=
  readClauses clause o tokens

end MethodOptions

/-! ## 4. Options of a block -/

/-- The keywords that may stand in a path, without arguments. -/
def pathKeywords : List String := ["super", "self", "crate"]

/-- The keywords that are no names. -/
def keywords : List String :=
  ["_", "abstract", "as", "async", "await", "become", "box", "break", "const", "continue", "do",
   "dyn", "else", "enum", "extern", "false", "final", "fn", "for", "if", "impl", "in", "let",
   "loop", "macro", "match", "mod", "move", "mut", "override", "priv", "pub", "ref", "return",
   "static", "struct", "trait", "true", "try", "type", "typeof", "unsafe", "unsized", "use",
   "virtual", "where", "while", "yield"]

/-- The tokens up to the angle bracket that closes the open ones, if it comes. -/
def closeAngles : Nat → List Token → Option (List Token × List Token)
  | _, [] => none
  | depth, token :: rest =>
    let more (d : Nat) := (closeAngles d rest).map fun (inner, after) => (token :: inner, after)
    if token = .sign "<" then more (depth + 1)
    else if token = .sign ">" then
      if depth ≤ 1 then some ([token], rest) else more (depth - 1)
    else more depth

/-- The generic arguments after a name: an angle bracket, after a double colon or at once, up to
    the one that closes it. -/
def angleArgs : List Token → List Token × List Token
  | .sign "<" :: rest =>
    match closeAngles 1 rest with
    | some (inner, after) => (.sign "<" :: inner, after)
    | none => ([], .sign "<" :: rest)
  | .sign "::" :: .sign "<" :: rest =>
    match closeAngles 1 rest with
    | some (inner, after) => (.sign "::" :: .sign "<" :: inner, after)
    | none => ([], .sign "::" :: .sign "<" :: rest)
  | tokens => ([], tokens)

/-- One segment of a path, as its tokens. -/
def pathSegment : TokenReader (List Token)
  | .name n :: rest =>
    if n ∈ pathKeywords then .ok ([.name n], rest)
    else if n ∈ keywords then .error (.expectedName (.keyword n))
    else
      let (args, after) := angleArgs rest
      .ok (.name n :: args, after)
  | [] => .error (.expectedName .ending)
  | _ => .error (.expectedName .other)

/-- Whether a double colon before these tokens is no part of a path. -/
def endsPath : List Token → Bool
  | .sign s :: _ => s = "(" || s = "*"
  | _ => false

/-- The segments after the first one, at most so many. -/
def moreSegments : Nat → TokenReader (List Token)
  | rounds + 1, .sign "::" :: rest =>
    if endsPath rest then .ok ([], .sign "::" :: rest)
    else
      (pathSegment rest).bind fun (segment, rest) =>
        (moreSegments rounds rest).map fun (more, rest) => (.sign "::" :: segment ++ more, rest)
  | _, tokens => .ok ([], tokens)

/-- Segments with double colons between them. -/
def pathSegments : TokenReader (List Token) := fun tokens =>
  (pathSegment tokens).bind fun (first, rest) =>
    (moreSegments rest.length rest).map fun (more, rest) => (first ++ more, rest)

/-- **A path**, as its tokens. -/
def path : TokenReader (List Token)
  | .sign "::" :: rest => (pathSegments rest).map fun (tokens, rest) => (.sign "::" :: tokens, rest)
  | tokens => pathSegments tokens

/-- The path where a block looks for what it needs, if its attribute says nothing. -/
def defaultPath : List Token := [.sign "::", .name "graft_runtime"]

/-- One clause of a block's attribute. -/
def blockClause (_ : List Token) (p : ClausePath) : TokenReader (List Token) := fun tokens =>
  if p.isName "crate" then (equalsSign tokens).bind path
  else .error .unknownBlockOption

/-- **The path that a block's attribute gives.** -/
def homePath (tokens : List Token) : Except Refusal (List Token) :=
  readClauses blockClause defaultPath tokens

end Structural.Publish
