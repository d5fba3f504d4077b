import Structural.CommandLine.Arguments
import Structural.Config.Reading
import Structural.Log.Event
import Structural.Toml.Document

/-!
# Outcome of an invocation

An invocation finds its configuration, in a file or in variables, makes a registry and performs
its one request. The registry is new, so the request makes an adapter type.

* `Setting` -- the variables and files around an invocation;
* `Outcome` -- the lines of the log, and the lines of the output or the sentence of the error;
* `Invocation.outcome` -- **what an invocation does**.
-/

namespace Structural.CommandLine

/-- **What is around an invocation.** A file is its text, or the reason why it cannot be read. -/
structure Setting where
  valueOf : String → Option String
  files : String → Except String String

/-- The variable that sets the filter of the log. -/
def filterVariable : String := "RUST_LOG"

/-- **How an invocation ends.** -/
structure Outcome where
  log : List String
  result : Except String (List String)

namespace Outcome

/-- The status that tells success from failure. -/
def status (o : Outcome) : Nat :=
  match o.result with
  | .ok _ => 0
  | .error _ => 1

end Outcome

/-- The status of words that write no invocation. -/
def usageStatus : Nat := 2

/-- The configuration in a file. -/
def configOfFile (setting : Setting) (path : String) : Except String Config :=
  match setting.files path with
  | .error reason => .error ("cannot read " ++ path ++ ": " ++ reason)
  | .ok document =>
    match (Data.ofToml? document).map Config.ofData with
    | some (.ok config) => .ok config
    | _ => .error ("invalid config " ++ path)

namespace Invocation

/-- The configuration of an invocation and the variables ignored. With a file no variable
    counts. -/
def findConfig (i : Invocation) (setting : Setting) : Except String (Config × List Ignored) :=
  match i.config with
  | some path => (configOfFile setting path).map (·, [])
  | none => .ok (Config.default.override setting.valueOf)

/-- **What an invocation does.** -/
def outcome (fingerprint : Interface → UInt64) (i : Invocation) (setting : Setting) : Outcome :=
  let filter := Log.Filter.ofVariable (setting.valueOf filterVariable)
  match i.findConfig setting with
  | .error sentence => ⟨[], .error sentence⟩
  | .ok (config, ignored) =>
    let registry := Registry.empty config
    let events :=
      ignored.map Log.Event.ignored ++ [.configured config]
        ++ Log.Event.ofMint registry i.request.interface Demo.source
    ⟨Log.lines filter events,
      match (Demo.perform fingerprint registry i.request).1 with
      | .ok output => .ok output.text
      | .error failure => .error failure.message⟩

end Invocation

end Structural.CommandLine
