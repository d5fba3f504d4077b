import Structural.CommandLine.Outcome

/-!
# The program

Reads the arguments, the variables and the configuration file, and prints what the invocation
gives: the log and an error on the error stream, the rest on the output.
-/

namespace Structural.CommandLine

/-- A variable of the environment. -/
def environmentValue (name : String) : IO (Option String) :=
  IO.getEnv name

/-- The text of a file, or the reason why it cannot be read. -/
def fileText (path : String) : IO (Except String String) := do
  try
    return .ok (← IO.FS.readFile path)
  catch
    | .noFileOrDirectory .. => return .error "No such file or directory (os error 2)"
    | e => return .error (toString e)

/-- The variables that an invocation looks at. -/
def settingVariables : IO (List (String × String)) := do
  let names := [cacheVariable, ambiguityVariable, filterVariable]
  let values ← names.mapM fun name => return (← environmentValue name).map (name, ·)
  return values.filterMap id

/-- The setting of an invocation. -/
def settingOf (i : Invocation) : IO Setting := do
  let values ← settingVariables
  let file ← match i.config with
    | some path => fileText path
    | none => pure (.error "")
  return ⟨fun name => values.lookup name, fun _ => file⟩

end Structural.CommandLine

open Structural CommandLine in
/-- **The program.** -/
def main (args : List String) : IO UInt32 := do
  match Invocation.ofArguments? args with
  | none =>
    IO.eprintln "error: usage: [--config FILE] run [A] [B] | call METHOD A B | inspect [METHOD...]"
    return usageStatus.toUInt32
  | some i =>
    let o := i.outcome (Interface.fingerprint Ty.digest) (← settingOf i)
    for line in o.log do
      IO.eprintln line
    match o.result with
    | .ok lines =>
      for line in lines do
        IO.println line
    | .error sentence => IO.eprintln ("error: " ++ sentence)
    return o.status.toUInt32
