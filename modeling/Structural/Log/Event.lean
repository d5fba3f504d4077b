import Structural.Config.Environment
import Structural.Log.Filter
import Structural.Registry

/-!
# Events of a log

* `Event` -- what is reported while a configuration is found and an adapter type is made;
* `Event.line` -- the line of an event: its level, its origin, a sentence and its fields;
* `Event.ofMint` -- **the events of a new adapter type**: one for every slot that was bound, also
  of a resolution that failed at a later slot, and one for the adapter type itself.
-/

namespace Structural.Log

/-- **What is reported.** -/
inductive Event where
  /-- A variable was ignored. -/
  | ignored (value : Ignored)
  /-- The configuration is settled. -/
  | configured (config : Config)
  /-- A slot was bound. -/
  | matched (interface source : String) (binding : Binding) (method : Signature)
  /-- An adapter type was made. -/
  | synthesized (adapter id : String) (slots : Nat)
deriving DecidableEq, Repr

namespace Event

/-- How much an event matters. -/
def level : Event → Level
  | ignored _ => .warn
  | configured _ => .debug
  | matched .. => .trace
  | synthesized .. => .debug

/-- Where an event comes from. -/
def origin : Event → String
  | ignored _ => "graft_runtime::config"
  | configured _ => "graft"
  | matched .. => "graft_runtime::matcher"
  | synthesized .. => "graft_runtime::universe"

/-- The sentence of an event. -/
def sentence : Event → String
  | ignored (.cache _) => "ignoring invalid cache policy"
  | ignored (.ambiguity _) => "ignoring invalid ambiguity policy"
  | configured _ => "adapter configuration"
  | matched .. => "matched"
  | synthesized .. => "synthesized adapter type"

/-- The fields of an event, each with its value. -/
def fields : Event → List (String × String)
  | ignored (.cache value) => [("var", Text.quote cacheVariable), ("value", value)]
  | ignored (.ambiguity value) => [("var", Text.quote ambiguityVariable), ("value", value)]
  | configured config => [("config", config.outline)]
  | matched interface source binding method =>
    [("interface", Text.quote interface), ("source", Text.quote source),
     ("slot", toString binding.slot), ("source_index", toString binding.index),
     ("method", method.render)]
  | synthesized adapter id slots =>
    [("adapter", Text.quote adapter), ("id", id), ("slots", toString slots)]

/-- **The line of an event.** -/
def line (e : Event) : String :=
  e.level.word ++ " " ++ e.origin ++ ": " ++ e.sentence
    ++ String.join (e.fields.map fun f => " " ++ f.1 ++ "=" ++ f.2)

/-- The events of a scan, one for every slot that was bound. -/
def ofScan (interface : Interface) (source : Source) (result : Scan) : List Event :=
  result.bound.filterMap fun b =>
    interface.methods[b.slot]?.map fun method => matched interface.name source.name b method

/-- **The events of a new adapter type.** -/
def ofMint (r : Registry) (interface : Interface) (source : Source) : List Event :=
  ofScan interface source (scan r.config.ambiguity interface source) ++
  match (r.mint interface source).1 with
  | .ok b => [synthesized b.name b.idText b.slots.length]
  | .error _ => []

end Event

/-- The lines of the events that pass a filter, in order. -/
def lines (f : Filter) (events : List Event) : List String :=
  (events.filter fun e => f.passes e.level e.origin).map Event.line

/-- Events are filtered one by one. -/
theorem lines_append (f : Filter) (a b : List Event) :
    lines f (a ++ b) = lines f a ++ lines f b := by
  simp [lines]

end Structural.Log
