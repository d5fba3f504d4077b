import Structural.Facade
import Structural.Registry

/-!
# Sessions

A session is one registry together with the instances that are in use and the adapters that were
built and kept by name.

* `Session` -- its state. A name that is kept twice stands for the later adapter;
* `Command` -- what can be asked of a session;
* `Answer` -- what it answers;
* `Session.step` -- **one command**. A build that fails keeps the names as they are. A call changes
  the instance that the adapter wraps, and nothing else.
-/

namespace Structural

/-- An adapter that is kept by name, with the facade it was built for, if any. -/
structure Held where
  adapter : Adapter
  facade : Option Facade

/-- **The state of a session.** -/
structure Session where
  registry : Registry
  objects : List Object
  held : List (String × Held)

/-- **What can be asked of a session.** An optional name keeps the adapter that is built. -/
inductive Command where
  | build (interface : Interface) (source : Source) (target : Nat) (keep : Option String)
  /-- A facade around an instance, described by `source`. -/
  | view (facade : Facade) (source : Source) (target : Nat) (keep : Option String)
  /-- Several builds of one kind, one after the other. -/
  | repeated (interface : Interface) (source : Source) (target count : Nat)
  | resolve (interface : Interface) (source : Source)
  /-- A method called past all adapters, on any instance. -/
  | direct (thunk : Thunk) (target : Nat) (args : List Value)
  | object (target : Nat)
  | clear
  | stats
  | config
  | invoke (adapter : String) (slot : Nat) (args : List Value)
  | invokeTyped (adapter : String) (result : Ty) (slot : Nat) (args : List Value)
  /-- A call by shape: the slot is looked up first. -/
  | call (adapter : String) (shape : Shape) (args : List Value)
  /-- A typed call of a facade's method. -/
  | method (adapter : String) (facade : Facade) (k : Fin facade.methods.length)
      (args : Args (facade.method k).params)
  | describe (adapter : String)
  /-- Another instance bound to the adapter type of an adapter. -/
  | rebind (adapter : String) (target : Nat) (keep : Option String)
  | compare (adapter other : String)
  /-- The instance that an adapter wraps, if it is of a type. -/
  | wrapped (adapter : String) (ty : Ty)

/-- **What a session answers.** -/
inductive Answer where
  /-- No adapter is kept under the name. -/
  | noAdapter
  /-- There is no such instance. -/
  | noObject
  | built (b : Blueprint)
  | failed (e : BuildError)
  | notBound (e : SynthesisError)
  | ids (ids : List Nat)
  | table (t : Table)
  | unmatched (e : MatchError)
  | reply (r : Reply Value)
  | typed (ty : Ty) (r : Reply ty.Carrier)
  | object (o : Option Object)
  | done
  | stats (s : RegistryStats)
  | config (c : Config)
  | called (slot : Nat) (r : Reply Value)
  | noSlot (shape : Shape)
  | described (h : Held)
  | compared (sameBlueprint : Bool) (order : Ordering) (sameTarget : Bool)

/-- A typed reply with its value tagged again. -/
def Reply.tagged (ty : Ty) : Reply ty.Carrier → Reply Value
  | .value x => .value ⟨ty, x⟩
  | .fault f => .fault f
  | .panic m => .panic m

namespace Session

/-! ## 1. Parts of a session -/

/-- A session with instances and nothing built. -/
def start (config : Config) (objects : List Object) : Session :=
  ⟨.empty config, objects, []⟩

/-- The adapter kept under a name. -/
def find? (s : Session) (name : String) : Option Held :=
  s.held.lookup name

/-- An adapter kept under a name, if a name is given. -/
def keep (s : Session) (name : Option String) (h : Held) : Session :=
  match name with
  | none => s
  | some n => { s with held := (n, h) :: s.held }

/-- The instance `ref` as something that can be wrapped. -/
def target? (s : Session) (ref : Nat) : Option Target :=
  s.objects[ref]?.map fun o => ⟨ref, o.ty⟩

/-- The instance `ref` replaced by what a call left of it. -/
def put (s : Session) (ref : Nat) (o : Object) : Session :=
  { s with objects := s.objects.set ref o }

/-- A call made on the instance `ref`. -/
def on {α : Type} (s : Session) (ref : Nat) (f : Object → α × Object) (answer : α → Answer) :
    Answer × Session :=
  match s.objects[ref]? with
  | none => (.noObject, s)
  | some o =>
    let (a, after) := f o
    (answer a, s.put ref after)

/-- The end of a build: the adapter kept, or the error. -/
def settle (s : Session) (keep : Option String) (facade : Option Facade) :
    Except BuildError Adapter × Registry → Answer × Session
  | (.error e, after) => (.failed e, { s with registry := after })
  | (.ok a, after) => (.built a.blueprint, { s with registry := after }.keep keep ⟨a, facade⟩)

/-- The ids that several builds of one kind get; those that fail get none. -/
def buildRepeatedly (fingerprint : Interface → UInt64) (interface : Interface) (source : Source)
    (target : Target) : Nat → Registry → List Nat × Registry
  | 0, r => ([], r)
  | n + 1, r =>
    let (result, after) := r.build fingerprint interface source target
    let (ids, last) := buildRepeatedly fingerprint interface source target n after
    match result with
    | .ok a => (a.blueprint.id :: ids, last)
    | .error _ => (ids, last)

/-- What is asked of an adapter that is kept by name. -/
def withHeld (s : Session) (name : String) (f : Held → Answer × Session) : Answer × Session :=
  match s.find? name with
  | none => (.noAdapter, s)
  | some h => f h

/-! ## 2. Commands -/

/-- **One command of a session.** -/
def step (fingerprint : Interface → UInt64) (s : Session) : Command → Answer × Session
  | .build interface source target keep =>
    match s.target? target with
    | none => (.noObject, s)
    | some t => s.settle keep none (s.registry.build fingerprint interface source t)
  | .view facade source target keep =>
    s.settle keep (some facade) (s.registry.view fingerprint facade.interface source target)
  | .repeated interface source target count =>
    match s.target? target with
    | none => (.noObject, s)
    | some t =>
      let (ids, after) := buildRepeatedly fingerprint interface source t count s.registry
      (.ids ids, { s with registry := after })
  | .resolve interface source =>
    match Structural.resolve s.registry.config.ambiguity interface source with
    | .error e => (.unmatched e, s)
    | .ok t => (.table t, s)
  | .direct thunk target args => s.on target (fun o => thunk o args) .reply
  | .object target => (.object s.objects[target]?, s)
  | .clear => (.done, { s with registry := s.registry.clear })
  | .stats => (.stats s.registry.stats, s)
  | .config => (.config s.registry.config, s)
  | .invoke adapter slot args =>
    s.withHeld adapter fun h => s.on h.adapter.target.ref (h.adapter.invoke slot args) .reply
  | .invokeTyped adapter result slot args =>
    s.withHeld adapter fun h =>
      s.on h.adapter.target.ref (h.adapter.invokeTyped result slot args) (.typed result)
  | .call adapter shape args =>
    s.withHeld adapter fun h =>
      match h.adapter.slotOf? shape with
      | none => (.noSlot shape, s)
      | some slot => s.on h.adapter.target.ref (h.adapter.invoke slot args) (.called slot)
  | .method adapter facade k args =>
    s.withHeld adapter fun h =>
      s.on h.adapter.target.ref (facade.call k h.adapter args)
        fun r => .reply (r.tagged (facade.method k).resultTy)
  | .describe adapter => s.withHeld adapter fun h => (.described h, s)
  | .rebind adapter target keep =>
    s.withHeld adapter fun h =>
      match s.target? target with
      | none => (.noObject, s)
      | some t =>
        match h.adapter.blueprint.bind t with
        | .error e => (.notBound e, s)
        | .ok a => (.built a.blueprint, s.keep keep ⟨a, none⟩)
  | .compare adapter other =>
    s.withHeld adapter fun h =>
      s.withHeld other fun o =>
        let a := h.adapter
        let b := o.adapter
        (.compared (a.blueprint.id = b.blueprint.id) (compare a.blueprint.id b.blueprint.id)
          (a.target.ref = b.target.ref), s)
  | .wrapped adapter ty =>
    s.withHeld adapter fun h =>
      (.object (s.objects[h.adapter.target.ref]?.filter fun o => o.isOf ty), s)

/-- **The answers to a list of commands**, and the session after them. -/
def run (fingerprint : Interface → UInt64) : Session → List Command → List Answer × Session
  | s, [] => ([], s)
  | s, c :: rest =>
    let (answer, after) := s.step fingerprint c
    let (answers, last) := run fingerprint after rest
    (answer :: answers, last)

/-- A call changes no registry. -/
theorem on_registry {α : Type} (s : Session) (ref : Nat) (f : Object → α × Object)
    (answer : α → Answer) : (s.on ref f answer).2.registry = s.registry := by
  unfold on
  split <;> rfl

end Session

end Structural
