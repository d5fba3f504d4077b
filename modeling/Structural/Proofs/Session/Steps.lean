import Structural.Proofs.Registry.Run
import Structural.Session

/-!
# What a command of a session does

A session has a registry, instances, and adapters held by name. A command makes either a call, which
changes one instance and nothing else, or moves of the registry, which change no instance.

* `Call`, `Call.serve` -- **a call on an instance**, and what it comes to if there is this instance;
* `Command.call?` -- the call that a command makes when these adapters are held, if it makes one;
  `Session.asks` -- the moves of the registry that it makes;
* `Session.step_of_call` -- **a command with a call is this call** (`Session.serve`);
* `Session.GoesOn` / `Session.goesOn_step` -- **what a command without a call does**;
* `Session.step_registry`, `Session.lookup_step`, `Session.step_of_callOn`,
  `Session.step_objects_of_no_call` -- the same, put for each part of a session.
-/

namespace Structural

/-! ## 1. Calls and moves of a command -/

/-- **A call on an instance**: on which one, and what it does to it. -/
structure Call where
  ref : Nat
  run : Object → Answer × Object

/-- A call with its result put as an answer. -/
def Call.answering {α : Type} (ref : Nat) (f : Object → α × Object) (answer : α → Answer) : Call :=
  ⟨ref, fun o => (answer (f o).1, (f o).2)⟩

/-- **What a call comes to**: its answer and the instance after it, if there is one. -/
def Call.serve (c : Call) : Option Object → Answer × Option Object
  | none => (.noObject, none)
  | some o => ((c.run o).1, some (c.run o).2)

namespace Command

/-- The name of the adapter that a command calls through. -/
def via? : Command → Option String
  | invoke name .. => some name
  | invokeTyped name .. => some name
  | call name .. => some name
  | method name .. => some name
  | _ => none

/-- The name under which a command keeps an adapter. -/
def kept? : Command → Option String
  | build _ _ _ keep => keep
  | view _ _ _ keep => keep
  | rebind _ _ keep => keep
  | _ => none

/-- The call that a command makes through an adapter. -/
def through? (a : Adapter) : Command → Option Call
  | invoke _ slot args => some (.answering a.target.ref (a.invoke slot args) .reply)
  | invokeTyped _ result slot args =>
    some (.answering a.target.ref (a.invokeTyped result slot args) (.typed result))
  | call _ shape args =>
    (a.slotOf? shape).map fun slot => .answering a.target.ref (a.invoke slot args) (.called slot)
  | method _ facade k args =>
    some (.answering a.target.ref (facade.call k a args)
      fun r => .reply (r.tagged (facade.method k).resultTy))
  | _ => none

/-- **The call that a command makes**, through one of the adapters held or past them all. -/
def call? (held : List (String × Held)) (c : Command) : Option Call :=
  match c with
  | direct thunk target args => some (.answering target (fun o => thunk o args) .reply)
  | c => (c.via?.bind fun name => held.lookup name).bind fun h => c.through? h.adapter

/-- The call that a command makes on the instance `t`. -/
def callOn? (held : List (String × Held)) (t : Nat) (c : Command) : Option Call :=
  (c.call? held).filter fun call => call.ref = t

end Command

namespace Session

/-- **The moves of the registry that a command makes.** -/
def asks (s : Session) : Command → List Move
  | .build interface source target _ =>
    ((s.target? target).map fun t => .build interface source t).toList
  | .view facade source target _ => [.view facade.interface source target]
  | .repeated interface source target count =>
    (s.target? target).elim [] fun t => List.replicate count (.build interface source t)
  | .clear => [.clear]
  | _ => []

variable {fingerprint : Interface → UInt64}

/-! ## 2. Calls -/

/-- **A call made in a session.** -/
def serve (s : Session) (c : Call) : Answer × Session :=
  s.on c.ref c.run id

theorem on_eq_serve {α : Type} (s : Session) (ref : Nat) (f : Object → α × Object)
    (answer : α → Answer) : s.on ref f answer = s.serve (.answering ref f answer) := by
  show s.on ref f answer = s.on ref (Call.answering ref f answer).run id
  unfold on
  cases s.objects[ref]? <;> rfl

/-- A call is answered by its instance. -/
theorem serve_fst (s : Session) (c : Call) : (s.serve c).1 = (c.serve s.objects[c.ref]?).1 := by
  unfold serve on
  cases s.objects[c.ref]? <;> rfl

/-- A call changes its instance and no other. -/
theorem serve_objects (s : Session) (c : Call) (t : Nat) : (s.serve c).2.objects[t]? =
    if t = c.ref then (c.serve s.objects[t]?).2 else s.objects[t]? := by
  unfold serve on
  by_cases ht : t = c.ref
  · rw [if_pos ht, ← ht]
    cases ho : s.objects[t]? with
    | none => exact ho
    | some o => exact List.getElem?_set_self (List.getElem?_eq_some_iff.mp ho).1
  · rw [if_neg ht]
    cases s.objects[c.ref]? with
    | none => rfl
    | some o => exact List.getElem?_set_ne (Ne.symm ht)

theorem serve_registry (s : Session) (c : Call) : (s.serve c).2.registry = s.registry :=
  on_registry s c.ref c.run id

theorem serve_held (s : Session) (c : Call) : (s.serve c).2.held = s.held := by
  unfold serve on
  cases s.objects[c.ref]? <;> rfl

/-- A command that calls through an adapter calls through the one held under its name. -/
theorem call?_of_via {held : List (String × Held)} {c : Command} {name : String}
    (hvia : c.via? = some name) :
    c.call? held = (held.lookup name).bind fun h => c.through? h.adapter := by
  have hbind : c.call? held = (c.via?.bind fun name => held.lookup name).bind
      fun h => c.through? h.adapter := by
    cases c with
    | direct => cases hvia
    | _ => rfl
  rw [hbind, hvia]
  rfl

/-- What other commands call does not depend on the adapters held. -/
theorem call?_of_via_eq_none {held held' : List (String × Held)} {c : Command}
    (hvia : c.via? = none) : c.call? held = c.call? held' := by
  cases c with
  | invoke => cases hvia
  | invokeTyped => cases hvia
  | call => cases hvia
  | method => cases hvia
  | _ => rfl

/-- A call through an adapter goes through one that is held. -/
theorem held_of_call? {held : List (String × Held)} {c : Command} {call : Call} {name : String}
    (hvia : c.via? = some name) (h : c.call? held = some call) :
    ∃ h, held.lookup name = some h ∧ c.through? h.adapter = some call := by
  rw [call?_of_via hvia] at h
  exact Option.bind_eq_some_iff.mp h

theorem withHeld_of_lookup {s : Session} {name : String} {h : Held}
    (hf : s.held.lookup name = some h) (f : Held → Answer × Session) :
    s.withHeld name f = f h := by
  unfold withHeld find?
  rw [hf]

/-- **A command with a call is this call**, and does nothing else. -/
theorem step_of_call {s : Session} {c : Command} {call : Call} (h : c.call? s.held = some call) :
    s.step fingerprint c = s.serve call := by
  cases c with
  | invoke name slot args =>
      obtain ⟨held, hfind, hcall⟩ := held_of_call? rfl h
      cases hcall
      exact (withHeld_of_lookup hfind _).trans (on_eq_serve s _ _ _)
  | invokeTyped name result slot args =>
      obtain ⟨held, hfind, hcall⟩ := held_of_call? rfl h
      cases hcall
      exact (withHeld_of_lookup hfind _).trans (on_eq_serve s _ _ _)
  | call name shape args =>
      obtain ⟨held, hfind, hcall⟩ := held_of_call? rfl h
      obtain ⟨slot, hslot, rfl⟩ := Option.map_eq_some_iff.mp hcall
      refine (withHeld_of_lookup hfind _).trans ?_
      rw [hslot]
      exact on_eq_serve s _ _ _
  | method name facade k args =>
      obtain ⟨held, hfind, hcall⟩ := held_of_call? rfl h
      cases hcall
      exact (withHeld_of_lookup hfind _).trans (on_eq_serve s _ _ _)
  | direct thunk target args =>
      cases h
      exact on_eq_serve s _ _ _
  | _ => cases h

/-! ## 3. Commands without a call -/

/-- **How a session goes on without a call**: its registry makes moves, its instances stay as they
    are, and at most one adapter is held more, under the name given. -/
structure GoesOn (fingerprint : Interface → UInt64) (s : Session) (moves : List Move)
    (name : Option String) (s' : Session) : Prop where
  registry : s'.registry = s.registry.after fingerprint moves
  objects : s'.objects = s.objects
  held : s'.held = s.held ∨ ∃ n h, name = some n ∧ s'.held = (n, h) :: s.held

theorem goesOn_idle (s : Session) (name : Option String) : GoesOn fingerprint s [] name s :=
  ⟨rfl, rfl, Or.inl rfl⟩

theorem goesOn_keep (s : Session) (name : Option String) (h : Held) :
    GoesOn fingerprint s [] name (s.keep name h) := by
  cases name with
  | none => exact goesOn_idle s none
  | some n => exact ⟨rfl, rfl, Or.inr ⟨n, h, rfl, rfl⟩⟩

/-- The end of a build that was one move. -/
theorem goesOn_settle (s : Session) (name : Option String) (facade : Option Facade)
    {built : Except BuildError Adapter × Registry} {moves : List Move}
    (h : built.2 = s.registry.after fingerprint moves) :
    GoesOn fingerprint s moves name (s.settle name facade built).2 := by
  obtain ⟨_ | a, after⟩ := built
  · exact ⟨h, rfl, Or.inl rfl⟩
  · have hkeep : GoesOn fingerprint { s with registry := after } [] name
        ({ s with registry := after }.keep name ⟨a, facade⟩) := goesOn_keep _ name _
    exact ⟨hkeep.registry.trans h, hkeep.objects, hkeep.held⟩

/-- Several builds of one kind are as many moves. -/
theorem buildRepeatedly_snd (fingerprint : Interface → UInt64) (interface : Interface)
    (source : Source) (target : Target) : ∀ (count : Nat) (r : Registry),
      (buildRepeatedly fingerprint interface source target count r).2 =
        r.after fingerprint (List.replicate count (.build interface source target))
  | 0, _ => rfl
  | n + 1, r => by
      have ih := buildRepeatedly_snd fingerprint interface source target n
        (r.build fingerprint interface source target).2
      unfold buildRepeatedly
      dsimp only
      rw [List.replicate_succ]
      split <;> exact ih

/-- What is done with an adapter held goes on as it does with each. -/
theorem goesOn_withHeld {s : Session} {name : String} {kept : Option String}
    {f : Held → Answer × Session}
    (hf : ∀ h, s.held.lookup name = some h → GoesOn fingerprint s [] kept (f h).2) :
    GoesOn fingerprint s [] kept (s.withHeld name f).2 := by
  unfold withHeld find?
  cases h : s.held.lookup name with
  | none => exact goesOn_idle s kept
  | some held => exact hf held h

/-- Through an adapter that is held, a command makes no call if it has none to make. -/
theorem through?_eq_none {s : Session} {c : Command} {name : String} {h : Held}
    (hvia : c.via? = some name) (hcall : c.call? s.held = none)
    (hfind : s.held.lookup name = some h) : c.through? h.adapter = none := by
  rw [call?_of_via hvia, hfind] at hcall
  exact hcall

/-- **A command without a call** makes its moves, and keeps at most one adapter more. A command that
    calls through an adapter has no call where the adapter is not held, or has no slot of the shape
    asked for. -/
theorem goesOn_step {s : Session} {c : Command} (hcall : c.call? s.held = none) :
    GoesOn fingerprint s (s.asks c) c.kept? (s.step fingerprint c).2 := by
  cases c with
  | build interface source target keep =>
      unfold asks step
      dsimp only
      cases s.target? target with
      | none => exact goesOn_idle s keep
      | some t => exact goesOn_settle s keep none rfl
  | view facade source target keep => exact goesOn_settle s keep (some facade) rfl
  | repeated interface source target count =>
      unfold asks step
      dsimp only
      cases s.target? target with
      | none => exact goesOn_idle s none
      | some t => exact ⟨buildRepeatedly_snd _ _ _ _ _ _, rfl, Or.inl rfl⟩
  | resolve interface source =>
      unfold step
      dsimp only
      split <;> exact goesOn_idle s none
  | direct => cases hcall
  | object => exact goesOn_idle s none
  | clear => exact ⟨rfl, rfl, Or.inl rfl⟩
  | stats => exact goesOn_idle s none
  | config => exact goesOn_idle s none
  | invoke name =>
      refine goesOn_withHeld fun h hfind => ?_
      cases through?_eq_none rfl hcall hfind
  | invokeTyped name =>
      refine goesOn_withHeld fun h hfind => ?_
      cases through?_eq_none rfl hcall hfind
  | call name shape args =>
      refine goesOn_withHeld fun h hfind => ?_
      have hslot := Option.map_eq_none_iff.mp (through?_eq_none rfl hcall hfind)
      rw [hslot]
      exact goesOn_idle s none
  | method name =>
      refine goesOn_withHeld fun h hfind => ?_
      cases through?_eq_none rfl hcall hfind
  | describe name => exact goesOn_withHeld fun _ _ => goesOn_idle s none
  | rebind name target keep =>
      refine goesOn_withHeld fun h _ => ?_
      cases s.target? target with
      | none => exact goesOn_idle s keep
      | some t =>
          dsimp only
          split
          · exact goesOn_idle s keep
          · exact goesOn_keep s keep _
  | compare name other =>
      exact goesOn_withHeld fun _ _ => goesOn_withHeld fun _ _ => goesOn_idle s none
  | wrapped name ty => exact goesOn_withHeld fun _ _ => goesOn_idle s none

/-! ## 4. Each part of a session -/

/-- A command that makes a call makes no move of the registry. -/
theorem asks_of_call {s : Session} {c : Command} {call : Call}
    (h : c.call? s.held = some call) : s.asks c = [] := by
  cases c with
  | build => cases h
  | view => cases h
  | repeated => cases h
  | clear => cases h
  | _ => rfl

/-- **The registry of a session makes the moves of its commands**, whatever is called. -/
theorem step_registry (fingerprint : Interface → UInt64) (s : Session) (c : Command) :
    (s.step fingerprint c).2.registry = s.registry.after fingerprint (s.asks c) := by
  cases h : c.call? s.held with
  | none => exact (goesOn_step h).registry
  | some call =>
      rw [step_of_call h, asks_of_call h]
      exact serve_registry s call

/-- **A name stands for the same adapter** until another is kept under it. -/
theorem lookup_step (fingerprint : Interface → UInt64) {s : Session} {c : Command} {name : String}
    (h : c.kept? ≠ some name) :
    (s.step fingerprint c).2.held.lookup name = s.held.lookup name := by
  cases hcall : c.call? s.held with
  | some call => rw [step_of_call hcall, serve_held]
  | none =>
      have hstep : GoesOn fingerprint s (s.asks c) c.kept? (s.step fingerprint c).2 :=
        goesOn_step hcall
      rcases hstep.held with hheld | ⟨n, held, hn, hheld⟩
      · rw [hheld]
      · have hne : name ≠ n := fun he => h (he ▸ hn)
        rw [hheld, List.lookup_cons, beq_false_of_ne hne]

/-- **A call is answered by its instance**, and leaves there what it comes to. -/
theorem step_of_callOn (fingerprint : Interface → UInt64) {s : Session} {c : Command} {t : Nat}
    {call : Call} (h : c.callOn? s.held t = some call) :
    (s.step fingerprint c).1 = (call.serve s.objects[t]?).1 ∧
      (s.step fingerprint c).2.objects[t]? = (call.serve s.objects[t]?).2 := by
  obtain ⟨hcall, href⟩ := Option.filter_eq_some_iff.mp h
  obtain rfl : call.ref = t := of_decide_eq_true href
  rw [step_of_call hcall]
  exact ⟨serve_fst s call, (serve_objects s call call.ref).trans (if_pos rfl)⟩

/-- **An instance is not changed but by the calls on it.** -/
theorem step_objects_of_no_call (fingerprint : Interface → UInt64) {s : Session} {c : Command}
    {t : Nat} (h : c.callOn? s.held t = none) :
    (s.step fingerprint c).2.objects[t]? = s.objects[t]? := by
  cases hcall : c.call? s.held with
  | none => rw [(goesOn_step hcall).objects]
  | some call =>
      have href : t ≠ call.ref := by
        intro he
        rw [Command.callOn?, hcall, Option.filter_some, if_pos (decide_eq_true he.symm)] at h
        cases h
      rw [step_of_call hcall, serve_objects, if_neg href]

end Session

end Structural
