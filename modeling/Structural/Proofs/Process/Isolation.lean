import Structural.Proofs.Process.Run
import Structural.Samples.Sources

/-!
# Calls do not interfere

Adapters share adapter types, registries and names. What is called through them meets in the
instances only, since a thunk is a function of its receiver and its arguments: isolation rests on
this, and says nothing of bodies that share a state apart from their receivers.

* `Call.inTurn` -- **calls on one instance, one after the other**;
* `Process.Continues` -- a command that calls through the adapters held and keeps no other under
  their names; builds, clearings, bindings and questions of all kinds are among them;
* `Process.Extends` -- all adapters held are held still (`Extends.step`);
* `Process.answers_inTurn` -- the answers to the calls on an instance, and the instance after a run,
  are those of these calls in turn;
* `Process.Isolated` / `calls_isolated` -- **so they are the same when everything but these calls
  is left out**.
-/

namespace Structural

/-- **Calls on an instance in turn**: their answers, and the instance after them all. -/
def Call.inTurn : List Call → Option Object → List Answer × Option Object
  | [], o => ([], o)
  | c :: rest, o =>
    let (answer, next) := c.serve o
    let (answers, last) := inTurn rest next
    (answer :: answers, last)

namespace Process

variable {fingerprint : Interface → UInt64} {p p' : Process} {t : Nat}

/-! ## 1. The adapters held -/

/-- **A command goes on with a process**: it calls only through the adapters held, and keeps none
    under a name that one of them has. -/
structure Continues (p : Process) (c : Nat × Command) : Prop where
  through : ∀ name ∈ c.2.via?, (p.held.lookup name).isSome
  apart : ∀ name ∈ c.2.kept?, p.held.lookup name = none

instance (p : Process) (c : Nat × Command) : Decidable (Continues p c) :=
  decidable_of_iff ((∀ name ∈ c.2.via?, (p.held.lookup name).isSome) ∧
    ∀ name ∈ c.2.kept?, (p.held.lookup name).isNone)
    ⟨fun h => ⟨h.1, fun name hn => Option.isNone_iff_eq_none.mp (h.2 name hn)⟩,
      fun h => ⟨h.through, fun name hn => Option.isNone_iff_eq_none.mpr (h.apart name hn)⟩⟩

/-- **All adapters held are held still**, under their names. -/
def Extends (p p' : Process) : Prop :=
  ∀ name h, p.held.lookup name = some h → p'.held.lookup name = some h

/-- **A command that goes on with a process takes no adapter away.** -/
theorem Extends.step (fingerprint : Interface → UInt64) (h : p.Extends p') {c : Nat × Command}
    (hc : p.Continues c) :
    p.Extends (p'.step fingerprint c).2 := by
  intro name held hname
  have hkept : c.2.kept? ≠ some name := by
    intro hkept
    rw [hc.apart name hkept] at hname
    cases hname
  exact (Session.lookup_step fingerprint hkept).trans (h name held hname)

/-- The call that a command makes on the instance `t`, when the adapters are held that `p` holds. A
    method called past all adapters is a call on its instance, too. -/
def callOn? (p : Process) (t : Nat) (c : Nat × Command) : Option Call :=
  c.2.callOn? p.held t

/-- Whether a command calls on the instance `t`. -/
def callsOn (p : Process) (t : Nat) (c : Nat × Command) : Bool :=
  (p.callOn? t c).isSome

/-- **The calls on an instance** that a list of commands makes. -/
def calls (p : Process) (t : Nat) (commands : List (Nat × Command)) : List Call :=
  commands.filterMap (p.callOn? t)

/-- A command makes the same calls as long as the adapters are held. -/
theorem Extends.callOn?_eq (h : p.Extends p') {c : Nat × Command} (hc : p.Continues c) :
    p'.callOn? t c = p.callOn? t c := by
  have hcall : c.2.call? p'.held = c.2.call? p.held := by
    cases hvia : c.2.via? with
    | none => exact Session.call?_of_via_eq_none hvia
    | some name =>
        obtain ⟨held, hheld⟩ := Option.isSome_iff_exists.mp (hc.through name hvia)
        rw [Session.call?_of_via hvia, Session.call?_of_via hvia, hheld, h name held hheld]
  unfold callOn? Command.callOn?
  rw [hcall]

/-! ## 2. Runs -/

/-- **The calls on an instance are answered in turn**, whatever else is done in between. -/
theorem answers_inTurn (fingerprint : Interface → UInt64) (p : Process) (t : Nat) :
    ∀ {commands : List (Nat × Command)} {p' : Process}, p.Extends p' →
      (∀ c ∈ commands, p.Continues c) →
        (p'.answersTo fingerprint (p.callsOn t) commands,
            (p'.after fingerprint commands).objects[t]?) =
          Call.inTurn (p.calls t commands) p'.objects[t]?
  | [], _, _, _ => rfl
  | c :: rest, p', h, hall => by
      -- calls are read off from the adapters that `p` holds; `p'` has gone on and may hold more
      have hc := hall c List.mem_cons_self
      have ih := answers_inTurn fingerprint p t (h.step fingerprint hc)
        fun c' hc' => hall c' (List.mem_cons_of_mem c hc')
      have hsame : c.2.callOn? (p'.session c.1).held t = p.callOn? t c := h.callOn?_eq hc
      unfold answersTo after calls callsOn
      rw [List.filterMap_cons]
      cases hcall : p.callOn? t c with
      | none =>
          have hobject : (p'.step fingerprint c).2.objects[t]? = p'.objects[t]? :=
            Session.step_objects_of_no_call fingerprint (hsame.trans hcall)
          rw [hobject] at ih
          exact ih
      | some call =>
          have hstep := Session.step_of_callOn fingerprint (hsame.trans hcall)
          have hanswer : (p'.step fingerprint c).1 = (call.serve p'.objects[t]?).1 := hstep.1
          have hobject : (p'.step fingerprint c).2.objects[t]? = (call.serve p'.objects[t]?).2 :=
            hstep.2
          rw [hobject] at ih
          rw [Option.isSome_some, if_pos rfl, hanswer]
          unfold Call.inTurn
          dsimp only
          rw [← calls, ← ih]
          rfl

/-- A run of calls on one instance is these calls in turn. -/
theorem run_calls (fingerprint : Interface → UInt64) (p : Process) (t : Nat)
    {commands : List (Nat × Command)} (h : ∀ c ∈ commands, p.Continues c) :
    (p.answers fingerprint (commands.filter (p.callsOn t)),
        (p.after fingerprint (commands.filter (p.callsOn t))).objects[t]?) =
      Call.inTurn (p.calls t commands) p.objects[t]? := by
  have hall : ∀ c ∈ commands.filter (p.callsOn t), p.callsOn t c = true := fun c hc =>
    (List.mem_filter.mp hc).2
  have hcalls : p.calls t (commands.filter (p.callsOn t)) = p.calls t commands := by
    unfold calls
    rw [List.filterMap_filter]
    refine List.filterMap_congr fun c _ => ?_
    unfold callsOn
    cases p.callOn? t c <;> rfl
  rw [← answersTo_of_all hall, ← hcalls]
  exact answers_inTurn fingerprint p t (fun _ _ hname => hname) fun c hc =>
    h c (List.mem_filter.mp hc).1

/-! ## 3. Isolation -/

/-- **The calls on an instance are isolated** in a run: their answers and the instance after it are
    those of the run of these calls alone, which are served in turn. What a method shares with
    others stands in its receiver, if anywhere (`Effect`). -/
structure Isolated (fingerprint : Interface → UInt64) (p : Process)
    (commands : List (Nat × Command)) (t : Nat) : Prop where
  answers : p.answersTo fingerprint (p.callsOn t) commands =
    p.answers fingerprint (commands.filter (p.callsOn t))
  object : (p.after fingerprint commands).objects[t]? =
    (p.after fingerprint (commands.filter (p.callsOn t))).objects[t]?
  inTurn : (p.answersTo fingerprint (p.callsOn t) commands,
      (p.after fingerprint commands).objects[t]?) =
    Call.inTurn (p.calls t commands) p.objects[t]?

/-- **Calls do not interfere.** In every state of a process, whatever was built in it, and for every
    list of commands that go on with it, the calls on every instance are isolated. -/
theorem calls_isolated {commands : List (Nat × Command)} (h : ∀ c ∈ commands, p.Continues c)
    (t : Nat) : Isolated fingerprint p commands t := by
  have hrun := answers_inTurn fingerprint p t (fun _ _ hname => hname) h
  have halone := run_calls fingerprint p t h
  have hsame := Prod.ext_iff.mp (hrun.trans halone.symm)
  exact ⟨hsame.1, hsame.2, hrun⟩

/-- What an accumulator publishes, as a source. -/
def accumulator : Source := ⟨_, Samples.accMethods⟩

/-- Things that count. -/
def counter : Facade := ⟨"Counter", [⟨"push", [.i64], some .i64⟩]⟩

/-- Things that have a total. -/
def meter : Facade := ⟨"Meter", [⟨"total", [], some .i64⟩]⟩

/-- Two accumulators under three adapters: two of one adapter type, and a third from another
    registry around the first accumulator. -/
def counters : Process :=
  (start (fun _ => .default) [Samples.Receiver.acc.object 0, Samples.Receiver.acc.object 100]).after
    (Interface.fingerprint Ty.digest)
    [(0, .view counter accumulator 0 (some "first")),
     (0, .view counter accumulator 1 (some "second")),
     (1, .view meter accumulator 0 (some "third"))]

/-- Calls through all three, a misuse at the end, with a clearing and another build between. -/
def counting : List (Nat × Command) :=
  [(0, .invoke "first" 0 [⟨.i64, (5 : BitVec 64)⟩]),
   (0, .clear),
   (1, .invoke "second" 0 [⟨.i64, (1 : BitVec 64)⟩]),
   (0, .view counter accumulator 1 (some "fourth")),
   (1, .invoke "third" 0 []),
   (0, .invoke "first" 7 [])]

/-- The first accumulator counts to five as if it were alone. -/
theorem calls_isolated_counters :
    (∀ c ∈ counting, counters.Continues c) ∧
      Isolated (Interface.fingerprint Ty.digest) counters counting 0 ∧
      (counters.after (Interface.fingerprint Ty.digest) counting).objects[0]? =
        some (Samples.Receiver.acc.object 5) := by
  have hcontinues : ∀ c ∈ counting, counters.Continues c := by decide
  exact ⟨hcontinues, calls_isolated hcontinues 0, rfl⟩

end Process

end Structural
