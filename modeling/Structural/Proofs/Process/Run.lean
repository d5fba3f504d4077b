import Mathlib.Logic.Function.Basic
import Structural.Proofs.Session.Steps

/-!
# Several registries side by side

A process has any number of registries. Its instances and the adapters held are common to them: an
instance may be wrapped by adapters from different registries.

* `Process`, `Process.step` -- **a command to one of the registries** is a step of the session that
  has this registry and all that is common;
* `Process.after`, `Process.answers` -- runs; `Process.answersTo` -- the answers to some of the
  commands of a run;
* `Process.run_session` -- commands to one registry only are those of a session;
* `Process.own`, `Process.registry_after` -- **every registry makes its own moves and no others**.
-/

namespace Structural

/-- **The state of a process.** -/
structure Process where
  registries : Nat → Registry
  objects : List Object
  held : List (String × Held)

namespace Process

/-- A process with instances and nothing built. -/
def start (configs : Nat → Config) (objects : List Object) : Process :=
  ⟨fun i => .empty (configs i), objects, []⟩

/-- The session of a registry: it and all that is common. -/
def session (p : Process) (i : Nat) : Session :=
  ⟨p.registries i, p.objects, p.held⟩

/-- A process in which a registry has the session `s` now. -/
def resume (p : Process) (i : Nat) (s : Session) : Process :=
  ⟨Function.update p.registries i s.registry, s.objects, s.held⟩

section Runs

variable (fingerprint : Interface → UInt64)

/-- **A command to a registry**, given by its number. -/
def step (p : Process) (c : Nat × Command) : Answer × Process :=
  let (answer, after) := (p.session c.1).step fingerprint c.2
  (answer, p.resume c.1 after)

/-- The process after a list of commands. -/
def after (p : Process) : List (Nat × Command) → Process
  | [] => p
  | c :: rest => after (p.step fingerprint c).2 rest

/-- The answers to a list of commands. -/
def answers (p : Process) : List (Nat × Command) → List Answer
  | [] => []
  | c :: rest => (p.step fingerprint c).1 :: answers (p.step fingerprint c).2 rest

/-- The answers to some of the commands of a list; all of them are carried out. -/
def answersTo (chosen : Nat × Command → Bool) (p : Process) : List (Nat × Command) → List Answer
  | [] => []
  | c :: rest =>
    let others := answersTo chosen (p.step fingerprint c).2 rest
    if chosen c then (p.step fingerprint c).1 :: others else others

/-- **The moves that one registry makes** in a run. -/
def own (i : Nat) (p : Process) : List (Nat × Command) → List Move
  | [] => []
  | c :: rest =>
    (if c.1 = i then (p.session i).asks c.2 else []) ++ own i (p.step fingerprint c).2 rest

end Runs

variable {fingerprint : Interface → UInt64}

theorem answersTo_of_all {chosen : Nat × Command → Bool} :
    ∀ {commands : List (Nat × Command)} {p : Process}, (∀ c ∈ commands, chosen c = true) →
      p.answersTo fingerprint chosen commands = p.answers fingerprint commands
  | [], _, _ => rfl
  | c :: rest, p, h => by
      have hrest : ∀ c' ∈ rest, chosen c' = true := fun c' hc => h c' (List.mem_cons_of_mem c hc)
      unfold answersTo answers
      rw [if_pos (h c List.mem_cons_self), answersTo_of_all hrest]

@[simp] theorem session_resume (p : Process) (i : Nat) (s : Session) :
    (p.resume i s).session i = s := by
  simp [resume, session]

/-- **Commands to one registry only are those of a session.** -/
theorem run_session (fingerprint : Interface → UInt64) (i : Nat) : ∀ (commands : List Command)
    (p : Process), (p.session i).run fingerprint commands =
      (p.answers fingerprint (commands.map (i, ·)),
        (p.after fingerprint (commands.map (i, ·))).session i)
  | [], _ => rfl
  | c :: rest, p => by
      have ih := run_session fingerprint i rest (p.step fingerprint (i, c)).2
      have hsession : (p.step fingerprint (i, c)).2.session i =
          ((p.session i).step fingerprint c).2 := session_resume p i _
      rw [hsession] at ih
      unfold Session.run
      dsimp only
      rw [ih]
      rfl

/-- A command changes the registry that it is to, by its moves, and no other. -/
theorem registry_step (fingerprint : Interface → UInt64) (p : Process) (c : Nat × Command)
    (i : Nat) : (p.step fingerprint c).2.registries i =
      (p.registries i).after fingerprint (if c.1 = i then (p.session i).asks c.2 else []) := by
  by_cases hi : c.1 = i
  · subst hi
    have hsame : (p.step fingerprint c).2.registries c.1 =
        ((p.session c.1).step fingerprint c.2).2.registry := Function.update_self _ _ _
    rw [hsame, if_pos rfl, Session.step_registry]
    rfl
  · rw [if_neg hi]
    exact Function.update_of_ne (Ne.symm hi) _ _

/-- **Every registry makes its own moves and no others**, whatever the other registries are asked
    and whatever is called. -/
theorem registry_after (fingerprint : Interface → UInt64) (i : Nat) :
    ∀ (commands : List (Nat × Command)) (p : Process),
      (p.after fingerprint commands).registries i =
        (p.registries i).after fingerprint (p.own fingerprint i commands)
  | [], _ => rfl
  | c :: rest, p => by
      have ih := registry_after fingerprint i rest (p.step fingerprint c).2
      unfold own
      rw [Registry.after_append, ← registry_step]
      exact ih

end Process

end Structural
