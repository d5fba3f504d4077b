import Structural.Demo.Arithmetic
import Structural.Proofs.Process.Run
import Structural.Proofs.Registry.Ledger

/-!
# Ids in a process

The counter that ids come from belongs to a registry, not to the process.

* `Made` -- **an adapter type was made in a run of a process**, by one move of one of its registries;
* `IdsUnique` -- no two adapter types of a process have one id. This is not so: registries count for
  themselves, so the first adapter type of every registry gets the first id
  (`id_of_first`, `not_idsUnique_twice`);
* `IdsOfRegistries` / `ids_of_registries` -- what holds: **an id is the place of an adapter type
  among the ids that its own registry used up**, whatever the others do, so that no two adapter
  types of one registry have one id.
-/

namespace Structural.Process

open Registry (Makes)

variable (fingerprint : Interface → UInt64) (configs : Nat → Config) (objects : List Object)
  (commands : List (Nat × Command))

/-- **An adapter type is made** in a run of a process: by the move of the registry `i` that comes
    after its moves `past`. -/
def Made (i : Nat) (past : List Move) (b : Blueprint) : Prop :=
  ∃ m rest source, (start configs objects).own fingerprint i commands = past ++ m :: rest ∧
    Makes fingerprint ((Registry.empty (configs i)).after fingerprint past) m b source

/-- **No two adapter types of a process have one id**: equal ids are of one made by one move of one
    registry. -/
def IdsUnique : Prop :=
  ∀ i past b j past' b', Made fingerprint configs objects commands i past b →
    Made fingerprint configs objects commands j past' b' → b.id = b'.id → i = j ∧ past = past'

/-- **Ids are given out by each registry on its own.** -/
structure IdsOfRegistries : Prop where
  /-- A registry stands where its own moves take it. -/
  alone : ∀ i, ((start configs objects).after fingerprint commands).registries i =
    (Registry.empty (configs i)).after fingerprint
      ((start configs objects).own fingerprint i commands)
  /-- An adapter type made later by a registry has a greater id. -/
  increase : ∀ i past b past' b', Made fingerprint configs objects commands i past b →
    Made fingerprint configs objects commands i past' b' → past.length < past'.length →
      b.id < b'.id
  /-- Equal ids of one registry are of one adapter type. -/
  unique : ∀ i past b past' b', Made fingerprint configs objects commands i past b →
    Made fingerprint configs objects commands i past' b' → b.id = b'.id → past = past'
  /-- An id is used up by an adapter type of the same registry, or lost where a result type
      differs there. -/
  counted : ∀ i past b, Made fingerprint configs objects commands i past b →
    b.id = ((Registry.empty (configs i)).after fingerprint past).minted +
      (Registry.verdicts fingerprint (configs i) past).count .returnMismatch

variable {fingerprint configs objects commands}

/-- The moves before another one start with those before the first and with the first. -/
theorem exists_between {past past' rest rest' : List Move} {m m' : Move}
    (h : past ++ m :: rest = past' ++ m' :: rest') (hlt : past.length < past'.length) :
    ∃ mid, past' = past ++ m :: mid := by
  rcases List.append_eq_append_iff.mp h with ⟨mid, hpast, hrest⟩ | ⟨mid, hpast, _⟩
  · cases mid with
    | nil =>
        rw [hpast, List.append_nil] at hlt
        exact absurd hlt (Nat.lt_irrefl _)
    | cons x mid =>
        obtain rfl : m = x := (List.cons.inj hrest).1
        exact ⟨mid, hpast⟩
  · rw [hpast, List.length_append] at hlt
    omega

/-- The id of an adapter type is where the counter of its registry stands. -/
theorem Made.id_eq {i : Nat} {past : List Move} {b : Blueprint}
    (h : Made fingerprint configs objects commands i past b) :
    b.id = ((Registry.empty (configs i)).after fingerprint past).nextId := by
  obtain ⟨_, _, _, _, hmakes⟩ := h
  exact hmakes.issues.1.symm

theorem Made.lt {i : Nat} {past past' : List Move} {b b' : Blueprint}
    (h : Made fingerprint configs objects commands i past b)
    (h' : Made fingerprint configs objects commands i past' b')
    (hlt : past.length < past'.length) : b.id < b'.id := by
  obtain ⟨m, rest, source, hown, hmakes⟩ := h
  obtain ⟨m', rest', source', hown', hmakes'⟩ := h'
  obtain ⟨mid, rfl⟩ := exists_between (hown.symm.trans hown') hlt
  exact Registry.idsIncrease fingerprint (configs i) _ past m mid m' rest' b source b' source' rfl
    hmakes hmakes'

/-- **Ids are given out by each registry on its own**, in every run of a process. -/
theorem ids_of_registries (fingerprint : Interface → UInt64) (configs : Nat → Config)
    (objects : List Object) (commands : List (Nat × Command)) :
    IdsOfRegistries fingerprint configs objects commands where
  alone i := registry_after fingerprint i commands (start configs objects)
  increase _ _ _ _ _ h h' hlt := h.lt h' hlt
  unique i past b past' b' h h' hid := by
    have ⟨m, rest, _, hown, _⟩ := h
    have ⟨m', rest', _, hown', _⟩ := h'
    rcases Nat.lt_trichotomy past.length past'.length with hlt | heq | hgt
    · exact absurd hid (Nat.ne_of_lt (h.lt h' hlt))
    · exact (List.append_inj (hown.symm.trans hown') heq).1
    · exact absurd hid.symm (Nat.ne_of_lt (h'.lt h hgt))
  counted i past b h := by
    rw [h.id_eq]
    exact (Registry.balanced_after fingerprint (configs i) past).ids

/-- **The first adapter type of every registry gets the first id.** -/
theorem id_of_first {i : Nat} {b : Blueprint}
    (h : Made fingerprint configs objects commands i [] b) : b.id = 0 := h.id_eq

/-- A registry that starts with a request that it can meet makes an adapter type for it. -/
theorem made_of_first {i : Nat} {m : Move} {rest : List Move} {interface : Interface}
    {source : Source} {b : Blueprint}
    (hown : (start configs objects).own fingerprint i commands = m :: rest)
    (hasked : m.asked? = some (interface, source))
    (hmint : ((Registry.empty (configs i)).mint interface source).1 = .ok b) :
    Made fingerprint configs objects commands i [] b := by
  obtain ⟨rfl, _⟩ := Registry.isOver_of_mint hmint
  exact ⟨m, rest, source, hown, hasked, (fun _ hk => nomatch hk), hmint⟩

/-- An interface without methods. -/
def nothing : Facade := ⟨"Nothing", []⟩

/-- The demonstration target adapted in two registries, to different interfaces. -/
def twice : List (Nat × Command) :=
  [(0, .view Demo.addNumbers Demo.source 0 none), (1, .view nothing Demo.source 0 none)]

/-- **Ids are not unique in a process**: in two registries, adapter types for two interfaces have one
    id. -/
theorem not_idsUnique_twice :
    ¬ IdsUnique (Interface.fingerprint Ty.digest) (fun _ => .default) [Demo.target] twice := by
  intro h
  obtain ⟨b, hb⟩ : ∃ b, ((Registry.empty .default).mint Demo.addNumbers.interface
      Demo.source).1 = .ok b := ⟨_, rfl⟩
  obtain ⟨b', hb'⟩ : ∃ b, ((Registry.empty .default).mint nothing.interface
      Demo.source).1 = .ok b := ⟨_, rfl⟩
  have hmade : Made (Interface.fingerprint Ty.digest) (fun _ => .default) [Demo.target] twice 0
      [] b := made_of_first rfl rfl hb
  have hmade' : Made (Interface.fingerprint Ty.digest) (fun _ => .default) [Demo.target] twice 1
      [] b' := made_of_first rfl rfl hb'
  have hsame : b.id = b'.id := (id_of_first hmade).trans (id_of_first hmade').symm
  cases (h 0 [] b 1 [] b' hmade hmade' hsame).1

end Structural.Process
