import Mathlib.Data.List.Basic
import Structural.Resolution

/-!
# Resolution as a plain scan

An index of names saves resolution from looking at every method for every slot. What it finds is
what one finds by looking at them all.

* `Source.fitting` -- **the methods that fit a signature**, by index, found by going through all
  methods: those with its name and its argument types;
* `NameIndex.find_extend`, `candidates_eq_fitting` -- the list of a name holds all methods of this
  name, in order of registration, so that the candidates of a slot are the methods that fit it;
* `Settled`, `Offence` -- a slot can be bound, or it cannot, and which error says so;
* `FirstAt` -- the first of several things with a property, and where it stands;
* `BindsHeads` -- a table binds every slot, in order, to the first method that fits;
* `resolves_plainly` -- **the table binds every slot to the first method that fits, if all slots can
  be bound; otherwise the first slot that cannot be bound gives the error.**
-/

namespace Structural

/-! ## 1. The methods that fit -/

/-- **The methods that fit a signature**: those with its name and, one by one, its argument types.
    The result type plays no part. -/
def Source.fitting (source : Source) (wanted : Signature) : List Nat :=
  (List.range source.methods.length).filter fun k =>
    source.methods[k]?.any fun m => m.name = wanted.name && m.params = wanted.params

/-- A method has the shape of a signature exactly if name and argument types agree. -/
theorem Method.shape_eq_iff {owner : Ty} {m : Method owner} {wanted : Signature} :
    m.signature.shape = wanted.shape ↔ m.name = wanted.name ∧ m.params = wanted.params := by
  obtain ⟨⟨name, params⟩, result⟩ := wanted
  simp [Signature.shape, Method.signature]

theorem Source.mem_fitting {source : Source} {wanted : Signature} {k : Nat} :
    k ∈ source.fitting wanted ↔
      ∃ m, source.methods[k]? = some m ∧ m.name = wanted.name ∧ m.params = wanted.params := by
  unfold fitting
  rw [List.mem_filter, List.mem_range, Option.any_eq_true]
  constructor
  · rintro ⟨_, m, hm, hfits⟩
    exact ⟨m, hm, by simpa using hfits⟩
  · rintro ⟨m, hm, hname, hparams⟩
    exact ⟨(List.getElem?_eq_some_iff.mp hm).1, m, hm, by simp [hname, hparams]⟩

/-- The indices increase. -/
theorem Source.fitting_increasing (source : Source) (wanted : Signature) :
    (source.fitting wanted).Pairwise (· < ·) :=
  List.pairwise_lt_range.filter _

/-- The first method that fits. -/
theorem Source.method_of_head {source : Source} {wanted : Signature} {k : Nat}
    (h : (source.fitting wanted).head? = some k) :
    ∃ m, source.methods[k]? = some m ∧ m.signature.shape = wanted.shape := by
  obtain ⟨m, hm, hfits⟩ := mem_fitting.mp (List.mem_of_head? h)
  exact ⟨m, hm, Method.shape_eq_iff.mpr hfits⟩

/-! ## 2. The index of names -/

/-- **The list of a name, signature by signature**: what was filed under it before, then the
    positions of the signatures with this name, in order. -/
theorem NameIndex.find_extend (name : String) : ∀ (signatures : List Signature) (index : NameIndex)
    (start : Nat), (index.extend start signatures).find name = index.find name ++
      ((signatures.zipIdx start).filter fun p => p.1.name = name).map Prod.snd
  | [], index, start => by simp [extend]
  | s :: rest, index, start => by
      rw [extend, find_extend name rest, find_file, List.zipIdx_cons]
      by_cases h : name = s.name
      · subst h
        simp
      · have hne : ¬ s.name = name := fun e => h e.symm
        simp [h, hne]

/-- **The candidates of a slot are the methods that fit it.** -/
theorem candidates_eq_fitting (source : Source) (wanted : Signature) :
    candidates (NameIndex.ofSignatures source.signatures) source.signatures wanted.shape =
      source.fitting wanted := by
  have hrange : List.range source.methods.length = (source.signatures.zipIdx).map Prod.snd := by
    rw [List.zipIdx_map_snd, source.length_signatures, List.range_eq_range']
  unfold candidates Source.fitting NameIndex.ofSignatures
  rw [NameIndex.find_extend, hrange, NameIndex.find, List.nil_append, List.filter_map,
    List.filter_map, List.filter_filter]
  congr 1
  -- at a position of the list of signatures, both conditions are about the method that stands there
  refine List.filter_congr ?_
  rintro ⟨s, k⟩ hmem
  have hs : source.signatures[k]? = some s := List.mem_zipIdx_iff_getElem?.mp hmem
  have hk := source.getElem?_signatures k
  rw [hs] at hk
  obtain ⟨m, hm, rfl⟩ := Option.map_eq_some_iff.mp hk.symm
  have hfits : fitsAt source.signatures wanted.shape k = true ↔
      m.name = wanted.name ∧ m.params = wanted.params := by
    rw [fitsAt, hs, ← Method.shape_eq_iff]
    exact Signature.accepts_iff
  rw [Bool.eq_iff_iff]
  simp only [Function.comp_apply, Bool.and_eq_true, hfits, hm, Option.any_some, decide_eq_true_eq]
  exact and_iff_left_of_imp And.left

/-! ## 3. Slots that can be bound -/

/-- **A slot can be bound**: a method fits it, and under rejection no other does. -/
structure Settled (policy : Ambiguity) (source : Source) (wanted : Signature) : Prop where
  candidate : source.fitting wanted ≠ []
  sole : policy = .reject → (source.fitting wanted).length = 1

/-- **The error of a slot that cannot be bound.** It carries the name and the argument types of the
    slot and the name of the source. -/
inductive Offence (policy : Ambiguity) (source : Source) (wanted : Signature) : MatchError → Prop
  | none (h : source.fitting wanted = []) :
      Offence policy source wanted (.noMatch wanted.shape source.name)
  | several (hp : policy = .reject) (h : 2 ≤ (source.fitting wanted).length) :
      Offence policy source wanted
        (.ambiguous wanted.shape source.name (source.fitting wanted).length)

variable {policy : Ambiguity} {source : Source} {wanted : Signature}

theorem Offence.not_settled {e : MatchError} (h : Offence policy source wanted e) :
    ¬ Settled policy source wanted := by
  intro hs
  cases h with
  | none hnone => exact hs.candidate hnone
  | several hp hlen =>
      have hone := hs.sole hp
      omega

theorem Offence.unique {e e' : MatchError} (h : Offence policy source wanted e)
    (h' : Offence policy source wanted e') : e = e' := by
  cases h with
  | none hnone =>
      cases h' with
      | none => rfl
      | several _ hlen =>
          rw [hnone] at hlen
          exact absurd hlen (by decide)
  | several _ hlen =>
      cases h' with
      | none hnone =>
          rw [hnone] at hlen
          exact absurd hlen (by decide)
      | several => rfl

/-- **What becomes of one slot**: it is bound to the first method that fits, or there is an
    offence. -/
theorem choose_fitting (policy : Ambiguity) (source : Source) (wanted : Signature) :
    (∃ k, choose policy source.name wanted.shape (source.fitting wanted) = .ok k ∧
        Settled policy source wanted ∧ (source.fitting wanted).head? = some k) ∨
      ∃ e, choose policy source.name wanted.shape (source.fitting wanted) = .error e ∧
        Offence policy source wanted e := by
  rcases hfit : source.fitting wanted with _ | ⟨first, _ | ⟨second, rest⟩⟩
  · exact Or.inr ⟨_, rfl, .none hfit⟩
  · exact Or.inl ⟨first, rfl, ⟨by simp [hfit], fun _ => by simp [hfit]⟩, rfl⟩
  · have hlen : (source.fitting wanted).length = rest.length + 2 := by simp [hfit]
    cases policy with
    | firstMatch =>
        exact Or.inl ⟨first, rfl, ⟨by simp [hfit], fun h => nomatch h⟩, rfl⟩
    | reject =>
        refine Or.inr ⟨_, rfl, ?_⟩
        rw [← hlen]
        exact .several rfl (by omega)

/-! ## 4. The first of several -/

/-- **The first of several things with a property**, at its place. -/
structure FirstAt {α : Type} (p : α → Prop) (xs : List α) (k : Nat) (x : α) : Prop where
  get : xs[k]? = some x
  holds : p x
  before : ∀ j < k, ∀ y, xs[j]? = some y → ¬ p y

namespace FirstAt

variable {α : Type} {p : α → Prop} {xs : List α} {x y : α} {k l : Nat}

theorem head (h : p x) : FirstAt p (x :: xs) 0 x :=
  ⟨rfl, h, fun _ hj => absurd hj (Nat.not_lt_zero _)⟩

theorem tail (hx : ¬ p x) (h : FirstAt p xs k y) : FirstAt p (x :: xs) (k + 1) y := by
  refine ⟨h.get, h.holds, fun j hj z hz => ?_⟩
  cases j with
  | zero =>
      cases hz
      exact hx
  | succ j => exact h.before j (Nat.lt_of_succ_lt_succ hj) z hz

theorem mem (h : FirstAt p xs k x) : x ∈ xs :=
  List.mem_of_getElem? h.get

theorem unique (h : FirstAt p xs k x) (h' : FirstAt p xs l y) : k = l ∧ x = y := by
  have hkl : k = l := by
    rcases Nat.lt_trichotomy k l with hlt | heq | hgt
    · exact absurd h.holds (h'.before k hlt x h.get)
    · exact heq
    · exact absurd h'.holds (h.before l hgt y h'.get)
  subst hkl
  exact ⟨rfl, Option.some.inj (h.get.symm.trans h'.get)⟩

/-- The first of the images with a property is the image of the first. -/
theorem of_map {β : Type} {f : β → α} {q : β → Prop} (hpq : ∀ z, p (f z) ↔ q z) {zs : List β}
    (h : FirstAt p (zs.map f) k y) : ∃ z, FirstAt q zs k z ∧ f z = y := by
  have hget := h.get
  rw [List.getElem?_map] at hget
  obtain ⟨z, hz, rfl⟩ := Option.map_eq_some_iff.mp hget
  refine ⟨z, ⟨hz, (hpq z).mp h.holds, fun j hj w hw hqw => ?_⟩, rfl⟩
  exact h.before j hj (f w) (by rw [List.getElem?_map, hw]; rfl) ((hpq w).mpr hqw)

end FirstAt

/-! ## 5. Tables -/

/-- **A table binds signatures to the first methods that fit**: it binds the slots from `slot` on,
    one for every signature, in order. -/
inductive BindsHeads (source : Source) : Nat → List Signature → Table → Prop where
  | nil (slot : Nat) : BindsHeads source slot [] []
  | cons {slot k : Nat} {wanted : Signature} {rest : List Signature} {table : Table}
      (hhead : (source.fitting wanted).head? = some k)
      (h : BindsHeads source (slot + 1) rest table) :
      BindsHeads source slot (wanted :: rest) (⟨slot, k⟩ :: table)

namespace BindsHeads

variable {slot : Nat} {signatures : List Signature} {table table' : Table}

theorem length_eq (h : BindsHeads source slot signatures table) :
    table.length = signatures.length := by
  induction h with
  | nil => rfl
  | cons _ _ ih => rw [List.length_cons, List.length_cons, ih]

/-- The binding of a slot. -/
theorem get (h : BindsHeads source slot signatures table) {k : Nat}
    (hk : signatures[k]? = some wanted) :
    ∃ i, (source.fitting wanted).head? = some i ∧ table[k]? = some ⟨slot + k, i⟩ := by
  induction h generalizing k with
  | nil => cases hk
  | @cons slot i _ _ _ hhead _ ih =>
      cases k with
      | zero =>
          cases hk
          exact ⟨i, hhead, rfl⟩
      | succ k =>
          obtain ⟨i', hi', hget⟩ := ih hk
          refine ⟨i', hi', ?_⟩
          rw [List.getElem?_cons_succ, hget, Nat.succ_add_eq_add_succ]

/-- Every binding is to a method that there is. -/
theorem inBounds (h : BindsHeads source slot signatures table) :
    ∀ b ∈ table, b.index < source.methods.length := by
  induction h with
  | nil => exact fun b hb => absurd hb List.not_mem_nil
  | cons hhead _ ih =>
      intro b hb
      rcases List.mem_cons.mp hb with rfl | hb
      · obtain ⟨m, hm, _⟩ := Source.method_of_head hhead
        exact (List.getElem?_eq_some_iff.mp hm).1
      · exact ih b hb

end BindsHeads

/-- **A table binds every slot of an interface**, in order, to the first method that fits it. -/
structure Interface.BoundBy (interface : Interface) (source : Source) (table : Table) : Prop where
  length_eq : table.length = interface.methods.length
  entry : ∀ (k : Nat) (wanted : Signature), interface.methods[k]? = some wanted →
    ∃ i, (source.fitting wanted).head? = some i ∧ table[k]? = some ⟨k, i⟩

namespace Interface.BoundBy

variable {interface : Interface} {table table' : Table}

theorem of_bindsHeads (h : BindsHeads source 0 interface.methods table) :
    interface.BoundBy source table where
  length_eq := h.length_eq
  entry k wanted hk := by
    obtain ⟨i, hi, hget⟩ := h.get hk
    exact ⟨i, hi, by rw [hget, Nat.zero_add]⟩

theorem unique (h : interface.BoundBy source table) (h' : interface.BoundBy source table') :
    table = table' := by
  refine List.ext_getElem? fun k => ?_
  cases hk : interface.methods[k]? with
  | none =>
      have hlen := List.getElem?_eq_none_iff.mp hk
      rw [List.getElem?_eq_none (h.length_eq ▸ hlen), List.getElem?_eq_none (h'.length_eq ▸ hlen)]
  | some wanted =>
      obtain ⟨i, hi, hget⟩ := h.entry k wanted hk
      obtain ⟨i', hi', hget'⟩ := h'.entry k wanted hk
      rw [hget, hget', Option.some.inj (hi.symm.trans hi')]

end Interface.BoundBy

/-! ## 6. Resolution -/

/-- **The scan of several slots**: it binds them all, or it stops at the first that cannot be
    bound. -/
theorem scanFrom_cases (policy : Ambiguity) (source : Source) :
    ∀ (signatures : List Signature) (slot : Nat) (result : Scan),
      scanFrom policy source (NameIndex.ofSignatures source.signatures) slot signatures = result →
      ((∀ w ∈ signatures, Settled policy source w) ∧ result.failure = none ∧
          BindsHeads source slot signatures result.bound) ∨
        ∃ k w e, FirstAt (fun w => ¬ Settled policy source w) signatures k w ∧
          Offence policy source w e ∧ result.failure = some e
  | [], slot, result, h => by
      subst h
      exact Or.inl ⟨fun w hw => absurd hw List.not_mem_nil, rfl, .nil slot⟩
  | w :: rest, slot, result, h => by
      subst h
      unfold scanFrom
      rw [candidates_eq_fitting]
      rcases choose_fitting policy source w with ⟨k, hk, hsettled, hhead⟩ | ⟨e, he, hoffence⟩
      · rw [hk]
        rcases scanFrom_cases policy source rest (slot + 1) _ rfl with
          ⟨hall, hnone, hbinds⟩ | ⟨l, v, e, hfirst, hoffence, hsome⟩
        · exact Or.inl ⟨List.forall_mem_cons.mpr ⟨hsettled, hall⟩, hnone, .cons hhead hbinds⟩
        · exact Or.inr ⟨l + 1, v, e, hfirst.tail (not_not.mpr hsettled), hoffence, hsome⟩
      · rw [he]
        exact Or.inr ⟨0, w, e, .head hoffence.not_settled, hoffence, rfl⟩

/-- **The two ways in which resolution ends.** -/
theorem resolve_cases (policy : Ambiguity) (interface : Interface) (source : Source) :
    (∃ table, resolve policy interface source = .ok table ∧
        (∀ w ∈ interface.methods, Settled policy source w) ∧
        BindsHeads source 0 interface.methods table) ∨
      ∃ k w e, resolve policy interface source = .error e ∧
        FirstAt (fun w => ¬ Settled policy source w) interface.methods k w ∧
        Offence policy source w e := by
  unfold resolve
  dsimp only
  rcases scanFrom_cases policy source interface.methods 0 (scan policy interface source) rfl with
    ⟨hall, hnone, hbinds⟩ | ⟨k, w, e, hfirst, hoffence, hsome⟩
  · rw [hnone]
    exact Or.inl ⟨_, rfl, hall, hbinds⟩
  · rw [hsome]
    exact Or.inr ⟨k, w, e, rfl, hfirst, hoffence⟩

variable {interface : Interface}

/-- An interface resolves exactly if all its slots can be bound. -/
theorem exists_resolve_iff : (∃ table, resolve policy interface source = .ok table) ↔
    ∀ w ∈ interface.methods, Settled policy source w := by
  rcases resolve_cases policy interface source with
    ⟨table, hok, hall, _⟩ | ⟨k, w, e, herror, hfirst, _⟩
  · exact ⟨fun _ => hall, fun _ => ⟨table, hok⟩⟩
  · constructor
    · rintro ⟨table, hok⟩
      rw [herror] at hok
      cases hok
    · exact fun hall => absurd (hall w hfirst.mem) hfirst.holds

theorem bindsHeads_of_resolve {table : Table} (h : resolve policy interface source = .ok table) :
    BindsHeads source 0 interface.methods table := by
  rcases resolve_cases policy interface source with ⟨table', hok, _, hbinds⟩ | ⟨_, _, e, herror, _⟩
  · rw [h] at hok
    cases hok
    exact hbinds
  · rw [h] at herror
    cases herror

theorem boundBy_of_resolve {table : Table} (h : resolve policy interface source = .ok table) :
    interface.BoundBy source table :=
  .of_bindsHeads (bindsHeads_of_resolve h)

/-- **If all slots can be bound, a table that binds them is the one that resolution gives.** -/
theorem resolve_eq_ok_of_boundBy {table : Table}
    (hall : ∀ w ∈ interface.methods, Settled policy source w)
    (hbound : interface.BoundBy source table) : resolve policy interface source = .ok table := by
  obtain ⟨table', h⟩ := exists_resolve_iff.mpr hall
  rw [h, hbound.unique (boundBy_of_resolve h)]

/-- **The error is that of the first slot that cannot be bound.** -/
theorem resolve_eq_error_iff {e : MatchError} : resolve policy interface source = .error e ↔
    ∃ k w, FirstAt (fun w => ¬ Settled policy source w) interface.methods k w ∧
      Offence policy source w e := by
  rcases resolve_cases policy interface source with
    ⟨table, hok, hall, _⟩ | ⟨k, w, e', herror, hfirst, hoffence⟩
  · constructor
    · intro h
      rw [hok] at h
      cases h
    · rintro ⟨k, w, hfirst, _⟩
      exact absurd (hall w hfirst.mem) hfirst.holds
  · constructor
    · intro h
      rw [herror] at h
      cases h
      exact ⟨k, w, hfirst, hoffence⟩
    · rintro ⟨k', w', hfirst', hoffence'⟩
      obtain ⟨rfl, rfl⟩ := hfirst.unique hfirst'
      rw [herror, hoffence.unique hoffence']

/-- **What a plain scan of all methods for every slot gives.** -/
structure PlainlyResolved (policy : Ambiguity) (interface : Interface) (source : Source) :
    Prop where
  /-- There is a table exactly if every slot can be bound. -/
  succeeds : (∃ table, resolve policy interface source = .ok table) ↔
    ∀ w ∈ interface.methods, Settled policy source w
  /-- It binds every slot to the first method that fits. -/
  table : ∀ table, resolve policy interface source = .ok table ↔
    (∀ w ∈ interface.methods, Settled policy source w) ∧ interface.BoundBy source table
  /-- Every method that it binds a slot to is there. -/
  inBounds : ∀ table, resolve policy interface source = .ok table →
    ∀ b ∈ table, b.index < source.methods.length
  /-- Without a table, the first slot that cannot be bound gives the error. -/
  error : ∀ e, resolve policy interface source = .error e ↔
    ∃ k w, FirstAt (fun w => ¬ Settled policy source w) interface.methods k w ∧
      Offence policy source w e

/-- **Resolution gives what a plain scan gives**, for every interface and source and either
    policy. The methods that fit a slot are listed in order of registration. -/
theorem resolves_plainly (policy : Ambiguity) (interface : Interface) (source : Source) :
    PlainlyResolved policy interface source ∧
      ∀ w, (source.fitting w).Pairwise (· < ·) ∧
        ∀ k, k ∈ source.fitting w ↔
          ∃ m, source.methods[k]? = some m ∧ m.name = w.name ∧ m.params = w.params := by
  refine ⟨⟨exists_resolve_iff, fun table => ⟨fun h => ?_, ?_⟩, fun table h => ?_, fun e => ?_⟩,
    fun w => ⟨source.fitting_increasing w, fun k => Source.mem_fitting⟩⟩
  · exact ⟨exists_resolve_iff.mp ⟨table, h⟩, .of_bindsHeads (bindsHeads_of_resolve h)⟩
  · rintro ⟨hall, hbound⟩
    obtain ⟨table', h⟩ := exists_resolve_iff.mpr hall
    rw [h, hbound.unique (.of_bindsHeads (bindsHeads_of_resolve h))]
  · exact (bindsHeads_of_resolve h).inBounds
  · exact resolve_eq_error_iff

end Structural
