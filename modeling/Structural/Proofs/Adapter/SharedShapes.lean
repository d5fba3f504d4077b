import Structural.Demo.Arithmetic
import Structural.Proofs.Registry.Minting
import Structural.Proofs.Registry.Origin

/-!
# Slots of one shape

An interface may declare a shape in several slots, and with several result types. Nothing looks for
this: resolution binds every slot by itself, and synthesis compares every slot by itself with the
method behind it.

* `Interface.slotOf?_eq_some_iff` -- the slot found for a shape is the first one that declares it;
* `Slot.Forwards.unique` -- **slots that forward for one shape are one slot**: they have the same
  signature, the same method and the same thunk;
* `Interface.Coherent` -- every shape is declared with one result type only, which an interface
  that has slots over a source does (`coherent_of_slotsOver`);
* `Adapter.Interchangeable` -- two slots of an adapter forward to one method;
  `Adapter.inTurn_congr` -- **calls in turn do the same through interchangeable slots**;
* `same_shape_interchangeable` -- **in every adapter that a run gives, all slots of a shape are like
  the first one, which is the one found for it**; an interface that is not coherent is never built.
-/

namespace Structural

/-! ## 1. The slot of a shape -/

/-- **The slot found for a shape is the first one that declares it.** -/
theorem Interface.slotOf?_eq_some_iff {interface : Interface} {shape : Shape} {k : Nat} :
    interface.slotOf? shape = some k ↔
      ∃ w, FirstAt (fun w : Signature => w.shape = shape) interface.methods k w := by
  unfold slotOf?
  rw [List.findIdx?_eq_some_iff_getElem]
  constructor
  · rintro ⟨hk, hshape, hbefore⟩
    refine ⟨interface.methods[k], List.getElem?_eq_getElem hk, Signature.accepts_iff.mp hshape, ?_⟩
    intro j hj v hv hvshape
    obtain ⟨_, rfl⟩ := List.getElem?_eq_some_iff.mp hv
    exact hbefore j hj (Signature.accepts_iff.mpr hvshape)
  · rintro ⟨w, hfirst⟩
    obtain ⟨hk, rfl⟩ := List.getElem?_eq_some_iff.mp hfirst.get
    refine ⟨hk, Signature.accepts_iff.mpr hfirst.holds, fun j hj hshape => ?_⟩
    exact hfirst.before j hj _ (List.getElem?_eq_getElem (Nat.lt_trans hj hk))
      (Signature.accepts_iff.mp hshape)

/-- No slot is found exactly for the shapes that are not declared. -/
theorem Interface.slotOf?_eq_none_iff {interface : Interface} {shape : Shape} :
    interface.slotOf? shape = none ↔ ∀ w ∈ interface.methods, w.shape ≠ shape := by
  unfold slotOf?
  rw [List.findIdx?_eq_none_iff]
  refine forall₂_congr fun w _ => ?_
  rw [← Bool.not_eq_true, Signature.accepts_iff]

/-! ## 2. Slots over a source -/

variable {policy : Ambiguity} {interface : Interface} {source : Source} {v w : Signature}

/-- What fits a signature depends on its shape only. -/
theorem fitting_congr (h : v.shape = w.shape) : source.fitting v = source.fitting w := by
  have hname : v.name = w.name := congrArg Shape.name h
  have hparams : v.params = w.params := congrArg Shape.params h
  unfold Source.fitting
  rw [hname, hparams]

/-- **Slots that forward for one shape are one slot.** -/
theorem Slot.Forwards.unique {s t : Slot} (hs : s.Forwards source v) (ht : t.Forwards source w)
    (h : v.shape = w.shape) : v = w ∧ s = t := by
  -- the shape decides the index, the index the method, and the method all that a slot has
  have hindex : s.index = t.index := by
    have hfirst := hs.first
    rw [fitting_congr h, ht.first] at hfirst
    exact (Option.some.inj hfirst).symm
  obtain ⟨m, hm, rfl, hthunk⟩ := hs.method
  obtain ⟨n, hn, rfl, hthunk'⟩ := ht.method
  obtain rfl : m = n := by
    rw [hindex, hn] at hm
    exact (Option.some.inj hm).symm
  have hsignature : s.signature = t.signature := hs.signature.trans ht.signature.symm
  have hsame : s.thunk = t.thunk := hthunk.trans hthunk'.symm
  cases s
  cases t
  cases hindex
  cases hsignature
  cases hsame
  exact ⟨rfl, rfl⟩

/-- **The slots of one shape are one slot**, declared in several places. -/
theorem slots_of_shape {slots : List Slot} (h : slotsOver policy interface source = .ok slots)
    {j k : Nat} (hv : interface.methods[j]? = some v) (hw : interface.methods[k]? = some w)
    (hshape : v.shape = w.shape) :
    v = w ∧ ∃ s, slots[j]? = some s ∧ slots[k]? = some s := by
  obtain ⟨s, hs, hforwards⟩ := exists_of_forall₂ (forwards_of_slotsOver h) hv
  obtain ⟨t, ht, hforwards'⟩ := exists_of_forall₂ (forwards_of_slotsOver h) hw
  obtain ⟨hsame, rfl⟩ := hforwards.unique hforwards' hshape
  exact ⟨hsame, s, hs, ht⟩

/-- **An interface is coherent**: every shape is declared with one result type only. -/
def Interface.Coherent (interface : Interface) : Prop :=
  ∀ v ∈ interface.methods, ∀ w ∈ interface.methods, v.shape = w.shape → v.result = w.result

instance (interface : Interface) : Decidable interface.Coherent :=
  inferInstanceAs (Decidable (∀ v ∈ interface.methods, ∀ w ∈ interface.methods, _ → _))

/-- **An interface that has slots over a source is coherent.** -/
theorem coherent_of_slotsOver {slots : List Slot}
    (h : slotsOver policy interface source = .ok slots) : interface.Coherent := by
  intro v hv w hw hshape
  obtain ⟨j, hj⟩ := List.mem_iff_getElem?.mp hv
  obtain ⟨k, hk⟩ := List.mem_iff_getElem?.mp hw
  rw [(slots_of_shape h hj hk hshape).1]

/-! ## 3. Interchangeable slots -/

namespace Adapter

variable {a : Adapter} {j k : Nat}

/-- **Two slots of an adapter are interchangeable**: behind both stands the same method, with the
    same signature, and a call does the same through the one as through the other. -/
structure Interchangeable (a : Adapter) (j k : Nat) : Prop where
  index : ∃ s t, a.blueprint.slots[j]? = some s ∧ a.blueprint.slots[k]? = some t ∧
    s.index = t.index ∧ s.signature = t.signature
  call : ∀ args object, a.invoke j args object = a.invoke k args object
  typedCall : ∀ t args object, a.invokeTyped t j args object = a.invokeTyped t k args object

theorem Interchangeable.of_slot {s : Slot} (hj : a.blueprint.slots[j]? = some s)
    (hk : a.blueprint.slots[k]? = some s) : a.Interchangeable j k := by
  have hcall : ∀ args object, a.invoke j args object = a.invoke k args object := by
    intro args object
    unfold invoke
    rw [hj, hk]
  refine ⟨⟨s, s, hj, hk, rfl, rfl⟩, hcall, fun t args object => ?_⟩
  unfold invokeTyped
  rw [hcall]

/-- **Calls through slots of an adapter in turn**: their replies, and the instance after them all. -/
def inTurn (a : Adapter) : List (Nat × List Value) → Object → List (Reply Value) × Object
  | [], object => ([], object)
  | (slot, args) :: rest, object =>
    let (reply, next) := a.invoke slot args object
    let (replies, last) := inTurn a rest next
    (reply :: replies, last)

/-- **Calls in turn do the same through interchangeable slots.** -/
theorem inTurn_congr {calls calls' : List (Nat × List Value)}
    (h : List.Forall₂ (fun c c' => c.2 = c'.2 ∧ a.Interchangeable c.1 c'.1) calls calls')
    (object : Object) : a.inTurn calls object = a.inTurn calls' object := by
  induction h generalizing object with
  | nil => rfl
  | @cons c c' rest rest' hc _ ih =>
      obtain ⟨j, args⟩ := c
      obtain ⟨k, args'⟩ := c'
      obtain ⟨rfl, hslots⟩ := hc
      unfold inTurn
      rw [hslots.call]
      dsimp only
      rw [ih]

/-- **The slots of one shape are interchangeable** in an adapter whose adapter type is over a
    source. -/
theorem interchangeable_of_isOver (h : a.blueprint.IsOver policy source)
    (hv : a.interface.methods[j]? = some v) (hw : a.interface.methods[k]? = some w)
    (hshape : v.shape = w.shape) : v = w ∧ a.Interchangeable j k := by
  obtain ⟨hsame, s, hs, ht⟩ := slots_of_shape h.slots hv hw hshape
  exact ⟨hsame, .of_slot hs ht⟩

end Adapter

/-! ## 4. Adapters that a run gives -/

namespace Registry

variable {fingerprint : Interface → UInt64} {config : Config} {moves : List Move}

/-- An adapter type handed out after a run is one of a coherent interface. -/
theorem coherent_of_blueprint {b : Blueprint}
    (h : (((empty config).after fingerprint moves).blueprint fingerprint interface source).1 =
      .ok b) : interface.Coherent := by
  obtain ⟨rfl, _, _, hover, _⟩ := origin_of_blueprint h
  exact coherent_of_slotsOver hover.slots

theorem coherent_of_build {target : Target} {a : Adapter}
    (h : (((empty config).after fingerprint moves).build fingerprint interface source target).1 =
      .ok a) : interface.Coherent := by
  obtain ⟨b, hb, _, _⟩ := build_eq_ok_iff.mp h
  exact coherent_of_blueprint hb

/-- **Slots of one shape are interchangeable**, in every adapter that a run of a registry gives, for
    any fingerprints and under either policy. The slot found for a shape is the first one that
    declares it; every other that does is like it and declares the same result type; and a run of
    calls does the same through any of them. An interface that declares a shape with two result
    types is never built, whatever was done before. -/
theorem same_shape_interchangeable (fingerprint : Interface → UInt64) (config : Config)
    (moves : List Move) :
    (∀ a, some (.ok a) ∈ (empty config).replies fingerprint moves →
      (∀ shape k, a.slotOf? shape = some k ↔
        ∃ w, FirstAt (fun w : Signature => w.shape = shape) a.interface.methods k w ∧
          ∀ j v, a.interface.methods[j]? = some v → v.shape = shape →
            v.result = w.result ∧ a.Interchangeable j k) ∧
      (∀ shape, a.slotOf? shape = none ↔ ∀ w ∈ a.interface.methods, w.shape ≠ shape) ∧
      ∀ calls calls', List.Forall₂ (fun c c' : Nat × List Value => c.2 = c'.2 ∧
          ∃ v w, a.interface.methods[c.1]? = some v ∧ a.interface.methods[c'.1]? = some w ∧
            v.shape = w.shape) calls calls' →
        ∀ object, a.inTurn calls object = a.inTurn calls' object) ∧
    ∀ interface source, ¬ interface.Coherent →
      (∀ target a, (((empty config).after fingerprint moves).build fingerprint interface source
        target).1 ≠ .ok a) ∧
      ∀ ref a, (((empty config).after fingerprint moves).view fingerprint interface source
        ref).1 ≠ .ok a := by
  refine ⟨fun a ha => ?_, fun interface source hne => ⟨fun target a ha => ?_, fun ref a ha => ?_⟩⟩
  · obtain ⟨origin, hminted, _⟩ := origin_of_reply ha
    have hover := hminted.isOver
    refine ⟨fun shape k => ?_, fun shape => Interface.slotOf?_eq_none_iff,
      fun calls calls' hcalls object => ?_⟩
    · refine Interface.slotOf?_eq_some_iff.trans ⟨?_, fun ⟨w, hfirst, _⟩ => ⟨w, hfirst⟩⟩
      rintro ⟨w, hfirst⟩
      refine ⟨w, hfirst, fun j v hv hshape => ?_⟩
      obtain ⟨hsame, hslots⟩ := Adapter.interchangeable_of_isOver hover hv hfirst.get
        (hshape.trans hfirst.holds.symm)
      exact ⟨congrArg Signature.result hsame, hslots⟩
    · refine Adapter.inTurn_congr (hcalls.imp ?_) object
      rintro c c' ⟨hargs, v, w, hv, hw, hshape⟩
      exact ⟨hargs, (Adapter.interchangeable_of_isOver hover hv hw hshape).2⟩
  · exact hne (coherent_of_build ha)
  · exact hne (coherent_of_build ha)

/-- The shape of a sum. -/
def sumShape : Shape := ⟨"add", [.i32, .i32]⟩

/-- A sum, declared twice. -/
def sumTwice : Interface := ⟨"SumTwice", [⟨sumShape, .i32⟩, ⟨sumShape, .i32⟩]⟩

/-- A sum, declared with two result types. -/
def sumEither : Interface := ⟨"SumEither", [⟨sumShape, .i32⟩, ⟨sumShape, .i64⟩]⟩

/-- The demonstration target has one method for two slots, and none for two result types. -/
theorem same_shape_interchangeable_twice :
    (∃ a, some (.ok a) ∈ (empty .default).replies (Interface.fingerprint Ty.digest)
        [.view sumTwice Demo.source 0] ∧
      a.slotOf? sumShape = some 0 ∧ a.slotOf? ⟨"sub", [.i32, .i32]⟩ = none ∧
      a.Interchangeable 1 0 ∧
      ∀ args args' object,
        a.inTurn [(0, args), (1, args')] object = a.inTurn [(1, args), (0, args')] object) ∧
    ∀ target a, (((empty .default).after (Interface.fingerprint Ty.digest)
      [.view sumTwice Demo.source 0]).build (Interface.fingerprint Ty.digest) sumEither Demo.source
        target).1 ≠ .ok a := by
  obtain ⟨hadapters, hbuilds⟩ := same_shape_interchangeable (Interface.fingerprint Ty.digest)
    .default [.view sumTwice Demo.source 0]
  obtain ⟨a, hmem, hinterface⟩ : ∃ a, some (.ok a) ∈ (empty .default).replies
      (Interface.fingerprint Ty.digest) [.view sumTwice Demo.source 0] ∧ a.interface = sumTwice :=
    ⟨_, List.mem_singleton.mpr rfl, rfl⟩
  obtain ⟨hfound, habsent, hcalls⟩ := hadapters a hmem
  have hfirst : a.slotOf? sumShape = some 0 := by
    unfold Adapter.slotOf?
    rw [hinterface]
    decide
  have hzero : a.interface.methods[0]? = some ⟨sumShape, .i32⟩ := by rw [hinterface]; rfl
  have hone : a.interface.methods[1]? = some ⟨sumShape, .i32⟩ := by rw [hinterface]; rfl
  obtain ⟨w, _, hothers⟩ := (hfound sumShape 0).mp hfirst
  refine ⟨⟨a, hmem, hfirst, ?_, ?_, fun args args' object => ?_⟩, ?_⟩
  · refine (habsent _).mpr ?_
    rw [hinterface]
    decide
  · exact (hothers 1 _ hone rfl).2
  · exact hcalls [(0, args), (1, args')] [(1, args), (0, args')]
      (.cons ⟨rfl, _, _, hzero, hone, rfl⟩ (.cons ⟨rfl, _, _, hone, hzero, rfl⟩ .nil)) object
  · exact (hbuilds sumEither Demo.source (by decide)).1

end Registry

end Structural
