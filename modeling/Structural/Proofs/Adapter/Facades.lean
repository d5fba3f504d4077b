import Structural.Demo.Arithmetic
import Structural.Proofs.Adapter.Calls
import Structural.Proofs.Registry.Origin

/-!
# Facades cannot be misused

A facade declares its methods once, and two things come from the declaration: the interface, and the
methods that are generated, which are numbered one after the other. The numbers are written into the
methods; nothing compares them with the adapter when a call is made.

* `Forwarder`, `Facade.forwarders` -- **the methods generated for a facade**, each with its slot;
* `Facade.forwarders_get` -- the numbering is by position, so that the method generated at position
  `k` makes the typed call `k`;
* `Facade.slotOf?_of_nodup` -- with distinct names, the slot looked up is the one written;
* `Facade.CallsDirectly` -- a typed call is one direct call of a method of a source; so its fault,
  if any, is an error that this method raised (`CallsDirectly.isRaised`);
* `Facade.Serves` / `typed_calls_safe` -- **every facade around every adapter that was built for it
  serves all its methods**, whether the adapter type was new or kept.
-/

namespace Structural

/-! ## 1. Methods generated -/

/-- **A method generated for a facade**: what was declared, and the slot that it calls. -/
structure Forwarder where
  slot : Nat
  declared : Declared

/-- What a generated method does. -/
def Forwarder.call (m : Forwarder) (a : Adapter) (args : Args m.declared.params)
    (object : Object) : Reply m.declared.resultTy.Carrier × Object :=
  a.invokeTyped m.declared.resultTy m.slot args.values object

namespace Facade

/-- The methods generated for declarations, the first of them for a given slot, and each other one
    for the slot after. -/
def generate (slot : Nat) : List Declared → List Forwarder
  | [] => []
  | d :: rest => ⟨slot, d⟩ :: generate (slot + 1) rest

/-- **The methods generated for a facade.** -/
def forwarders (f : Facade) : List Forwarder :=
  generate 0 f.methods

theorem getElem?_generate (declared : List Declared) (slot k : Nat) :
    (generate slot declared)[k]? = declared[k]?.map (⟨slot + k, ·⟩) := by
  induction declared generalizing slot k with
  | nil => rfl
  | cons d rest ih =>
      cases k with
      | zero => rfl
      | succ k =>
          have hslot : slot + 1 + k = slot + (k + 1) := by omega
          unfold generate
          rw [List.getElem?_cons_succ, List.getElem?_cons_succ, ih, hslot]

theorem length_generate (declared : List Declared) (slot : Nat) :
    (generate slot declared).length = declared.length := by
  induction declared generalizing slot with
  | nil => rfl
  | cons d rest ih => exact congrArg (· + 1) (ih (slot + 1))

/-- **The method generated at position `k` is the one declared there, and calls slot `k`.** -/
theorem forwarders_get (f : Facade) (k : Fin f.methods.length) :
    f.forwarders[k.val]? = some ⟨k, f.method k⟩ := by
  unfold forwarders
  rw [getElem?_generate, List.getElem?_eq_getElem k.isLt, Nat.zero_add]
  rfl

/-- So it makes the typed call `k`. -/
theorem forwarder_call (f : Facade) (k : Fin f.methods.length) (a : Adapter) :
    Forwarder.call ⟨k, f.method k⟩ a = f.call k a := rfl

/-- **With distinct names, the slot looked up is the one written.** -/
theorem slotOf?_of_nodup {f : Facade} (h : (f.methods.map Declared.name).Nodup)
    (k : Fin f.methods.length) :
    f.interface.slotOf? (f.method k).signature.shape = some k.val := by
  unfold Interface.slotOf?
  rw [List.findIdx?_eq_some_iff_getElem]
  have hlength : f.interface.methods.length = f.methods.length := f.length_interface
  have hget : ∀ j (hj : j < f.interface.methods.length),
      f.interface.methods[j] = (f.method ⟨j, hlength ▸ hj⟩).signature := fun j hj =>
    List.getElem_map _
  refine ⟨hlength.symm ▸ k.isLt, ?_, fun j hj => ?_⟩
  · rw [hget, Signature.accepts_iff]
  · intro haccepts
    rw [hget, Signature.accepts_iff] at haccepts
    have hnames : f.methods.Pairwise fun d d' => d.name ≠ d'.name := List.pairwise_map.mp h
    have hne := List.pairwise_iff_getElem.mp hnames j k (Nat.lt_trans hj k.isLt) k.isLt hj
    exact hne (congrArg Shape.name haccepts)

end Facade

/-! ## 2. Typed calls -/

/-- Typed arguments are values of their types. -/
theorem Args.map_ty_values : ∀ {ts : List Ty} (args : Args ts), args.values.map Value.ty = ts
  | [], .nil => rfl
  | t :: _, .cons _ rest => congrArg (t :: ·) (map_ty_values rest)

namespace Facade

variable {f : Facade} {k : Fin f.methods.length} {a : Adapter} {object : Object}

/-- **A typed call is one direct call** of a method of a source: the instance is of the type that
    the method belongs to, and the method is called on the arguments given. The reply is the one
    that the end of this call stands for, at the result type declared, and the instance is left as
    the method leaves it. -/
def CallsDirectly (f : Facade) (k : Fin f.methods.length) (a : Adapter) {owner : Ty}
    (m : Method owner) (args : Args (f.method k).params) (object : Object) : Prop :=
  ∃ (receiver after : owner.Carrier) (given : Args m.params) (reply : Reply Value),
    object = ⟨owner, receiver⟩ ∧ given.values = args.values ∧
      m.body.Answers receiver given after reply ∧
      reply.Typed (f.method k).resultTy (f.call k a args object).1 ∧
      (f.call k a args object).2 = ⟨owner, after⟩

/-- **A direct call has no fault but an error that the method raised.** -/
theorem CallsDirectly.isRaised {owner : Ty} {m : Method owner} {args : Args (f.method k).params}
    (h : f.CallsDirectly k a m args object) {fault : Fault}
    (hfault : (f.call k a args object).1 = .fault fault) : fault.isRaised = true := by
  obtain ⟨_, _, _, _, _, _, _, htyped, _⟩ := h
  rw [hfault] at htyped
  cases htyped with
  | raised => rfl

/-- **A facade's method is served**: the method generated for it calls its slot, which has the
    signature declared, and each of its calls is one direct call of one method of the source. -/
structure Serves (f : Facade) (a : Adapter) (source : Source) (k : Fin f.methods.length) :
    Prop where
  generated : f.forwarders[k.val]? = some ⟨k, f.method k⟩
  calls : Forwarder.call ⟨k, f.method k⟩ a = f.call k a
  described : a.interface.methods[k.val]? =
    some ⟨⟨(f.method k).name, (f.method k).params⟩, (f.method k).result.getD .unit⟩
  direct : ∃ slot m, a.blueprint.slots[k.val]? = some slot ∧
    source.methods[slot.index]? = some m ∧ m.signature = (f.method k).signature ∧
      ∀ (args : Args (f.method k).params) (object : Object), object.ty = source.ty →
        f.CallsDirectly k a m args object
  /-- No call is a misuse. -/
  raised : ∀ (args : Args (f.method k).params) (object : Object) (fault : Fault),
    object.ty = source.ty → (f.call k a args object).1 = .fault fault → fault.isRaised = true
  found : (f.methods.map Declared.name).Nodup →
    a.slotOf? ⟨(f.method k).name, (f.method k).params⟩ = some k.val

/-- **An adapter for a facade's interface that forwards to a source serves all its methods.** -/
theorem serves_of_forwardsTo {source : Source} (hinterface : a.interface = f.interface)
    (hforwards : a.ForwardsTo source) (k : Fin f.methods.length) : f.Serves a source k := by
  have hdescribed : a.interface.methods[k.val]? = some (f.method k).signature := by
    rw [hinterface]
    exact f.interface_methods_get k
  obtain ⟨slot, m, hslot, hm, hsignature, hinvoke⟩ := hforwards k _ hdescribed
  have hparams : m.params = (f.method k).params :=
    congrArg (fun s : Signature => s.params) hsignature
  have hresult : m.result = (f.method k).resultTy := congrArg Signature.result hsignature
  have hdirect : ∀ (args : Args (f.method k).params) (object : Object), object.ty = source.ty →
      f.CallsDirectly k a m args object := by
    intro args object hobject
    have hargs : args.values.map Value.ty = m.params := args.map_ty_values.trans hparams.symm
    -- the result type declared is that of the method, so that the call comes back at this type
    have hthunk : a.CallsDirectly m (f.method k).resultTy k args.values object := by
      rw [← hresult]
      exact Adapter.callsDirectly_of_thunk (hinvoke args.values object) hargs hobject
    obtain ⟨receiver, after, given, reply, typed, hreceiver, hgiven, hanswers, htyped, _, hinvoked⟩ :=
      hthunk
    have hcall : f.call k a args object = (typed, ⟨source.ty, after⟩) := hinvoked
    rw [CallsDirectly, hcall]
    exact ⟨receiver, after, given, reply, hreceiver, hgiven, hanswers, htyped, rfl⟩
  exact {
    generated := f.forwarders_get k
    calls := f.forwarder_call k a
    described := hdescribed
    direct := ⟨slot, m, hslot, hm, hsignature, hdirect⟩
    raised := fun args object fault hobject => (hdirect args object hobject).isRaised
    found := fun hnodup => by
      unfold Adapter.slotOf?
      rw [hinterface]
      exact slotOf?_of_nodup hnodup k }

/-! ## 3. Builds for a facade -/

open Registry (MintedSince PresentedSince)

variable {fingerprint : Interface → UInt64} {config : Config} {past : List Move} {source : Source}
  {ref : Nat}

/-- **Typed facades cannot be misused.** An adapter that was built for a facade around an instance of
    the type described, in any state of a registry, has the facade's interface and one slot for each
    of its methods, as many as were generated, and all of them are served by one source of this
    type. It is the source at hand, unless another description of the type was presented for this
    interface and the adapter type made from that one is kept. -/
theorem typed_calls_safe
    (h : (((Registry.empty config).after fingerprint past).view fingerprint f.interface source
      ref).1 = .ok a) :
    a.interface = f.interface ∧ a.target = ⟨ref, source.ty⟩ ∧
      a.blueprint.slots.length = f.methods.length ∧ f.forwarders.length = f.methods.length ∧
      ∃ origin : Source, origin.ty = source.ty ∧ (∀ k, f.Serves a origin k) ∧
        (origin = source ∨ MintedSince fingerprint config past a.blueprint origin) ∧
        ((∀ other, PresentedSince past f.interface other → other.ty = source.ty →
          other = source) → origin = source) := by
  obtain ⟨b, hb, _, rfl⟩ := Registry.build_eq_ok_iff.mp h
  obtain ⟨hinterface, origin, hty, hover, hfrom⟩ := Registry.origin_of_blueprint hb
  have hslots : b.slots.length = f.methods.length := by
    rw [← f.length_interface, ← hinterface]
    exact (serves_of_slotsOver hover.slots).length_eq.symm
  refine ⟨hinterface, rfl, hslots, length_generate f.methods 0, origin, hty, ?_, ?_, ?_⟩
  · exact serves_of_forwardsTo hinterface (Adapter.forwardsTo_of_isOver hover _)
  · rcases hfrom with ⟨_, hminted⟩ | ⟨_, horigin⟩
    · exact Or.inr hminted
    · exact Or.inl horigin
  · intro hsame
    rcases hfrom with ⟨hk, hminted⟩ | ⟨_, horigin⟩
    · exact Registry.onlyFrom_of_presented hsame b origin hk hinterface hminted
    · exact horigin

/-- The facade of things that divide and add. The demonstration target has the two methods in the other
    order, and others between them. -/
def divideAndAdd : Facade :=
  ⟨"DivideAndAdd", [⟨"div", [.i32, .i32], some .i32⟩, ⟨"add", [.i32, .i32], some .i32⟩]⟩

/-- The demonstration target under this facade, asked for before. -/
def askedBefore : List Move := [.view divideAndAdd.interface Demo.source 0]

/-- **The second adapter has the type kept from the first.** Both methods are served by the target's own,
    each by its slot, and a division by zero is an error that the target raised. -/
theorem typed_calls_safe_kept :
    ∃ a : Adapter, (((Registry.empty .default).after (Interface.fingerprint Ty.digest)
        askedBefore).view (Interface.fingerprint Ty.digest) divideAndAdd.interface
          Demo.source 1).1 = .ok a ∧
      a.blueprint.id = 0 ∧ a.blueprint.slots.map Slot.index = [3, 0] ∧
      (∀ k, divideAndAdd.Serves a Demo.source k) ∧ a.slotOf? ⟨"add", [.i32, .i32]⟩ = some 1 ∧
      ∃ fault, (divideAndAdd.call ⟨0, Nat.zero_lt_two⟩ a
          (.cons (1 : BitVec 32) (.cons (0 : BitVec 32) .nil)) Demo.target).1 = .fault fault ∧
        fault.isRaised = true := by
  generalize Interface.fingerprint Ty.digest = fingerprint
  obtain ⟨b, hk, hi, hty, hid, hslots, fault, hfault⟩ : ∃ b,
      ((Registry.empty .default).after fingerprint askedBefore).cache.Keeps
        (Registry.key fingerprint divideAndAdd.interface Demo.targetTy) b ∧
      b.interface = divideAndAdd.interface ∧ b.source = Demo.targetTy ∧
      b.id = 0 ∧ b.slots.map Slot.index = [3, 0] ∧
      ∃ fault, (divideAndAdd.call ⟨0, Nat.zero_lt_two⟩ ⟨b, ⟨1, Demo.targetTy⟩⟩
        (.cons (1 : BitVec 32) (.cons (0 : BitVec 32) .nil)) Demo.target).1 = .fault fault :=
    ⟨_, List.mem_singleton_self _, rfl, rfl, rfl, rfl, _, rfl⟩
  have hview : (((Registry.empty .default).after fingerprint askedBefore).view fingerprint
      divideAndAdd.interface Demo.source 1).1 = .ok ⟨b, ⟨1, Demo.targetTy⟩⟩ := by
    refine Registry.build_eq_ok_iff.mpr ⟨b, ?_, hty.symm, rfl⟩
    rw [Registry.blueprint_of_keeps (Registry.regular_after fingerprint .default _) hk, if_pos hi]
  have hsame : ∀ other, PresentedSince askedBefore divideAndAdd.interface other →
      other.ty = Demo.source.ty → other = Demo.source := by
    intro other hpresented _
    obtain ⟨m, hm, hasked⟩ := hpresented.asked
    obtain rfl := List.mem_singleton.mp hm
    cases hasked
    rfl
  obtain ⟨_, _, _, _, origin, _, hserves, _, hown⟩ := typed_calls_safe hview
  obtain rfl := hown hsame
  exact ⟨_, hview, hid, hslots, hserves, (hserves ⟨1, Nat.one_lt_two⟩).found (by decide), fault,
    hfault, (hserves ⟨0, Nat.zero_lt_two⟩).raised _ _ _ rfl hfault⟩

end Facade

end Structural
