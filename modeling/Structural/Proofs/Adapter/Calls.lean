import Structural.Adapter
import Structural.Proofs.Blueprint.Slots

/-!
# Calls through an adapter

What a call through a slot does, said without thunks: which method of a source is called, on which
arguments, and how its end comes back.

* `Args.exists_values` -- values of the right types are typed arguments;
* `Body.Answers` -- **a direct call of a body** and the reply it stands for;
* `Reply.Typed` -- a reply at a type, with its value and without it taken out. No fault is among
  them but an error that the method raised;
* `Adapter.ForwardsTo` -- **the slots of an adapter forward to a source**, for calls of any kind;
* `Adapter.CallsDirectly` -- **a call is one direct call of a method**, which it is with arguments
  of the types that the method takes (`Adapter.callsDirectly_of_thunk`).
-/

namespace Structural

/-! ## 1. Arguments -/

/-- **Values of the right types are typed arguments.** -/
theorem Args.exists_values : ∀ {ts : List Ty} (vs : List Value), vs.map Value.ty = ts →
    ∃ args : Args ts, args.values = vs
  | _, [], h => by
      subst h
      exact ⟨.nil, rfl⟩
  | _, v :: vs, h => by
      subst h
      obtain ⟨rest, hrest⟩ := exists_values vs rfl
      exact ⟨.cons v.data rest, by rw [Args.values, hrest]⟩

/-! ## 2. Direct calls -/

variable {owner result : Ty} {params : List Ty}

/-- **A direct call of a body**: its function is called once, on a receiver and arguments, and
    leaves the receiver `after`. The last argument is the reply that the end of this call stands
    for. A result of a plain body is a value, also where its type is one of results; of a fallible
    body, an error is raised as it is. -/
inductive Body.Answers (receiver : owner.Carrier) (args : Args params) :
    Body owner params result → owner.Carrier → Reply Value → Prop where
  | plain {f : Effect owner params result.Carrier} {y : result.Carrier} {after : owner.Carrier}
      (h : f receiver args = (.done y, after)) :
      Answers receiver args (.plain f) after (.value ⟨result, y⟩)
  | plainPanic {f : Effect owner params result.Carrier} {m : String} {after : owner.Carrier}
      (h : f receiver args = (.panic m, after)) :
      Answers receiver args (.plain f) after (.panic m)
  | returned {f : Effect owner params (Except Raised result.Carrier)} {y : result.Carrier}
      {after : owner.Carrier} (h : f receiver args = (.done (.ok y), after)) :
      Answers receiver args (.fallible f) after (.value ⟨result, y⟩)
  | raised {f : Effect owner params (Except Raised result.Carrier)} {e : Raised}
      {after : owner.Carrier} (h : f receiver args = (.done (.error e), after)) :
      Answers receiver args (.fallible f) after (.fault (.raised e))
  | panic {f : Effect owner params (Except Raised result.Carrier)} {m : String}
      {after : owner.Carrier} (h : f receiver args = (.panic m, after)) :
      Answers receiver args (.fallible f) after (.panic m)

/-- A body run answers as a direct call of it does. -/
theorem Body.answers_run (body : Body owner params result) (receiver : owner.Carrier)
    (args : Args params) :
    Answers receiver args body (body.run receiver args).2 (body.run receiver args).1 := by
  cases body with
  | plain f =>
      simp only [run]
      cases hf : f receiver args with
      | mk ending after =>
          cases ending with
          | done y => exact .plain hf
          | panic m => exact .plainPanic hf
  | fallible f =>
      simp only [run]
      cases hf : f receiver args with
      | mk ending after =>
          cases ending with
          | done outcome =>
              cases outcome with
              | ok y => exact .returned hf
              | error e => exact .raised hf
          | panic m => exact .panic hf

/-! ## 3. Replies at a type -/

/-- **A reply at a type**, as it comes from a call and with its value taken out. Its value is of
    this type; its fault is an error raised, which can be had back, also as a value of its own
    type. -/
inductive Reply.Typed (t : Ty) : Reply Value → Reply t.Carrier → Prop where
  | value (y : t.Carrier) : Typed t (.value ⟨t, y⟩) (.value y)
  | raised (e : Raised) (back : (Fault.raised e).intoRaised = .ok e)
      (error : (Fault.raised e).as? e.payload.ty = some e.payload.data) :
      Typed t (.fault (.raised e)) (.fault (.raised e))
  | panic (m : String) : Typed t (.panic m) (.panic m)

/-- **A direct call gives a reply at the result type of the body.** -/
theorem Body.Answers.typed {body : Body owner params result} {receiver after : owner.Carrier}
    {args : Args params} {reply : Reply Value} (h : body.Answers receiver args after reply) :
    reply.Typed result (Adapter.typedReply result reply) := by
  have hvalue : ∀ y : result.Carrier, Reply.Typed result (.value ⟨result, y⟩)
      (Adapter.typedReply result (.value ⟨result, y⟩)) := by
    intro y
    simp only [Adapter.typedReply, Value.downcast_mk]
    exact .value y
  cases h with
  | plain => exact hvalue _
  | plainPanic => exact .panic _
  | returned => exact hvalue _
  | raised => exact .raised _ rfl (Value.as?_mk _ _)
  | panic => exact .panic _

/-! ## 4. Slots -/

namespace Adapter

/-- **The slots of an adapter forward to a source**: behind every method of the interface there is a
    method of the source with the same signature, and a call through the slot is a call of its
    thunk, for any arguments and any instance. -/
def ForwardsTo (a : Adapter) (source : Source) : Prop :=
  ∀ k wanted, a.interface.methods[k]? = some wanted →
    ∃ slot m, a.blueprint.slots[k]? = some slot ∧ source.methods[slot.index]? = some m ∧
      m.signature = wanted ∧ ∀ args object, a.invoke k args object = m.thunk object args

variable {policy : Ambiguity} {source : Source}

/-- An adapter type over a source has a slot for every method of its interface. -/
theorem forwardsTo_of_isOver {b : Blueprint} (h : b.IsOver policy source) (target : Target) :
    ForwardsTo ⟨b, target⟩ source := by
  intro k wanted hk
  obtain ⟨slot, hslot, hserves⟩ := slot_of_slotsOver h.slots hk
  obtain ⟨m, hm, hsig, hthunk⟩ := hserves.method
  refine ⟨slot, m, hslot, hm, hsig, fun args object => ?_⟩
  simp only [invoke, hslot, hthunk]

/-- **A call is one direct call** of a method of the source: the instance is of the type that the
    method belongs to, the arguments are of the types that it takes, and the reply and the instance
    left behind are those of the body. The reply is one at the type `result`, and its value can be
    taken out at this type. -/
def CallsDirectly (a : Adapter) {owner : Ty} (m : Method owner) (result : Ty) (k : Nat)
    (args : List Value) (object : Object) : Prop :=
  ∃ (receiver after : owner.Carrier) (typedArgs : Args m.params) (reply : Reply Value)
      (typedReply : Reply result.Carrier),
    object = ⟨owner, receiver⟩ ∧ typedArgs.values = args ∧
      m.body.Answers receiver typedArgs after reply ∧ reply.Typed result typedReply ∧
      a.invoke k args object = (reply, ⟨owner, after⟩) ∧
      a.invokeTyped result k args object = (typedReply, ⟨owner, after⟩)

/-- **A slot that calls the thunk of a method calls it directly**, with arguments of its types. -/
theorem callsDirectly_of_thunk {a : Adapter} {owner : Ty} {m : Method owner} {k : Nat}
    {args : List Value} {object : Object}
    (hinvoke : a.invoke k args object = m.thunk object args)
    (hargs : args.map Value.ty = m.params) (hobject : object.ty = owner) :
    a.CallsDirectly m m.result k args object := by
  obtain ⟨typedArgs, rfl⟩ := Args.exists_values args hargs
  obtain ⟨ty, receiver⟩ := object
  obtain rfl : ty = owner := hobject
  have hanswers := m.body.answers_run receiver typedArgs
  have hcall := hinvoke.trans (m.thunk_of_typed receiver typedArgs)
  refine ⟨receiver, _, typedArgs, _, _, rfl, rfl, hanswers, hanswers.typed, hcall, ?_⟩
  unfold invokeTyped
  rw [hcall]

end Adapter

end Structural
