import Structural.Demo.Arithmetic
import Structural.Proofs.Adapter.Calls
import Structural.Proofs.Registry.Origin

/-!
# Calls that are refused

A thunk takes any instance and any arguments. It checks the instance, then the number of arguments,
then the arguments from the left, and only after that is the method called.

* `Args.FirstMisfit` -- the first argument of a wrong type; `Args.read_cases` -- reading arguments of
  the right number finds it, or there is none;
* `Refused` -- **which calls are refused, and with which fault**: a case asks that the checks
  before it succeed;
* `Method.recorded` -- the same method on receivers that keep a record of its calls, so that whether
  it was called, how often and on what can be read off the instance;
* `Method.NotRun` / `Method.RunsOnce` -- a call leaves no trace of the method, or one;
* `Adapter.ChecksTypeLast` -- a typed call of an adapter: without a slot nothing is called, and the
  type of the value is looked at after the one call of the method;
* `refused_before_run` -- **every method and every adapter keeps to this.**
-/

namespace Structural

/-! ## 1. Arguments of a wrong type -/

/-- **The first argument of a wrong type**: where it stands, the type asked for there and its own. -/
structure Args.FirstMisfit (params : List Ty) (args : List Value) (i : Nat) (expected found : Ty) :
    Prop where
  asked : params[i]? = some expected
  given : (args.map Value.ty)[i]? = some found
  differs : found ≠ expected
  before : ∀ j < i, (args.map Value.ty)[j]? = params[j]?

namespace Args

variable {t expected found : Ty} {params : List Ty} {v : Value} {args : List Value} {i : Nat}

theorem FirstMisfit.head (h : v.ty ≠ t) : FirstMisfit (t :: params) (v :: args) 0 t v.ty where
  asked := rfl
  given := rfl
  differs := h
  before := fun j hj => by omega

theorem FirstMisfit.tail (hv : v.ty = t) (h : FirstMisfit params args i expected found) :
    FirstMisfit (t :: params) (v :: args) (i + 1) expected found where
  asked := h.asked
  given := h.given
  differs := h.differs
  before := by
    intro j hj
    cases j with
    | zero => simp [hv]
    | succ j =>
        have hj' : j < i := by omega
        simpa using h.before j hj'

/-- **Arguments of the right number are all of their types, or there is a first misfit**, and reading
    them says which. The count is not looked at again. -/
theorem read_cases : ∀ (params : List Ty) (args : List Value) (start : Nat),
    args.length = params.length →
      (∃ given : Args params, given.values = args ∧ read start params args = .ok given) ∨
        ∃ i expected found, FirstMisfit params args i expected found ∧
          read start params args = .error (.argument (start + i) expected found)
  | [], [], _, _ => Or.inl ⟨.nil, rfl, rfl⟩
  | [], _ :: _, _, h => by simp at h
  | _ :: _, [], _, h => by simp at h
  | t :: params, v :: args, start, h => by
      have hlength : args.length = params.length := by simpa using h
      by_cases hv : v.ty = t
      · obtain ⟨ty, x⟩ := v
        subst hv
        rcases read_cases params args (start + 1) hlength with
          ⟨given, hvalues, hread⟩ | ⟨i, expected, found, hmisfit, hread⟩
        · refine Or.inl ⟨.cons x given, ?_, ?_⟩
          · simp [values, hvalues]
          · simp [read, hread]
        · refine Or.inr ⟨i + 1, expected, found, hmisfit.tail rfl, ?_⟩
          have hindex : start + 1 + i = start + (i + 1) := by omega
          simp [read, hread, hindex]
      · refine Or.inr ⟨0, t, v.ty, .head hv, ?_⟩
        simp [read, Value.downcast_of_ne hv]

/-- Typed arguments have no misfit. -/
theorem not_firstMisfit_values (given : Args params) (i : Nat) (expected found : Ty) :
    ¬ FirstMisfit params given.values i expected found := by
  induction given generalizing i with
  | nil => intro h; cases h.asked
  | cons x rest ih =>
      intro h
      cases i with
      | zero =>
          have hasked := h.asked
          have hgiven := h.given
          simp only [values, List.map_cons, List.getElem?_cons_zero, Option.some.injEq] at hasked hgiven
          exact h.differs (hgiven.symm.trans hasked)
      | succ i =>
          refine ih i ⟨h.asked, h.given, h.differs, fun j hj => ?_⟩
          have hj' : j + 1 < i + 1 := by omega
          simpa [values] using h.before (j + 1) hj'

theorem FirstMisfit.unique {i' : Nat} {expected' found' : Ty}
    (h : FirstMisfit params args i expected found)
    (h' : FirstMisfit params args i' expected' found') :
    i = i' ∧ expected = expected' ∧ found = found' := by
  -- the one further to the right would have the other among the arguments that fit
  have hle : ∀ {k l : Nat} {e f e' f' : Ty}, FirstMisfit params args k e f →
      FirstMisfit params args l e' f' → ¬ k < l := by
    intro k l e f e' f' hk hl hlt
    have hsame := hl.before k hlt
    rw [hk.given, hk.asked] at hsame
    exact hk.differs (Option.some.inj hsame)
  have hi : i = i' := by
    have h₁ := hle h h'
    have h₂ := hle h' h
    omega
  subst hi
  exact ⟨rfl, Option.some.inj (h.asked.symm.trans h'.asked),
    Option.some.inj (h.given.symm.trans h'.given)⟩

end Args

/-! ## 2. Calls that are refused -/

variable {owner result : Ty} {params : List Ty}

/-- **A call is refused with a fault**, given the type that the method belongs to and those that it
    takes. The instance is of another type; or it is not, and the number of arguments is wrong; or it
    is right too, and an argument is of a wrong type. -/
inductive Refused (owner : Ty) (params : List Ty) (object : Object) (args : List Value) :
    Fault → Prop where
  | receiver (h : object.ty ≠ owner) : Refused owner params object args (.receiver owner)
  | arity (hobject : object.ty = owner) (h : args.length ≠ params.length) :
      Refused owner params object args (.arity params.length args.length)
  | argument {i : Nat} {expected found : Ty} (hobject : object.ty = owner)
      (hlength : args.length = params.length) (h : Args.FirstMisfit params args i expected found) :
      Refused owner params object args (.argument i expected found)

/-- **A refused call gives its fault and leaves the instance as it was**, whatever the body does. -/
theorem Refused.thunk_eq {m : Method owner} {object : Object} {args : List Value} {fault : Fault}
    (h : Refused owner m.params object args fault) :
    m.thunk object args = (.fault fault, object) := by
  cases h with
  | receiver hobject => simp [Method.thunk, Value.as?_of_ne hobject]
  | arity hobject hlength =>
      obtain ⟨ty, receiver⟩ := object
      subst hobject
      simp [Method.thunk, hlength]
  | argument hobject hlength hmisfit =>
      obtain ⟨ty, receiver⟩ := object
      subst hobject
      rcases Args.read_cases m.params args 0 hlength with
        ⟨given, hvalues, _⟩ | ⟨i, expected, found, hfirst, hread⟩
      · rw [← hvalues] at hmisfit
        exact absurd hmisfit (Args.not_firstMisfit_values given _ _ _)
      · obtain ⟨rfl, rfl, rfl⟩ := hmisfit.unique hfirst
        simp [Method.thunk, hlength, hread]

/-- **A call that is not refused has an instance and arguments of the types of the method.** -/
theorem typed_of_not_refused {object : Object} {args : List Value}
    (h : ∀ fault, ¬ Refused owner params object args fault) :
    ∃ (receiver : owner.Carrier) (given : Args params),
      object = ⟨owner, receiver⟩ ∧ given.values = args := by
  have hobject : object.ty = owner := by
    by_contra hne
    exact h _ (.receiver hne)
  have hlength : args.length = params.length := by
    by_contra hne
    exact h _ (.arity hobject hne)
  rcases Args.read_cases params args 0 hlength with
    ⟨given, hvalues, _⟩ | ⟨i, expected, found, hmisfit, _⟩
  · obtain ⟨ty, receiver⟩ := object
    subst hobject
    exact ⟨receiver, given, rfl, hvalues⟩
  · exact absurd (.argument hobject hlength hmisfit) (h _)

/-! ## 3. Records of calls -/

/-- The type of arguments of given types as one value. -/
def Ty.tuple : List Ty → Ty
  | [] => .unit
  | t :: ts => .pair t (tuple ts)

/-- Arguments as one value. -/
def Args.tuple : {ts : List Ty} → Args ts → (Ty.tuple ts).Carrier
  | [], .nil => ()
  | _ :: _, .cons x rest => (x, rest.tuple)

/-- The type of an instance together with a record of calls: the arguments of each, the last call at
    the end. -/
abbrev Ty.recording (owner : Ty) (params : List Ty) : Ty :=
  .pair owner (.vec (.tuple params))

/-- A function on an instance and arguments that also puts its arguments on the record. -/
def recordedEffect {α : Type} (f : Effect owner params α) :
    Effect (.recording owner params) params α := fun receiver args =>
  let (ending, after) := f receiver.1 args
  (ending, (after, receiver.2 ++ [args.tuple]))

/-- A body that puts each of its calls on the record. -/
def Body.recorded : Body owner params result → Body (.recording owner params) params result
  | .plain f => .plain (recordedEffect f)
  | .fallible f => .fallible (recordedEffect f)

/-- **A method that keeps a record of its calls.** Name and types are the same. -/
def Method.recorded (m : Method owner) : Method (.recording owner m.params) :=
  ⟨m.name, m.params, m.result, m.body.recorded⟩

/-- **A body run with a record**: one more entry, and all else as without. -/
theorem Body.run_recorded (body : Body owner params result) (receiver : owner.Carrier)
    (record : List (Ty.tuple params).Carrier) (args : Args params) :
    body.recorded.run (receiver, record) args =
      ((body.run receiver args).1, ((body.run receiver args).2, record ++ [args.tuple])) := by
  cases body with
  | plain f =>
      simp only [recorded, run, recordedEffect]
      obtain ⟨ending, after⟩ := f receiver args
      cases ending <;> rfl
  | fallible f =>
      simp only [recorded, run, recordedEffect]
      obtain ⟨ending, after⟩ := f receiver args
      cases ending with
      | done outcome => cases outcome <;> rfl
      | panic m => rfl

section Answers

variable {body : Body owner params result} {receiver after : owner.Carrier} {given : Args params}

/-- A value that a direct call gives is of the result type. -/
theorem Body.Answers.ty_eq {v : Value} (h : body.Answers receiver given after (.value v)) :
    v.ty = result := by
  cases h <;> rfl

/-- A fault that a direct call gives is an error raised. -/
theorem Body.Answers.raised_of_fault {fault : Fault}
    (h : body.Answers receiver given after (.fault fault)) : ∃ e, fault = .raised e := by
  cases h
  exact ⟨_, rfl⟩

end Answers

namespace Method

variable {m : Method owner} {object : Object} {args : List Value} {fault : Fault}

/-- **A call is refused and the method not run.** The reply is the fault, also for any other body, and
    the instance is left as it was; so is a record of the calls of the method. -/
structure NotRun (m : Method owner) (object : Object) (args : List Value) (fault : Fault) : Prop where
  reply : ∀ body : Body owner m.params m.result,
    Method.thunk { m with body := body } object args = (.fault fault, object)
  record : ∀ receiver record, object = ⟨owner, receiver⟩ →
    m.recorded.thunk ⟨.recording owner m.params, (receiver, record)⟩ args =
      (.fault fault, ⟨.recording owner m.params, (receiver, record)⟩)

/-- **A call runs the method once**, on the arguments in order, with the reply and the instance left
    behind that this run gives. A record of the calls of the method has one more entry, these
    arguments. -/
def RunsOnce (m : Method owner) (object : Object) (args : List Value) (reply : Reply Value)
    (left : Object) : Prop :=
  ∃ (receiver after : owner.Carrier) (given : Args m.params),
    object = ⟨owner, receiver⟩ ∧ left = ⟨owner, after⟩ ∧ given.values = args ∧
      m.body.Answers receiver given after reply ∧ m.thunk object args = (reply, left) ∧
      ∀ record, m.recorded.thunk ⟨.recording owner m.params, (receiver, record)⟩ args =
        (reply, ⟨.recording owner m.params, (after, record ++ [given.tuple])⟩)

/-- **Refused calls do not run the method.** -/
theorem notRun_of_refused (h : Refused owner m.params object args fault) :
    m.NotRun object args fault where
  reply _ := Refused.thunk_eq h
  record := by
    rintro receiver record rfl
    have hrecorded : Refused (.recording owner m.params) m.params
        ⟨.recording owner m.params, (receiver, record)⟩ args fault := by
      cases h with
      | receiver hobject => exact absurd rfl hobject
      | arity _ hlength => exact .arity rfl hlength
      | argument _ hlength hmisfit => exact .argument rfl hlength hmisfit
    exact Refused.thunk_eq (m := m.recorded) hrecorded

/-- **All others run it once.** -/
theorem runsOnce_of_not_refused (h : ∀ fault, ¬ Refused owner m.params object args fault) :
    ∃ reply left, m.RunsOnce object args reply left := by
  obtain ⟨receiver, given, rfl, rfl⟩ := typed_of_not_refused h
  refine ⟨_, _, receiver, _, given, rfl, rfl, rfl, m.body.answers_run receiver given,
    m.thunk_of_typed receiver given, fun record => ?_⟩
  have hthunk : m.recorded.thunk ⟨.recording owner m.params, (receiver, record)⟩ given.values =
      ((m.body.recorded.run (receiver, record) given).1,
        ⟨.recording owner m.params, (m.body.recorded.run (receiver, record) given).2⟩) :=
    m.recorded.thunk_of_typed (receiver, record) given
  rw [m.body.run_recorded receiver record given] at hthunk
  exact hthunk

/-- **A method checks before it runs**: the calls that are refused do not run it, all others do, and
    no argument is found missing while they are read. -/
structure ChecksFirst (m : Method owner) (object : Object) (args : List Value) : Prop where
  refused : ∀ fault, Refused owner m.params object args fault → m.NotRun object args fault
  runs : (∀ fault, ¬ Refused owner m.params object args fault) →
    ∃ reply left, m.RunsOnce object args reply left
  complete : args.length = m.params.length →
    ∀ start expected found, Args.read start m.params args ≠ .error (.arity expected found)

theorem checksFirst (m : Method owner) (object : Object) (args : List Value) :
    m.ChecksFirst object args where
  refused _ h := notRun_of_refused h
  runs := runsOnce_of_not_refused
  complete := by
    intro hlength start expected found
    rcases Args.read_cases m.params args start hlength with ⟨given, _, hread⟩ | ⟨_, _, _, _, hread⟩
    · simp [hread]
    · simp [hread]

/-- **A value comes from one run of the method**, and is of its result type. -/
theorem runsOnce_of_value {v : Value} (h : (m.thunk object args).1 = .value v) :
    v.ty = m.result ∧ m.RunsOnce object args (.value v) (m.thunk object args).2 := by
  have hfree : ∀ fault, ¬ Refused owner m.params object args fault := by
    intro fault hrefused
    rw [hrefused.thunk_eq] at h
    cases h
  obtain ⟨reply, left, hruns⟩ := runsOnce_of_not_refused hfree
  obtain ⟨receiver, after, given, hobject, hleft, hvalues, hanswers, hthunk, hrecord⟩ := hruns
  have hreply : reply = .value v := by
    rw [hthunk] at h
    exact h
  subst hreply
  rw [hthunk]
  exact ⟨hanswers.ty_eq, receiver, after, given, hobject, hleft, hvalues, hanswers, hthunk, hrecord⟩

/-- **A fault of a thunk refuses the call, or is an error that the method raised.** -/
theorem refused_or_raised (h : (m.thunk object args).1 = .fault fault) :
    Refused owner m.params object args fault ∨ ∃ e, fault = .raised e := by
  by_cases hrefused : ∃ fault, Refused owner m.params object args fault
  · obtain ⟨fault', hrefused⟩ := hrefused
    rw [hrefused.thunk_eq] at h
    cases h
    exact Or.inl hrefused
  · obtain ⟨reply, left, _, _, _, _, _, _, hanswers, hthunk, _⟩ :=
      runsOnce_of_not_refused (not_exists.mp hrefused)
    rw [hthunk] at h
    cases h
    exact Or.inr hanswers.raised_of_fault

end Method

/-! ## 4. Typed calls of adapters -/

/-- **The slots of an adapter type call methods of a source.** -/
def Blueprint.CallsInto (b : Blueprint) (source : Source) : Prop :=
  ∀ slot ∈ b.slots, ∃ m, source.methods[slot.index]? = some m ∧ slot.thunk = m.thunk

namespace Blueprint

variable {interface : Interface} {source : Source}

theorem thunk_of_slotFor {binding : Binding} {slot : Slot}
    (h : slotFor interface source binding = .ok slot) :
    ∃ m, source.methods[slot.index]? = some m ∧ slot.thunk = m.thunk := by
  unfold slotFor at h
  split at h
  · cases h
  · split at h
    · cases h
    · rename_i m hm
      split at h
      · cases h
      · cases h
        exact ⟨m, hm, rfl⟩

theorem thunks_of_slotsFor : ∀ (table : Table) (slots : List Slot),
    slotsFor interface source table = .ok slots →
      ∀ slot ∈ slots, ∃ m, source.methods[slot.index]? = some m ∧ slot.thunk = m.thunk
  | [], slots, h, slot, hmem => by
      cases h
      cases hmem
  | binding :: rest, slots, h, slot, hmem => by
      unfold slotsFor at h
      split at h
      · cases h
      · rename_i first hfirst
        split at h
        · cases h
        · rename_i others hothers
          cases h
          rcases List.mem_cons.mp hmem with rfl | hmem
          · exact thunk_of_slotFor hfirst
          · exact thunks_of_slotsFor rest others hothers slot hmem

/-- **Every adapter type that is synthesized calls methods of its source**, whatever the table. -/
theorem callsInto_of_synthesize {id : Nat} {table : Table} {b : Blueprint}
    (h : synthesize id interface source table = .ok b) : b.CallsInto source := by
  obtain ⟨_, _, _, _, hslots⟩ := of_synthesize h
  exact thunks_of_slotsFor table b.slots hslots

/-- So does every one over a source. -/
theorem IsOver.callsInto {policy : Ambiguity} {b : Blueprint} (h : b.IsOver policy source) :
    b.CallsInto source := by
  have hslots := h.slots
  unfold slotsOver at hslots
  split at hslots
  · cases hslots
  · rename_i table _
    split at hslots
    · cases hslots
    · cases hslots
    · rename_i slots hfor
      cases hslots
      exact thunks_of_slotsFor table b.slots hfor

end Blueprint

namespace Adapter

/-- **What a typed call reports of itself.** Without a slot nothing is called. A value of another type
    than the one asked for is reported exactly after one run of the method, and the instance is left
    as the call without a type leaves it. -/
structure ChecksTypeLast (a : Adapter) (source : Source) : Prop where
  noSlot : ∀ t k args object, a.blueprint.slots[k]? = none →
    a.invokeTyped t k args object =
      (.fault (.noSuchSlot k a.blueprint.slots.length), object)
  slot : ∀ t k args object asked count,
    (a.invokeTyped t k args object).1 = .fault (.noSuchSlot asked count) →
      a.blueprint.slots[k]? = none
  returned : ∀ t k args object expected found,
    (a.invokeTyped t k args object).1 = .fault (.returned expected found) ↔
      expected = t ∧ found ≠ t ∧ ∃ slot m v, a.blueprint.slots[k]? = some slot ∧
        source.methods[slot.index]? = some m ∧ found = m.result ∧
        m.RunsOnce object args (.value v) (a.invokeTyped t k args object).2 ∧
        a.invoke k args object = (.value v, (a.invokeTyped t k args object).2)

/-- The value of a reply is of another type than the one asked for, or the reply was such a fault
    before. -/
theorem typedReply_eq_returned {t expected found : Ty} {reply : Reply Value}
    (h : typedReply t reply = .fault (.returned expected found)) :
    reply = .fault (.returned expected found) ∨
      ∃ v, reply = .value v ∧ expected = t ∧ found = v.ty ∧ v.ty ≠ t := by
  cases reply with
  | value v =>
      by_cases hv : v.ty = t
      · obtain ⟨ty, x⟩ := v
        subst hv
        simp [typedReply] at h
      · simp only [typedReply, Value.downcast_of_ne hv, Reply.fault.injEq, Fault.returned.injEq] at h
        exact Or.inr ⟨v, rfl, h.1.symm, h.2.symm, hv⟩
  | fault f =>
      simp only [typedReply, Reply.fault.injEq] at h
      exact Or.inl (by rw [h])
  | panic m => simp [typedReply] at h

theorem typedReply_eq_noSuchSlot {t : Ty} {k count : Nat} {reply : Reply Value}
    (h : typedReply t reply = .fault (.noSuchSlot k count)) :
    reply = .fault (.noSuchSlot k count) := by
  cases reply with
  | value v =>
      by_cases hv : v.ty = t
      · obtain ⟨ty, x⟩ := v
        subst hv
        simp [typedReply] at h
      · simp [typedReply, Value.downcast_of_ne hv] at h
  | fault f =>
      simp only [typedReply, Reply.fault.injEq] at h
      rw [h]
  | panic m => simp [typedReply] at h

theorem invokeTyped_fst (a : Adapter) (t : Ty) (k : Nat) (args : List Value) (object : Object) :
    (a.invokeTyped t k args object).1 = typedReply t (a.invoke k args object).1 := rfl

variable {a : Adapter} {source : Source} {k : Nat}

/-- A call through a slot is a call of a method of the source. -/
theorem invoke_of_callsInto (h : a.blueprint.CallsInto source) {slot : Slot}
    (hslot : a.blueprint.slots[k]? = some slot) (args : List Value) (object : Object) :
    ∃ m, source.methods[slot.index]? = some m ∧ a.invoke k args object = m.thunk object args := by
  obtain ⟨m, hm, hthunk⟩ := h slot (List.mem_of_getElem? hslot)
  refine ⟨m, hm, ?_⟩
  simp [invoke, hslot, hthunk]

/-- **A fault of a call**: there is no slot, or the method behind it refuses the call or raised an
    error. -/
theorem fault_of_invoke (h : a.blueprint.CallsInto source) {args : List Value} {object : Object}
    {fault : Fault} (hfault : (a.invoke k args object).1 = .fault fault) :
    (a.blueprint.slots[k]? = none ∧ fault = .noSuchSlot k a.blueprint.slots.length) ∨
      (∃ m ∈ source.methods, Refused source.ty m.params object args fault) ∨
        ∃ e, fault = .raised e := by
  cases hslot : a.blueprint.slots[k]? with
  | none =>
      rw [invoke_of_none hslot] at hfault
      cases hfault
      exact Or.inl ⟨rfl, rfl⟩
  | some slot =>
      obtain ⟨m, hm, hinvoke⟩ := invoke_of_callsInto h hslot args object
      rw [hinvoke] at hfault
      rcases Method.refused_or_raised hfault with hrefused | hraised
      · exact Or.inr (Or.inl ⟨m, List.mem_of_getElem? hm, hrefused⟩)
      · exact Or.inr (Or.inr hraised)

/-- **A value of a call comes from one run of the method behind the slot.** -/
theorem value_of_invoke (h : a.blueprint.CallsInto source) {args : List Value} {object : Object}
    {v : Value} (hvalue : (a.invoke k args object).1 = .value v) :
    ∃ slot m, a.blueprint.slots[k]? = some slot ∧ source.methods[slot.index]? = some m ∧
      v.ty = m.result ∧ m.RunsOnce object args (.value v) (a.invoke k args object).2 := by
  cases hslot : a.blueprint.slots[k]? with
  | none =>
      rw [invoke_of_none hslot] at hvalue
      cases hvalue
  | some slot =>
      obtain ⟨m, hm, hinvoke⟩ := invoke_of_callsInto h hslot args object
      rw [hinvoke] at hvalue ⊢
      obtain ⟨hty, hruns⟩ := Method.runsOnce_of_value hvalue
      exact ⟨slot, m, rfl, hm, hty, hruns⟩

/-- **An adapter whose slots call methods of a source checks types last.** -/
theorem checksTypeLast_of_callsInto (h : a.blueprint.CallsInto source) :
    a.ChecksTypeLast source where
  noSlot := by
    intro t k args object hnone
    simp [invokeTyped, invoke_of_none hnone, typedReply]
  slot := by
    intro t k args object asked count hfault
    rcases fault_of_invoke h (typedReply_eq_noSuchSlot hfault) with
      ⟨hnone, _⟩ | ⟨_, _, hrefused⟩ | ⟨_, hraised⟩
    · exact hnone
    · cases hrefused
    · cases hraised
  returned := by
    intro t k args object expected found
    rw [invokeTyped_snd]
    constructor
    · intro hfault
      rcases typedReply_eq_returned hfault with hreply | ⟨v, hreply, rfl, rfl, hv⟩
      · -- no call reports the type of a value
        rcases fault_of_invoke h hreply with ⟨_, hslot⟩ | ⟨_, _, hrefused⟩ | ⟨_, hraised⟩
        · cases hslot
        · cases hrefused
        · cases hraised
      · obtain ⟨slot, m, hslot, hm, hty, hruns⟩ := value_of_invoke h hreply
        exact ⟨rfl, hv, slot, m, v, hslot, hm, hty, hruns, Prod.ext hreply rfl⟩
    · rintro ⟨rfl, hne, _, m, v, _, _, rfl, hruns, hinvoke⟩
      obtain ⟨_, _, _, _, _, _, hanswers, _⟩ := hruns
      have hty : v.ty = m.result := hanswers.ty_eq
      rw [← hty] at hne ⊢
      rw [invokeTyped_fst, hinvoke]
      simp [typedReply, Value.downcast_of_ne hne]

end Adapter

/-! ## 5. All methods and all adapters -/

/-- **Every method checks before it runs, and every adapter checks types last**: one that is bound to
    an adapter type synthesized from a source, for any table of matches, and so one that a run of a
    registry gives. -/
theorem refused_before_run :
    (∀ {owner : Ty} (m : Method owner) (object : Object) (args : List Value),
      m.ChecksFirst object args) ∧
    (∀ {id : Nat} {interface : Interface} {source : Source} {table : Table} {b : Blueprint},
      Blueprint.synthesize id interface source table = .ok b →
        ∀ target, Adapter.ChecksTypeLast ⟨b, target⟩ source) ∧
    ∀ {fingerprint : Interface → UInt64} {config : Config} {moves : List Move} {a : Adapter},
      some (.ok a) ∈ (Registry.empty config).replies fingerprint moves →
        ∃ origin, Registry.MintedIn fingerprint config moves a.blueprint origin ∧
          a.ChecksTypeLast origin := by
  refine ⟨Method.checksFirst, fun hsynthesize target => ?_, fun hreply => ?_⟩
  · exact Adapter.checksTypeLast_of_callsInto (Blueprint.callsInto_of_synthesize hsynthesize)
  · obtain ⟨origin, hminted, _⟩ := Registry.origin_of_reply hreply
    exact ⟨origin, hminted, Adapter.checksTypeLast_of_callsInto hminted.isOver.callsInto⟩

/-- The sum of the demonstration target: refused for the instance where the number of arguments is
    wrong too, for the number where a type is wrong too, for the first of two wrong types, and run
    where nothing is wrong. Its adapter checks types last, as made from a table and as built. -/
theorem refused_before_run_add :
    (let sum : Method Demo.targetTy := .combining "add" .i32 fun (x y : BitVec 32) => x + y;
      sum.NotRun ⟨.bool, true⟩ [] (.receiver Demo.targetTy) ∧
        sum.NotRun Demo.target [⟨.bool, true⟩] (.arity 2 1) ∧
        sum.NotRun Demo.target [⟨.bool, true⟩, ⟨.unit, ()⟩] (.argument 0 .i32 .bool) ∧
        ∃ reply left,
          sum.RunsOnce Demo.target [⟨.i32, (2 : BitVec 32)⟩, ⟨.i32, (3 : BitVec 32)⟩] reply left) ∧
      (∃ b, Blueprint.synthesize 0 Demo.addNumbers.interface Demo.source [⟨0, 0⟩] = .ok b ∧
        Adapter.ChecksTypeLast ⟨b, ⟨0, Demo.targetTy⟩⟩ Demo.source) ∧
      ∃ (a : Adapter) (origin : Source),
        some (.ok a) ∈ (Registry.empty .default).replies (Interface.fingerprint Ty.digest)
          [.view Demo.addNumbers.interface Demo.source 0] ∧ a.ChecksTypeLast origin := by
  obtain ⟨hmethods, htables, hruns⟩ := refused_before_run
  refine ⟨⟨?_, ?_, ?_, ?_⟩, ?_, ?_⟩
  · exact (hmethods _ _ _).refused _ (.receiver (by decide))
  · exact (hmethods _ _ _).refused _ (.arity rfl (by decide))
  · refine (hmethods _ _ _).refused _ (.argument rfl rfl ?_)
    exact .head (by decide)
  · refine (hmethods _ _ _).runs fun fault hrefused => ?_
    cases hrefused with
    | receiver h => exact h rfl
    | arity _ h => exact h rfl
    | argument _ _ h =>
        let given : Args [.i32, .i32] := .cons (2 : BitVec 32) (.cons (3 : BitVec 32) .nil)
        exact Args.not_firstMisfit_values given _ _ _ h
  · obtain ⟨b, hb⟩ : ∃ b, Blueprint.synthesize 0 Demo.addNumbers.interface Demo.source [⟨0, 0⟩] =
        .ok b := ⟨_, rfl⟩
    exact ⟨b, hb, htables hb _⟩
  · obtain ⟨a, hmem⟩ : ∃ a : Adapter,
        some (.ok a) ∈ (Registry.empty .default).replies (Interface.fingerprint Ty.digest)
          [.view Demo.addNumbers.interface Demo.source 0] := ⟨_, List.mem_singleton.mpr rfl⟩
    obtain ⟨origin, _, hlast⟩ := hruns hmem
    exact ⟨a, origin, hmem, hlast⟩

end Structural
