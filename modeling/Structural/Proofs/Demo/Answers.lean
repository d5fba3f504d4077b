import Structural.Proofs.Demo.Operations
import Structural.Proofs.Registry.Transparency

/-!
# How requests to the demonstration are answered

Requests share one registry, with whatever was asked of it before. Nothing of this is seen in an
answer, as long as no two different interfaces asked for have one fingerprint.

* `Request.move` -- a request as a move of the registry: requests performed are a run of it
  (`performAll_snd`);
* `Distinct` -- the fingerprints tell the interfaces of some requests apart;
* `view_of_distinct` -- **after any of these requests, in any order, a request is served from the
  target alone**;
* `slotsOver_binary` -- the interface of some names is served slot by slot, or its first unknown name
  is reported;
* `CallAnswered`, `InspectAnswered` -- **what calls and reports give**, complete with their errors;
* `answers_compute` -- the main result: calls compute the operation of their name, a sum through the
  facade is the one that a call gives, and a report lists the names asked for.
-/

namespace Structural.Demo

/-! ## 1. Requests as moves -/

/-- **A request as a move** of the registry. -/
def Request.move (request : Request) : Move :=
  .view request.interface source 0

variable {fingerprint : Interface → UInt64}

theorem perform_snd (r : Registry) (request : Request) :
    (perform fingerprint r request).2 = (r.move fingerprint request.move).2 := by
  unfold perform Registry.move Request.move
  dsimp only
  split
  · rename_i h
    rw [h]
  · rename_i h
    rw [h]

/-- **Requests performed are a run of the registry.** -/
theorem performAll_snd (requests : List Request) (r : Registry) :
    (performAll fingerprint r requests).2 = r.after fingerprint (requests.map Request.move) := by
  induction requests generalizing r with
  | nil => rfl
  | cons request rest ih =>
      show (performAll fingerprint (perform fingerprint r request).2 rest).2 = _
      rw [ih, perform_snd]
      rfl

/-- The registry of a configuration after some requests. -/
def registryAfter (fingerprint : Interface → UInt64) (config : Config) (past : List Request) :
    Registry :=
  (performAll fingerprint (.empty config) past).2

/-! ## 2. A request is served from the target alone -/

/-- **No two different interfaces of the requests have one fingerprint.** -/
def Distinct (fingerprint : Interface → UInt64) (requests : List Request) : Prop :=
  ∀ q ∈ requests, ∀ q' ∈ requests,
    fingerprint q.interface = fingerprint q'.interface → q.interface = q'.interface

variable {config : Config} {asked past : List Request} {request : Request}

theorem asked_of_mem_moves {m : Move} {interface : Interface} {s : Source}
    (hm : m ∈ past.map Request.move) (h : m.asked? = some (interface, s)) :
    ∃ q ∈ past, q.interface = interface ∧ s = source := by
  obtain ⟨q, hq, rfl⟩ := List.mem_map.mp hm
  cases h
  exact ⟨q, hq, rfl, rfl⟩

theorem separates_of_distinct (h : Distinct fingerprint asked) (hpast : past ⊆ asked)
    (hrequest : request ∈ asked) :
    Registry.Separates fingerprint (past.map Request.move ++ [request.move]) := by
  have hmoves : past.map Request.move ++ [request.move] =
      (past ++ [request]).map Request.move := by simp
  have hsubset : past ++ [request] ⊆ asked := by simp [hpast, hrequest]
  intro m hm m' hm' interface s interface' s' hasked hasked' hfp
  rw [hmoves] at hm hm'
  obtain ⟨q, hq, rfl, _⟩ := asked_of_mem_moves hm hasked
  obtain ⟨q', hq', rfl, _⟩ := asked_of_mem_moves hm' hasked'
  exact h q (hsubset hq) q' (hsubset hq') hfp

/-- The adapter of a request, with an id and slots. -/
def adapterOf (id : Nat) (request : Request) (slots : List Slot) : Adapter :=
  ⟨.ofSlots id request.interface source slots, ⟨0, source.ty⟩⟩

/-- **A request is served from the target alone**, whatever was asked before: if its interface has
    slots over the target, they are those of the adapter; and the error is why it has none. -/
theorem view_of_distinct (config : Config) (h : Distinct fingerprint asked) (hpast : past ⊆ asked)
    (hrequest : request ∈ asked) :
    ∃ id, ((registryAfter fingerprint config past).view fingerprint request.interface source 0).1 =
      (slotsOver config.ambiguity request.interface source).map (adapterOf id request) := by
  unfold registryAfter Registry.view
  rw [performAll_snd]
  have hregular := Registry.regular_after fingerprint config (past.map Request.move)
  -- every source presented is the target
  have honly : Registry.OnlyFrom fingerprint config (past.map Request.move) request.interface
      source := by
    refine Registry.onlyFrom_of_presented fun origin hpresented _ => ?_
    obtain ⟨m, hm, hasked⟩ := hpresented.asked
    obtain ⟨_, _, _, horigin⟩ := asked_of_mem_moves hm hasked
    exact horigin
  cases hb : (((Registry.empty config).after fingerprint (past.map Request.move)).blueprint
      fingerprint request.interface source).1 with
  | ok b =>
      obtain ⟨hi, hover⟩ := honly.isOver hb
      obtain ⟨id, name, interface, ty, slots⟩ := b
      obtain rfl : interface = request.interface := hi
      have hslots : slotsOver config.ambiguity request.interface source = .ok slots := hover.slots
      obtain rfl : ty = source.ty := hover.ty
      obtain rfl : name = Blueprint.nameFor request.interface source := hover.name
      refine ⟨id, ?_⟩
      rw [hslots]
      show _ = Except.ok (adapterOf id request slots)
      exact Registry.build_eq_ok_iff.mpr ⟨_, hb, rfl, rfl⟩
  | error e =>
      refine ⟨0, (Registry.build_eq_error_iff.mpr (Or.inl hb)).trans ?_⟩
      rcases Registry.blueprint_eq_error hregular.bounded hb with ⟨b, hk, hi, _⟩ | ⟨_, he⟩
      · have hseparates := separates_of_distinct h hpast hrequest
        exact absurd (hseparates.interface_eq rfl hk) hi
      · rw [hregular.settings] at he
        rw [he]
        rfl

/-! ## 3. The interface of some names -/

/-- No operation has this name. -/
def Unknown (name : String) : Prop :=
  ∀ op : Operation, op.name ≠ name

/-- The error of a name that no operation has. -/
def unmatched (name : String) : MatchError :=
  .noMatch ⟨name, [.i32, .i32]⟩ "Target"

/-- A method of two numbers as a call. -/
theorem render_shape_binary (name : String) :
    (binary name).shape.render = name ++ "(i32, i32)" := by
  have hparams : Text.commas ((binary name).shape.params.map Ty.shortName) = "i32, i32" := by
    show Text.commas ([.i32, .i32].map Ty.shortName) = "i32, i32"
    decide
  have hbrackets : "(" ++ ("i32, i32" ++ ")") = "(i32, i32)" := by decide
  unfold Shape.render
  rw [hparams, String.append_assoc, String.append_assoc, hbrackets]
  rfl

/-- **A slot serves the operation of a name**: it is there for the methods of this name, points to
    the place of the operation, and a call of it on the target gives the result. -/
structure ServesOperation (name : String) (op : Operation) (slot : Slot) : Prop where
  named : op.name = name
  signature : slot.signature = binary name
  index : slot.index = op.place
  thunk : ∀ a b, slot.thunk target (arguments a b) = (replyOf (op.result a b), target)

/-- A slot that forwards to the first method that fits a name of an operation. -/
theorem servesOperation_of_forwards {op : Operation} {slot : Slot}
    (h : slot.Forwards source (binary op.name)) : ServesOperation op.name op slot := by
  have hindex : slot.index = op.place := by
    have hfirst := h.first
    rw [fitting_binary] at hfirst
    exact (Option.some.inj hfirst).symm
  obtain ⟨m, hm, himplements⟩ := op.published
  obtain ⟨m', hm', _, hthunk⟩ := h.method
  rw [hindex] at hm'
  obtain rfl : m = m' := Option.some.inj (hm.symm.trans hm')
  refine ⟨rfl, h.signature, hindex, fun a b => ?_⟩
  rw [hthunk]
  exact himplements.thunk a b

/-- Slots serve the operations of some names, one by one and in order. -/
def ServesAll (names : List String) (slots : List Slot) : Prop :=
  List.Forall₂ (fun name slot => ∃ op, ServesOperation name op slot) names slots

/-- **The interface of some names over the target**: every name is that of an operation, and the
    slots serve them one by one, or the first unknown name gives the error. -/
theorem slotsOver_binary (policy : Ambiguity) (title : String) (names : List String) :
    (∃ slots, slotsOver policy ⟨title, names.map binary⟩ source = .ok slots ∧
        ServesAll names slots) ∨
      ∃ k name, FirstAt Unknown names k name ∧
        slotsOver policy ⟨title, names.map binary⟩ source =
          .error (.resolution (unmatched name)) := by
  have hknown : ∀ name, ¬ Settled policy source (binary name) ↔ Unknown name := by
    intro name
    rw [settled_binary_iff]
    exact not_exists
  rcases slotsOver_cases_of_heads policy ⟨title, names.map binary⟩ source with
    ⟨slots, hok, hall, hforwards⟩ | ⟨k, w, e, hfirst, hoffence, herror⟩ |
      ⟨k, w, _, _, hsettled, hfirst, _, _⟩
  · refine Or.inl ⟨slots, hok, ?_⟩
    rw [List.forall₂_map_left_iff] at hforwards
    have hop : ∀ name ∈ names, ∃ op : Operation, op.name = name := by
      intro name hname
      exact settled_binary_iff.mp (hall _ (List.mem_map_of_mem hname)).1
    clear hok hall
    induction hforwards with
    | nil => exact .nil
    | cons hslot _ ih =>
        obtain ⟨hhead, hrest⟩ := List.forall_mem_cons.mp hop
        obtain ⟨op, rfl⟩ := hhead
        exact .cons ⟨op, servesOperation_of_forwards hslot⟩ (ih hrest)
  · obtain ⟨name, hunknown, rfl⟩ :=
      FirstAt.of_map (p := fun w => ¬ Settled policy source w) hknown hfirst
    refine Or.inr ⟨k, name, hunknown, ?_⟩
    rw [herror, offence_binary hoffence]
    rfl
  · -- a name that is settled is that of an operation, whose method returns a number
    obtain ⟨name, _, rfl⟩ := List.mem_map.mp hfirst.mem
    obtain ⟨op, rfl⟩ := settled_binary_iff.mp (hsettled _ hfirst.mem)
    exact absurd hfirst.holds (provides_binary op).not_mistyped

/-! ## 4. Lines of a report -/

/-- The line of slot `k`, which is there for the methods of a name. -/
def slotText (k : Nat) (name : String) : String :=
  "  [" ++ toString k ++ "] " ++ name ++ "(i32, i32) -> i32 => Target::" ++ name

theorem slotLine_of_serves {name : String} {op : Operation} {slot : Slot}
    (h : ServesOperation name op slot) (k : Nat) :
    slotLine source k slot = .ok (slotText k name) := by
  obtain ⟨m, hm, himplements⟩ := op.published
  have hlookup : source.signatures[slot.index]? = some (binary name) := by
    rw [source.getElem?_signatures, h.index, hm, ← h.named]
    exact congrArg some himplements.signature
  have hresult : Ty.shortName .i32 = "i32" := by decide
  have htarget : source.name = "Target" := by decide
  have hrender : slot.signature.render = name ++ "(i32, i32)" ++ " -> " ++ "i32" := by
    rw [h.signature, ← render_shape_binary, ← hresult]
    rfl
  have htail : "(i32, i32)" ++ (" -> " ++ ("i32" ++ (" => " ++ ("Target" ++ "::")))) =
      "(i32, i32) -> i32 => Target::" := by decide
  unfold slotLine slotText
  rw [hlookup, hrender, htarget, ← htail]
  simp only [String.append_assoc]
  rfl

/-- **The lines of slots that serve some names**, one by one. -/
theorem slotLines_of_serves {names : List String} {slots : List Slot}
    (h : ServesAll names slots) (k : Nat) :
    slotLines source k slots = .ok (names.mapIdx fun j name => slotText (k + j) name) := by
  induction h generalizing k with
  | nil => rfl
  | cons hslot _ ih =>
      obtain ⟨op, hserves⟩ := hslot
      have hshift : ∀ j, k + 1 + j = k + (j + 1) := by omega
      rw [slotLines, slotLine_of_serves hserves, ih, List.mapIdx_cons]
      simp only [Except.bind, Except.map, hshift, Nat.add_zero]

/-! ## 5. One request -/

/-- The name of the interface that a request needs. -/
def Request.title : Request → String
  | run .. => "AddNumbers"
  | call .. => "Call"
  | inspect _ => "Inspect"

/-- The names of the methods that a request needs. -/
def Request.names : Request → List String
  | run .. => ["add"]
  | call method .. => [method]
  | inspect methods => methods

theorem Request.interface_eq (request : Request) :
    request.interface = ⟨request.title, request.names.map binary⟩ := by
  cases request <;> rfl

theorem perform_fst (r : Registry) (request : Request) :
    (perform fingerprint r request).1 =
      match (r.view fingerprint request.interface source 0).1 with
      | .error e => .error ⟨buildContext request, .build e⟩
      | .ok a => answer fingerprint (perform fingerprint r request).2.stats a request := by
  unfold perform
  rcases r.view fingerprint request.interface source 0 with ⟨e | a, after⟩ <;> rfl

/-- **A request performed, whatever was asked before**: its names are served one by one, by an
    adapter that gives the answer, or the first unknown name gives the error. -/
theorem performed (config : Config) (h : Distinct fingerprint asked) (hpast : past ⊆ asked)
    (hrequest : request ∈ asked) :
    (∃ id slots, ServesAll request.names slots ∧
        ((registryAfter fingerprint config past).view fingerprint request.interface source 0).1 =
          .ok (adapterOf id request slots) ∧
        (perform fingerprint (registryAfter fingerprint config past) request).1 =
          answer fingerprint
            (perform fingerprint (registryAfter fingerprint config past) request).2.stats
            (adapterOf id request slots) request) ∨
      ∃ k name, FirstAt Unknown request.names k name ∧
        ((registryAfter fingerprint config past).view fingerprint request.interface source 0).1 =
          .error (.resolution (unmatched name)) ∧
        (perform fingerprint (registryAfter fingerprint config past) request).1 =
          .error ⟨buildContext request, .build (.resolution (unmatched name))⟩ := by
  obtain ⟨id, hview⟩ := view_of_distinct config h hpast hrequest
  rw [perform_fst, hview, request.interface_eq]
  rcases slotsOver_binary config.ambiguity request.title request.names with
    ⟨slots, hslots, hserves⟩ | ⟨k, name, hfirst, herror⟩
  · rw [hslots]
    exact Or.inl ⟨id, slots, hserves, rfl, rfl⟩
  · rw [herror]
    exact Or.inr ⟨k, name, hfirst, rfl, rfl⟩

/-! ## 6. Calls -/

/-- What the result of an operation is as an answer, an error in a context. -/
def outcome (context : Option String) :
    Except ArithmeticError (BitVec 32) → Except Failure Output
  | .ok n => .ok (.number n)
  | .error e => .error ⟨context, .fault (.raised e.raised)⟩

/-- A call through the one slot of an adapter. -/
theorem valueOf_invokeTyped {a : Adapter} {name : String} {op : Operation} {slot : Slot}
    (hslot : a.blueprint.slots = [slot]) (h : ServesOperation name op slot)
    (context : Option String) (x y : BitVec 32) :
    (valueOf context (a.invokeTyped .i32 0 (arguments x y) target).1).map .number =
      outcome context (op.result x y) := by
  have hinvoke : a.invoke 0 (arguments x y) target = (replyOf (op.result x y), target) := by
    simp only [Adapter.invoke, hslot, List.getElem?_cons_zero]
    exact h.thunk x y
  have htyped : (a.invokeTyped .i32 0 (arguments x y) target).1 =
      Adapter.typedReply .i32 (replyOf (op.result x y)) := by
    unfold Adapter.invokeTyped
    rw [hinvoke]
  rw [htyped]
  cases op.result x y with
  | ok n => rfl
  | error e => rfl

/-- The context of a failed call. -/
def callContext (method : String) (a b : BitVec 32) : String :=
  method ++ "(" ++ toString a.toInt ++ ", " ++ toString b.toInt ++ ") failed"

/-- **What a call of a method by name gives.** -/
structure CallAnswered (method : String) (a b : BitVec 32) (result : Except Failure Output) :
    Prop where
  /-- A number exactly if the method is an operation that makes this number of the two. -/
  number : ∀ n, result = .ok (.number n) ↔
    ∃ op : Operation, op.name = method ∧ Computes a b op (.ok n)
  /-- Nothing but a number, if anything. -/
  noLines : ∀ ls, result ≠ .ok (.lines ls)
  /-- A failure exactly if the operation makes an error of the two, which is raised in the context of
      the call, or if there is no such operation. -/
  failure : ∀ f, result = .error f ↔
    (∃ (op : Operation) (e : ArithmeticError), op.name = method ∧ Computes a b op (.error e) ∧
        f = ⟨some (callContext method a b), .fault (.raised e.raised)⟩) ∨
      Unknown method ∧ f = ⟨none, .build (.resolution (unmatched method))⟩
  /-- The error is kept in the fault, as a value of its own type. -/
  kept : ∀ context fault, result = .error ⟨context, .fault fault⟩ →
    ∃ (op : Operation) (e : ArithmeticError), op.name = method ∧ Computes a b op (.error e) ∧
      fault.as? ArithmeticError.ty = some e.name

theorem outcome_eq_ok_iff {context : Option String} {o : Except ArithmeticError (BitVec 32)}
    {out : Output} : outcome context o = .ok out ↔ ∃ n, o = .ok n ∧ out = .number n := by
  cases o with
  | ok n => simp [outcome, eq_comm]
  | error e => simp [outcome]

theorem outcome_eq_error_iff {context : Option String} {o : Except ArithmeticError (BitVec 32)}
    {f : Failure} : outcome context o = .error f ↔
      ∃ e, o = .error e ∧ f = ⟨context, .fault (.raised e.raised)⟩ := by
  cases o with
  | ok n => simp [outcome]
  | error e => simp [outcome, eq_comm]

/-- **What an operation is found to make under its name is its result.** -/
theorem exists_computes_iff {op : Operation} {a b : BitVec 32}
    {o : Except ArithmeticError (BitVec 32)} :
    (∃ op' : Operation, op'.name = op.name ∧ Computes a b op' o) ↔ op.result a b = o := by
  constructor
  · rintro ⟨op', hname, h⟩
    obtain rfl := Operation.name_injective hname
    exact (computes a b op').unique h
  · intro h
    exact ⟨op, rfl, h ▸ computes a b op⟩

/-- The error that an operation raised is kept as a value of its type. -/
theorem ArithmeticError.as?_raised (e : ArithmeticError) :
    (Fault.raised e.raised).as? ArithmeticError.ty = some e.name :=
  Value.as?_mk ArithmeticError.ty e.name

theorem callAnswered_of_operation (op : Operation) (a b : BitVec 32) :
    CallAnswered op.name a b (outcome (some (callContext op.name a b)) (op.result a b)) where
  number n := by
    rw [outcome_eq_ok_iff, exists_computes_iff]
    constructor
    · rintro ⟨_, h, hn⟩
      cases hn
      exact h
    · exact fun h => ⟨n, h, rfl⟩
  noLines ls h := by
    obtain ⟨_, _, hn⟩ := outcome_eq_ok_iff.mp h
    cases hn
  failure f := by
    rw [outcome_eq_error_iff]
    constructor
    · rintro ⟨e, h, rfl⟩
      exact Or.inl ⟨op, e, rfl, h ▸ computes a b op, rfl⟩
    · rintro (⟨op', e, hname, h, rfl⟩ | ⟨hunknown, _⟩)
      · exact ⟨e, exists_computes_iff.mp ⟨op', hname, h⟩, rfl⟩
      · exact absurd rfl (hunknown op)
  kept context fault h := by
    obtain ⟨e, hresult, hf⟩ := outcome_eq_error_iff.mp h
    cases hf
    exact ⟨op, e, rfl, hresult ▸ computes a b op, e.as?_raised⟩

theorem callAnswered_of_unknown {method : String} (hunknown : Unknown method) (a b : BitVec 32) :
    CallAnswered method a b (.error ⟨none, .build (.resolution (unmatched method))⟩) where
  number n := by
    constructor
    · intro h
      cases h
    · rintro ⟨op, hname, _⟩
      exact absurd hname (hunknown op)
  noLines ls h := nomatch h
  failure f := by
    constructor
    · intro h
      cases h
      exact Or.inr ⟨hunknown, rfl⟩
    · rintro (⟨op, _, hname, _, _⟩ | ⟨_, rfl⟩)
      · exact absurd hname (hunknown op)
      · rfl
  kept _ _ h := nomatch h

/-- **A call by name, whatever was asked before.** -/
theorem call_answered (config : Config) (h : Distinct fingerprint asked) (hpast : past ⊆ asked)
    {method : String} {a b : BitVec 32} (hrequest : .call method a b ∈ asked) :
    CallAnswered method a b
      (perform fingerprint (registryAfter fingerprint config past) (.call method a b)).1 := by
  rcases performed config h hpast hrequest with
    ⟨id, slots, hserves, _, hresult⟩ | ⟨k, name, hfirst, _, hresult⟩
  · obtain ⟨slot, rest, ⟨op, hop⟩, hrest, rfl⟩ := List.forall₂_cons_left_iff.mp hserves
    obtain rfl := List.forall₂_nil_left_iff.mp hrest
    obtain rfl : op.name = method := hop.named
    have hcall := hresult.trans (valueOf_invokeTyped
      (a := adapterOf id (.call op.name a b) [slot]) rfl hop (some (callContext op.name a b)) a b)
    rw [hcall]
    exact callAnswered_of_operation op a b
  · obtain rfl : method = name := by
      have hmem := hfirst.mem
      exact (List.mem_singleton.mp hmem).symm
    rw [hresult]
    exact callAnswered_of_unknown hfirst.holds a b

/-- **A sum through the facade, whatever was asked before.** -/
theorem run_answered (config : Config) (h : Distinct fingerprint asked) (hpast : past ⊆ asked)
    {a b : BitVec 32} (hrequest : .run a b ∈ asked) :
    (perform fingerprint (registryAfter fingerprint config past) (.run a b)).1 =
      .ok (.number (a + b)) := by
  rcases performed config h hpast hrequest with
    ⟨id, slots, hserves, _, hresult⟩ | ⟨k, name, hfirst, _, _⟩
  · obtain ⟨slot, rest, ⟨op, hop⟩, hrest, rfl⟩ := List.forall₂_cons_left_iff.mp hserves
    obtain rfl := List.forall₂_nil_left_iff.mp hrest
    obtain rfl : op = .add := Operation.name_injective hop.named
    rw [hresult]
    exact valueOf_invokeTyped (a := adapterOf id (.run a b) [slot]) rfl hop none a b
  · obtain rfl : name = "add" := List.mem_singleton.mp hfirst.mem
    exact absurd rfl (hfirst.holds .add)

/-! ## 7. Reports -/

/-- The lines of a report on the adapter type with an id for some names: its head, one line for every
    name, in order, and the counters. -/
def reportText (fingerprint : Interface → UInt64) (names : List String) (id : Nat)
    (stats : RegistryStats) : List String :=
  ["FromInspectToTarget #" ++ toString id,
    "  interface Inspect ("
      ++ Text.hex16 (fingerprint (Request.inspect names).interface).toNat ++ ")",
    "  source Target"]
  ++ names.mapIdx slotText ++ [statsLine stats]

/-- **What a report on the adapter type for some names gives.** -/
structure InspectAnswered (fingerprint : Interface → UInt64) (r : Registry) (names : List String) :
    Prop where
  /-- There is one exactly if all names are those of operations. -/
  succeeds : (∃ out, (perform fingerprint r (.inspect names)).1 = .ok out) ↔
    ∀ name ∈ names, ∃ op : Operation, op.name = name
  /-- Its lines are those for the names, with the counters of the registry after it. -/
  lines : ∀ out, (perform fingerprint r (.inspect names)).1 = .ok out → ∃ id : Nat,
    out = .lines (reportText fingerprint names id (perform fingerprint r (.inspect names)).2.stats)
  /-- The methods that the lines look up are published. -/
  inBounds : ∀ a, (r.view fingerprint (Request.inspect names).interface source 0).1 = .ok a →
    ∀ slot ∈ a.blueprint.slots, slot.index < source.methods.length
  /-- Otherwise the error is that of the first unknown name. -/
  failure : ∀ f, (perform fingerprint r (.inspect names)).1 = .error f ↔
    ∃ k name, FirstAt Unknown names k name ∧
      f = ⟨none, .build (.resolution (unmatched name))⟩

/-- The report on an adapter type whose slots serve some names. -/
theorem answer_inspect {names : List String} {slots : List Slot}
    (h : ServesAll names slots) (id : Nat) (stats : RegistryStats) :
    answer fingerprint stats (adapterOf id (.inspect names) slots) (.inspect names) =
      .ok (.lines (reportText fingerprint names id stats)) := by
  have hlines : slotLines source 0 slots = .ok (names.mapIdx slotText) := by
    rw [slotLines_of_serves h 0]
    simp only [Nat.zero_add]
  have hname : Blueprint.nameFor (Request.inspect names).interface source ++ " " ++ "#" =
      "FromInspectToTarget #" := by
    show Blueprint.nameFor ⟨"Inspect", []⟩ source ++ " " ++ "#" = "FromInspectToTarget #"
    decide
  have hinterface : "  interface " ++ "Inspect" ++ " (" = "  interface Inspect (" := by decide
  have hsource : "  source " ++ source.ty.shortName = "  source Target" := by decide
  have hreport : report fingerprint (adapterOf id (.inspect names) slots).blueprint source stats =
      (slotLines source 0 slots).map fun lines =>
        [Blueprint.nameFor (Request.inspect names).interface source ++ " " ++ ("#" ++ toString id),
          "  interface " ++ "Inspect" ++ " ("
            ++ Text.hex16 (fingerprint (Request.inspect names).interface).toNat ++ ")",
          "  source " ++ source.ty.shortName] ++ lines ++ [statsLine stats] := rfl
  rw [hlines, ← String.append_assoc, hname, hinterface, hsource] at hreport
  simp only [answer, hreport, Except.map, reportText]

/-- **A report, whatever was asked before.** -/
theorem inspect_answered (config : Config) (h : Distinct fingerprint asked) (hpast : past ⊆ asked)
    {names : List String} (hrequest : .inspect names ∈ asked) :
    InspectAnswered fingerprint (registryAfter fingerprint config past) names := by
  rcases performed config h hpast hrequest with
    ⟨id, slots, hserves, hview, hresult⟩ | ⟨k, name, hfirst, hview, hresult⟩
  · have hknown : ∀ name ∈ names, ∃ op : Operation, op.name = name := by
      intro name hname
      obtain ⟨k, hk⟩ := List.getElem?_of_mem hname
      obtain ⟨slot, _, op, hop⟩ := exists_of_forall₂ hserves hk
      exact ⟨op, hop.named⟩
    have hall : ServesAll names slots := hserves
    rw [answer_inspect hall] at hresult
    constructor
    · exact iff_of_true ⟨_, hresult⟩ hknown
    · intro out hout
      rw [hresult] at hout
      cases hout
      exact ⟨id, rfl⟩
    · intro a ha slot hslot
      rw [hview] at ha
      cases ha
      obtain ⟨k, hk⟩ := List.getElem?_of_mem hslot
      obtain ⟨name, _, op, hop⟩ := exists_of_forall₂ hserves.flip hk
      obtain ⟨m, hm, _⟩ := op.published
      rw [hop.index]
      exact (List.getElem?_eq_some_iff.mp hm).1
    · intro f
      rw [hresult]
      constructor
      · intro hf
        cases hf
      · rintro ⟨k, name, hfirst, _⟩
        obtain ⟨op, hop⟩ := hknown name hfirst.mem
        exact absurd hop (hfirst.holds op)
  · have hunknown : ¬ ∀ name ∈ names, ∃ op : Operation, op.name = name := by
      intro hknown
      obtain ⟨op, hop⟩ := hknown name hfirst.mem
      exact hfirst.holds op hop
    have hnone : ∀ {α : Type} {x : α},
        (.error ⟨none, .build (.resolution (unmatched name))⟩ : Except Failure α) ≠ .ok x :=
      fun h => nomatch h
    constructor
    · refine iff_of_false ?_ hunknown
      rintro ⟨out, hout⟩
      exact hnone (hresult.symm.trans hout)
    · intro out hout
      exact absurd (hresult.symm.trans hout) hnone
    · intro a ha
      rw [hview] at ha
      cases ha
    · intro f
      rw [hresult]
      constructor
      · intro hf
        cases hf
        exact ⟨k, name, hfirst, rfl⟩
      · rintro ⟨k', name', hfirst', rfl⟩
        obtain ⟨_, rfl⟩ := hfirst.unique hfirst'
        rfl

/-! ## 8. All requests -/

/-- **Requests compute the arithmetic of the target, whatever was asked before**: for every
    configuration, after any of the requests asked, in any order and number, as long as no two
    different interfaces of them have one fingerprint. -/
theorem answers_compute (fingerprint : Interface → UInt64) (config : Config)
    (asked past : List Request) (hdistinct : Distinct fingerprint asked) (hpast : past ⊆ asked) :
    (∀ method a b, .call method a b ∈ asked → CallAnswered method a b
      (perform fingerprint (registryAfter fingerprint config past) (.call method a b)).1) ∧
    (∀ a b, .run a b ∈ asked → ∃ n, Computes a b .add (.ok n) ∧
      (perform fingerprint (registryAfter fingerprint config past) (.run a b)).1 =
        .ok (.number n)) ∧
    (∀ a b, .run a b ∈ asked → .call "add" a b ∈ asked →
      (perform fingerprint (registryAfter fingerprint config past) (.run a b)).1 =
        (perform fingerprint (registryAfter fingerprint config past) (.call "add" a b)).1) ∧
    (∀ names, .inspect names ∈ asked →
      InspectAnswered fingerprint (registryAfter fingerprint config past) names) := by
  refine ⟨fun method a b h => call_answered config hdistinct hpast h, fun a b h => ?_,
    fun a b hrun hcall => ?_, fun names h => inspect_answered config hdistinct hpast h⟩
  · exact ⟨a + b, computes a b .add, run_answered config hdistinct hpast h⟩
  · rw [run_answered config hdistinct hpast hrun]
    have hanswered := call_answered config hdistinct hpast hcall
    exact ((hanswered.number (a + b)).mpr ⟨.add, rfl, computes a b .add⟩).symm

/-- A sum that wraps, asked for in both ways, and a report, in a registry that keeps one adapter
    type; the interfaces are told apart by their names. -/
def mixed : List Request :=
  [.run 2147483647 1, .call "add" 2147483647 1, .inspect ["mul", "div", "mul"]]

theorem answers_compute_mixed :
    Distinct (fun i => .ofNat i.name.length) mixed ∧
      (perform (fun i => .ofNat i.name.length)
          (registryAfter (fun i => .ofNat i.name.length) ⟨.lru 1, .reject⟩ (mixed ++ mixed))
          (.call "add" 2147483647 1)).1 = .ok (.number (-2147483648)) ∧
      InspectAnswered (fun i => .ofNat i.name.length)
        (registryAfter (fun i => .ofNat i.name.length) ⟨.lru 1, .reject⟩ (mixed ++ mixed))
        ["mul", "div", "mul"] := by
  have hdistinct : Distinct (fun i => .ofNat i.name.length) mixed := by
    unfold Distinct mixed
    decide
  obtain ⟨hcall, _, _, hinspect⟩ := answers_compute (fun i => .ofNat i.name.length)
    ⟨.lru 1, .reject⟩ mixed (mixed ++ mixed) hdistinct (by simp)
  have hsum : Computes 2147483647 1 .add (.ok (-2147483648)) := .add _ (by decide)
  refine ⟨hdistinct, ?_, hinspect _ (by simp [mixed])⟩
  exact ((hcall "add" 2147483647 1 (by simp [mixed])).number _).mpr ⟨.add, rfl, hsum⟩

end Structural.Demo
