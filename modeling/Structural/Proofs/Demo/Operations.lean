import Mathlib.Algebra.Ring.Int.Defs
import Mathlib.Algebra.Ring.Nat
import Structural.Proofs.Registry.Minting
import Structural.Demo.Request

/-!
# What the demonstration target computes

The four published methods, told apart from the numbers they compute with.

* `Operation` -- the operations, each with the name it is published under and its place;
* `Computes` -- **what an operation makes of two numbers**, said of the integers they stand for. A
  number of 32 bits or an error, never both and never neither (`computes`, `Computes.unique`);
* `Operation.published` -- at the place of an operation stands a method that implements it;
* `fitting_binary`, `fitting_unknown` -- **the name of an operation fits one method**, and any other
  name fits none;
* `settled_binary_iff` -- so that the operations are what can be bound, under either policy.
-/

namespace Structural.Demo

/-! ## 1. Operations -/

/-- **The operations** on two numbers. -/
inductive Operation where
  | add
  | sub
  | mul
  | div
deriving DecidableEq, Repr

namespace Operation

/-- The name under which an operation is published. -/
def name : Operation → String
  | add => "add"
  | sub => "sub"
  | mul => "mul"
  | div => "div"

/-- The place of an operation among the published methods. -/
def place : Operation → Nat
  | add => 0
  | sub => 1
  | mul => 2
  | div => 3

theorem name_injective {op op' : Operation} (h : op.name = op'.name) : op = op' := by
  cases op <;> cases op' <;> first | rfl | exact absurd h (by decide)

end Operation

/-- An integer that a signed number of 32 bits can stand for. -/
def Fits (z : Int) : Prop :=
  -2 ^ 31 ≤ z ∧ z < 2 ^ 31

/-- **What an operation makes of two numbers.** A sum or a difference is reduced to 32 bits; a
    product and a quotient are exact, the quotient toward zero, or they are errors. -/
inductive Computes (a b : BitVec 32) : Operation → Except ArithmeticError (BitVec 32) → Prop where
  | add (n : BitVec 32) (h : n.toInt = (a.toInt + b.toInt).bmod (2 ^ 32)) : Computes a b .add (.ok n)
  | sub (n : BitVec 32) (h : n.toInt = (a.toInt - b.toInt).bmod (2 ^ 32)) : Computes a b .sub (.ok n)
  | mul (n : BitVec 32) (hfits : Fits (a.toInt * b.toInt)) (h : n.toInt = a.toInt * b.toInt) :
      Computes a b .mul (.ok n)
  | mulOverflow (h : ¬ Fits (a.toInt * b.toInt)) : Computes a b .mul (.error .overflow)
  | div (n : BitVec 32) (hzero : b.toInt ≠ 0) (hleast : ¬ (a.toInt = -2 ^ 31 ∧ b.toInt = -1))
      (h : n.toInt = a.toInt.tdiv b.toInt) : Computes a b .div (.ok n)
  | divByZero (h : b.toInt = 0) : Computes a b .div (.error .divisionByZero)
  | divOverflow (ha : a.toInt = -2 ^ 31) (hb : b.toInt = -1) : Computes a b .div (.error .overflow)

/-! ## 2. Each operation computes -/

theorem fits_iff {a b : BitVec 32} :
    Fits (a.toInt * b.toInt) ↔ a.smulOverflow b = false := by
  unfold Fits BitVec.smulOverflow
  simp only [Bool.or_eq_false_iff, decide_eq_false_iff_not, ge_iff_le]
  omega

theorem computes_product (a b : BitVec 32) : Computes a b .mul (product a b) := by
  unfold product
  cases hover : a.smulOverflow b with
  | true =>
      have hfits : ¬ Fits (a.toInt * b.toInt) := by simp [fits_iff, hover]
      exact .mulOverflow hfits
  | false =>
      have hexact : (a * b).toInt = a.toInt * b.toInt :=
        BitVec.toInt_mul_of_not_smulOverflow (by simp [hover])
      exact .mul _ (fits_iff.mpr hover) hexact

/-- A number of 32 bits is known by the integer that it stands for. -/
theorem toInt_eq_iff {x y : BitVec 32} {z : Int} (h : y.toInt = z) : x.toInt = z ↔ x = y := by
  rw [← h, BitVec.toInt_inj]

theorem computes_quotient (a b : BitVec 32) : Computes a b .div (quotient a b) := by
  have hz : b.toInt = 0 ↔ b = 0 := toInt_eq_iff (by decide)
  have hm : b.toInt = -1 ↔ b = -1 := toInt_eq_iff (by decide)
  have hl : a.toInt = -2 ^ 31 ↔ a = BitVec.intMin 32 := toInt_eq_iff (by decide)
  unfold quotient
  by_cases hzero : b = 0
  · rw [if_pos hzero]
    exact .divByZero (hz.mpr hzero)
  · rw [if_neg hzero]
    by_cases hleast : a = BitVec.intMin 32 ∧ b = -1
    · rw [if_pos hleast]
      exact .divOverflow (hl.mpr hleast.1) (hm.mpr hleast.2)
    · rw [if_neg hleast]
      -- the only quotient that does not fit is ruled out
      have hexact : (a.sdiv b).toInt = a.toInt.tdiv b.toInt :=
        BitVec.toInt_sdiv_of_ne_or_ne a b (not_and_or.mp hleast)
      refine .div _ (mt hz.mp hzero) (fun h => hleast ?_) hexact
      exact ⟨hl.mp h.1, hm.mp h.2⟩

namespace Operation

/-- The result of an operation, as the target computes it. -/
def result (a b : BitVec 32) : Operation → Except ArithmeticError (BitVec 32)
  | add => .ok (a + b)
  | sub => .ok (a - b)
  | mul => product a b
  | div => quotient a b

end Operation

/-- **Every operation makes something of every two numbers.** -/
theorem computes (a b : BitVec 32) (op : Operation) : Computes a b op (op.result a b) := by
  cases op with
  | add => exact .add _ (BitVec.toInt_add a b)
  | sub => exact .sub _ BitVec.toInt_sub
  | mul => exact computes_product a b
  | div => exact computes_quotient a b

/-- **It makes only one thing of them.** -/
theorem Computes.unique {a b : BitVec 32} {op : Operation}
    {o o' : Except ArithmeticError (BitVec 32)} (h : Computes a b op o) (h' : Computes a b op o') :
    o = o' := by
  have hsame : ∀ {n n' : BitVec 32} {z : Int}, n.toInt = z → n'.toInt = z →
      (.ok n : Except ArithmeticError (BitVec 32)) = .ok n' := by
    intro n n' z hn hn'
    rw [BitVec.eq_of_toInt_eq (hn.trans hn'.symm)]
  cases h with
  | add n hn =>
      cases h' with
      | add n' hn' => exact hsame hn hn'
  | sub n hn =>
      cases h' with
      | sub n' hn' => exact hsame hn hn'
  | mul n hfits hn =>
      cases h' with
      | mul n' _ hn' => exact hsame hn hn'
      | mulOverflow h => exact absurd hfits h
  | mulOverflow h =>
      cases h' with
      | mul _ hfits => exact absurd hfits h
      | mulOverflow => rfl
  | div n hzero hleast hn =>
      cases h' with
      | div n' _ _ hn' => exact hsame hn hn'
      | divByZero h => exact absurd h hzero
      | divOverflow ha hb => exact absurd ⟨ha, hb⟩ hleast
  | divByZero h =>
      cases h' with
      | div _ hzero => exact absurd h hzero
      | divByZero => rfl
      | divOverflow _ hb => omega
  | divOverflow ha hb =>
      cases h' with
      | div _ _ hleast => exact absurd ⟨ha, hb⟩ hleast
      | divByZero h => omega
      | divOverflow => rfl

/-! ## 3. The published methods -/

/-- How a result comes out of a method: a number as a value, an error raised. -/
def replyOf : Except ArithmeticError (BitVec 32) → Reply Value
  | .ok n => .value ⟨.i32, n⟩
  | .error e => .fault (.raised e.raised)

/-- The two numbers as arguments. -/
def arguments (a b : BitVec 32) : List Value :=
  [⟨.i32, a⟩, ⟨.i32, b⟩]

/-- **A method implements an operation**: it takes two numbers, is published under the name of the
    operation, and a call of it on the target gives the result and leaves the target. -/
structure Implements (m : Method targetTy) (op : Operation) : Prop where
  signature : m.signature = binary op.name
  thunk : ∀ a b, m.thunk target (arguments a b) = (replyOf (op.result a b), target)

theorem implements_combining {op : Operation} {combine : BitVec 32 → BitVec 32 → BitVec 32}
    (h : ∀ a b, op.result a b = .ok (combine a b)) :
    Implements (.combining op.name .i32 combine) op where
  signature := rfl
  thunk a b := by
    rw [h]
    exact Method.thunk_of_typed (.combining op.name .i32 combine : Method targetTy) ()
      (.cons a (.cons b .nil))

theorem implements_tryCombining {op : Operation}
    {combine : BitVec 32 → BitVec 32 → Except ArithmeticError (BitVec 32)}
    (h : ∀ a b, op.result a b = combine a b) :
    Implements
      (.tryCombining op.name .i32 fun x y => (combine x y).mapError ArithmeticError.raised) op where
  signature := rfl
  thunk a b := by
    have hcall := Method.thunk_of_typed (.tryCombining op.name .i32 fun x y =>
      (combine x y).mapError ArithmeticError.raised : Method targetTy) () (.cons a (.cons b .nil))
    refine hcall.trans ?_
    -- the body raises what the operation gives as an error
    rw [h]
    cases hresult : combine a b with
    | ok n => simp [Method.tryCombining, Body.tryArgs, Body.run, hresult, replyOf, target,
        Except.mapError]
    | error e => simp [Method.tryCombining, Body.tryArgs, Body.run, hresult, replyOf, target,
        Except.mapError]

/-- **At the place of an operation stands a method that implements it.** -/
theorem Operation.published (op : Operation) :
    ∃ m, source.methods[op.place]? = some m ∧ Implements m op := by
  cases op with
  | add => exact ⟨_, rfl, @implements_combining .add _ fun _ _ => rfl⟩
  | sub => exact ⟨_, rfl, @implements_combining .sub _ fun _ _ => rfl⟩
  | mul => exact ⟨_, rfl, @implements_tryCombining .mul _ fun _ _ => rfl⟩
  | div => exact ⟨_, rfl, @implements_tryCombining .div _ fun _ _ => rfl⟩

/-- Nothing else is published. -/
theorem operation_of_method {k : Nat} {m : Method source.ty} (h : source.methods[k]? = some m) :
    ∃ op : Operation, op.place = k ∧ Implements m op := by
  have hplace : ∃ op : Operation, op.place = k := by
    match k with
    | 0 => exact ⟨.add, rfl⟩
    | 1 => exact ⟨.sub, rfl⟩
    | 2 => exact ⟨.mul, rfl⟩
    | 3 => exact ⟨.div, rfl⟩
    | k + 4 => cases h
  obtain ⟨op, rfl⟩ := hplace
  obtain ⟨m', hm', himplements⟩ := op.published
  obtain rfl : m = m' := Option.some.inj (h.symm.trans hm')
  exact ⟨op, rfl, himplements⟩

/-! ## 4. What fits a name -/

/-- What fits a name stands at the place of an operation with this name. -/
theorem mem_fitting_binary {name : String} {k : Nat} :
    k ∈ source.fitting (binary name) ↔ ∃ op : Operation, op.name = name ∧ op.place = k := by
  rw [Source.mem_fitting]
  constructor
  · rintro ⟨m, hm, hname, _⟩
    obtain ⟨op, hplace, himplements⟩ := operation_of_method hm
    have hop : m.name = op.name := congrArg (fun s : Signature => s.name) himplements.signature
    exact ⟨op, hop.symm.trans hname, hplace⟩
  · rintro ⟨op, rfl, rfl⟩
    obtain ⟨m, hm, himplements⟩ := op.published
    have hname : m.name = op.name := congrArg (fun s : Signature => s.name) himplements.signature
    have hparams : m.params = [.i32, .i32] :=
      congrArg (fun s : Signature => s.params) himplements.signature
    exact ⟨m, hm, hname, hparams⟩

/-- **Of the published methods exactly one fits the name of an operation.** -/
theorem fitting_binary (op : Operation) : source.fitting (binary op.name) = [op.place] := by
  have hmem : ∀ k, k ∈ source.fitting (binary op.name) ↔ k = op.place := by
    intro k
    rw [mem_fitting_binary]
    constructor
    · rintro ⟨op', hname, rfl⟩
      rw [Operation.name_injective hname]
    · rintro rfl
      exact ⟨op, rfl, rfl⟩
  -- the indices that fit increase, so none stands there twice
  have hincreasing := source.fitting_increasing (binary op.name)
  match hlist : source.fitting (binary op.name) with
  | [] =>
      have h := (hmem op.place).mpr rfl
      rw [hlist] at h
      cases h
  | [k] =>
      rw [(hmem k).mp (by simp [hlist])]
  | k :: l :: rest =>
      have hk : k = op.place := (hmem k).mp (by simp [hlist])
      have hl : l = op.place := (hmem l).mp (by simp [hlist])
      rw [hlist, hk, hl] at hincreasing
      simp at hincreasing

/-- No published method fits another name. -/
theorem fitting_unknown {name : String} (h : ∀ op : Operation, op.name ≠ name) :
    source.fitting (binary name) = [] := by
  refine List.eq_nil_iff_forall_not_mem.mpr fun k hk => ?_
  obtain ⟨op, hname, _⟩ := mem_fitting_binary.mp hk
  exact h op hname

variable {policy : Ambiguity}

theorem settled_binary (op : Operation) : Settled policy source (binary op.name) where
  candidate := by
    rw [fitting_binary]
    exact List.cons_ne_nil _ _
  sole _ := by
    rw [fitting_binary]
    rfl

theorem firstFit_binary (op : Operation) :
    ∃ m, FirstFit source (binary op.name) op.place m ∧ Implements m op := by
  obtain ⟨m, hm, himplements⟩ := op.published
  exact ⟨m, ⟨by rw [fitting_binary]; rfl, hm⟩, himplements⟩

theorem provides_binary (op : Operation) : source.Provides (binary op.name) := by
  obtain ⟨m, hfit, himplements⟩ := firstFit_binary op
  exact ⟨op.place, m, hfit, (congrArg Signature.result himplements.signature).symm⟩

/-- **A method of two numbers can be bound exactly if its name is that of an operation**, under
    either policy. -/
theorem settled_binary_iff {name : String} :
    Settled policy source (binary name) ↔ ∃ op : Operation, op.name = name := by
  constructor
  · intro h
    by_contra hnone
    exact h.candidate (fitting_unknown fun op hop => hnone ⟨op, hop⟩)
  · rintro ⟨op, rfl⟩
    exact settled_binary op

/-- **The error of any other name** carries it with the types of two numbers. -/
theorem offence_binary {name : String} {e : MatchError}
    (h : Offence policy source (binary name) e) :
    e = .noMatch ⟨name, [.i32, .i32]⟩ "Target" := by
  have hunknown : ∀ op : Operation, op.name ≠ name := by
    rintro op rfl
    exact h.not_settled (settled_binary op)
  have htarget : source.name = "Target" := by decide
  rw [← htarget]
  exact h.unique (.none (fitting_unknown hunknown))

end Structural.Demo
