import Mathlib.Data.List.Sort
import Mathlib.Logic.Equiv.Defs
import Structural.Demo.Arithmetic
import Structural.Proofs.Resolution.PlainScan

/-!
# What the order of registration decides

The same methods may be registered in another order, and among others. What resolution binds a slot
to is followed from one list of methods to the other by where each method stands.

* `Binding.moved` -- a slot bound to another index; `resolve_moved` -- **if the choice for every slot
  moves, the table moves, and an error stays as it is**;
* `Relocates` -- every method of a list stands in another list at a place of its own, and the rest
  there fits no slot, so that **the methods that fit a slot move with it** (`Relocates.perm`), in the
  same order if the places increase (`Relocates.fitting_eq`);
* `Source.permuted`, `Inserted` -- methods in another order, and methods with others among them;
  `fitting_append` -- methods registered later fit later;
* `order_matters_to_choice_only` -- **under rejection the order does not matter, and under both
  policies methods that fit no slot do not**; under first match methods registered later do not
  matter to an interface that resolves.
-/

namespace Structural

variable {interface : Interface} {policy : Ambiguity}

/-! ## 1. Tables that move -/

/-- A slot bound to the place that an index has moved to. -/
def Binding.moved (f : Nat → Nat) (b : Binding) : Binding :=
  { b with index := f b.index }

/-- **If the choice for every slot moves, so does the scan.** -/
theorem scanFrom_moved {source source' : Source} {f : Nat → Nat} :
    ∀ (signatures : List Signature) (slot : Nat),
      (∀ w ∈ signatures, choose policy source'.name w.shape (source'.fitting w) =
        (choose policy source.name w.shape (source.fitting w)).map f) →
      scanFrom policy source' (NameIndex.ofSignatures source'.signatures) slot signatures =
        ⟨(scanFrom policy source (NameIndex.ofSignatures source.signatures) slot
            signatures).bound.map (Binding.moved f),
          (scanFrom policy source (NameIndex.ofSignatures source.signatures) slot
            signatures).failure⟩
  | [], _, _ => rfl
  | w :: rest, slot, h => by
      have hrest : ∀ v ∈ rest, choose policy source'.name v.shape (source'.fitting v) =
          (choose policy source.name v.shape (source.fitting v)).map f := by
        intro v hv
        exact h v (List.mem_cons_of_mem w hv)
      have hw := h w List.mem_cons_self
      unfold scanFrom
      rw [candidates_eq_fitting, candidates_eq_fitting, hw,
        scanFrom_moved rest (slot + 1) hrest]
      cases choose policy source.name w.shape (source.fitting w) with
      | error e => rfl
      | ok k => rfl

/-- **If the choice for every slot moves, the table moves, and an error stays as it is.** -/
theorem resolve_moved {source source' : Source} {f : Nat → Nat}
    (h : ∀ w ∈ interface.methods, choose policy source'.name w.shape (source'.fitting w) =
      (choose policy source.name w.shape (source.fitting w)).map f) :
    resolve policy interface source' =
      (resolve policy interface source).map (List.map (Binding.moved f)) := by
  unfold resolve scan
  rw [scanFrom_moved interface.methods 0 h]
  dsimp only
  cases (scanFrom policy source (NameIndex.ofSignatures source.signatures) 0
    interface.methods).failure <;> rfl

/-! ## 2. Choices that move -/

/-- A choice moves with the methods that it is made among, if they keep their order. -/
theorem choose_map (policy : Ambiguity) (name : String) (shape : Shape) (f : Nat → Nat)
    (indices : List Nat) :
    choose policy name shape (indices.map f) = (choose policy name shape indices).map f := by
  rcases indices with _ | ⟨first, _ | ⟨second, rest⟩⟩
  · rfl
  · rfl
  · cases policy with
    | firstMatch => rfl
    | reject =>
        show Except.error (MatchError.ambiguous shape name ((rest.map f).length + 2)) = _
        rw [List.length_map]
        rfl

/-- With rejection it does not depend on their order. -/
theorem choose_reject_perm {name : String} {shape : Shape} {indices indices' : List Nat}
    (h : indices'.Perm indices) :
    choose .reject name shape indices' = choose .reject name shape indices := by
  have hlength := h.length_eq
  rcases indices with _ | ⟨first, _ | ⟨second, rest⟩⟩
  · rw [List.perm_nil.mp h]
  · rw [List.perm_singleton.mp h]
  · rcases indices' with _ | ⟨first', _ | ⟨second', rest'⟩⟩
    · simp at hlength
    · simp at hlength
    · have hrest : rest'.length = rest.length := by simpa using hlength
      show Except.error (MatchError.ambiguous shape name (rest'.length + 2)) = _
      rw [hrest]
      rfl

/-! ## 3. Methods that stand elsewhere -/

variable {ty : Ty} {methods methods' : List (Method ty)} {f : Nat → Nat} {wanted : Signature}

/-- A method fits no slot of an interface. -/
def Method.Foreign (interface : Interface) (m : Method ty) : Prop :=
  ∀ w ∈ interface.methods, ¬ (m.name = w.name ∧ m.params = w.params)

/-- **The methods of one list stand in another**: each at a place of its own, and the rest there fits
    no slot of the interface. -/
structure Relocates (interface : Interface) (f : Nat → Nat) (methods methods' : List (Method ty)) :
    Prop where
  stands : ∀ k m, methods[k]? = some m → methods'[f k]? = some m
  apart : ∀ j k, j < methods.length → k < methods.length → f j = f k → j = k
  others : ∀ k m, methods'[k]? = some m →
    (∃ j < methods.length, f j = k) ∨ m.Foreign interface

namespace Relocates

/-- **A method fits a slot where it stands exactly if it fitted it before.** -/
theorem mem_fitting_iff (h : Relocates interface f methods methods')
    (hw : wanted ∈ interface.methods) (k : Nat) :
    k ∈ (Source.mk ty methods').fitting wanted ↔
      k ∈ ((Source.mk ty methods).fitting wanted).map f := by
  rw [List.mem_map]
  constructor
  · intro hk
    obtain ⟨m, hm, hfits⟩ := Source.mem_fitting.mp hk
    -- a method that fits is not among the rest
    rcases h.others k m hm with ⟨j, hj, rfl⟩ | hforeign
    · have hget : methods[j]? = some methods[j] := List.getElem?_eq_getElem hj
      have hsame : methods[j] = m := Option.some.inj ((h.stands j _ hget).symm.trans hm)
      rw [hsame] at hget
      exact ⟨j, Source.mem_fitting.mpr ⟨m, hget, hfits⟩, rfl⟩
    · exact absurd hfits (hforeign wanted hw)
  · rintro ⟨j, hj, rfl⟩
    obtain ⟨m, hm, hfits⟩ := Source.mem_fitting.mp hj
    exact Source.mem_fitting.mpr ⟨m, h.stands j m hm, hfits⟩

/-- **The methods that fit a slot move**, in some order. -/
theorem perm (h : Relocates interface f methods methods') (hw : wanted ∈ interface.methods) :
    ((Source.mk ty methods').fitting wanted).Perm
      (((Source.mk ty methods).fitting wanted).map f) := by
  have hlt : ∀ k ∈ (Source.mk ty methods).fitting wanted, k < methods.length := by
    intro k hk
    obtain ⟨m, hm, _⟩ := Source.mem_fitting.mp hk
    exact (List.getElem?_eq_some_iff.mp hm).1
  have hnodup : ((Source.mk ty methods).fitting wanted).Nodup :=
    (Source.fitting_increasing _ wanted).imp Nat.ne_of_lt
  have hnodup' : ((Source.mk ty methods').fitting wanted).Nodup :=
    (Source.fitting_increasing _ wanted).imp Nat.ne_of_lt
  -- neither list repeats an index, so that it is enough to compare members
  refine (List.perm_ext_iff_of_nodup hnodup' (hnodup.map_on ?_)).mpr (h.mem_fitting_iff hw)
  intro j hj k hk heq
  exact h.apart j k (hlt j hj) (hlt k hk) heq

/-- **They keep their order if the places increase.** -/
theorem fitting_eq (h : Relocates interface f methods methods') (hf : StrictMono f)
    (hw : wanted ∈ interface.methods) :
    (Source.mk ty methods').fitting wanted = ((Source.mk ty methods).fitting wanted).map f := by
  have hincreasing : (((Source.mk ty methods).fitting wanted).map f).Pairwise (· < ·) := by
    refine List.pairwise_map.mpr ((Source.fitting_increasing _ wanted).imp ?_)
    intro j k hjk
    exact hf hjk
  exact (Source.fitting_increasing _ wanted).eq_of_mem_iff hincreasing (h.mem_fitting_iff hw)

/-- **Under rejection a table moves with the methods**, in whatever order they stand. -/
theorem resolve_reject (h : Relocates interface f methods methods') :
    resolve .reject interface ⟨ty, methods'⟩ =
      (resolve .reject interface ⟨ty, methods⟩).map (List.map (Binding.moved f)) := by
  refine resolve_moved fun w hw => ?_
  rw [choose_reject_perm (h.perm hw)]
  exact choose_map .reject _ _ f _

/-- **Under both policies it does if they keep their order.** -/
theorem resolve_of_strictMono (h : Relocates interface f methods methods') (hf : StrictMono f)
    (policy : Ambiguity) :
    resolve policy interface ⟨ty, methods'⟩ =
      (resolve policy interface ⟨ty, methods⟩).map (List.map (Binding.moved f)) := by
  refine resolve_moved fun w hw => ?_
  rw [h.fitting_eq hf hw]
  exact choose_map policy _ _ f _

end Relocates

/-! ## 4. Another order -/

/-- The methods of a source in another order: the method at `p i` stands at `i`. -/
def Source.permuted (source : Source) (p : Equiv.Perm (Fin source.methods.length)) : Source :=
  ⟨source.ty, List.ofFn fun i => source.methods.get (p i)⟩

/-- Where the method at an index stands then. -/
def placeAfter {n : Nat} (p : Equiv.Perm (Fin n)) (k : Nat) : Nat :=
  if h : k < n then p.symm ⟨k, h⟩ else k

theorem relocates_permuted (interface : Interface) (source : Source)
    (p : Equiv.Perm (Fin source.methods.length)) :
    Relocates interface (placeAfter p) source.methods (source.permuted p).methods where
  stands := by
    intro k m hm
    obtain ⟨hk, rfl⟩ := List.getElem?_eq_some_iff.mp hm
    simp [Source.permuted, placeAfter, hk]
  apart := by
    intro j k hj hk heq
    simp only [placeAfter, hj, hk, dif_pos] at heq
    have hsame := p.symm.injective (Fin.ext heq)
    exact congrArg Fin.val hsame
  others := by
    intro k m hm
    have hk : k < source.methods.length := by
      have hlt := (List.getElem?_eq_some_iff.mp hm).1
      simpa [Source.permuted] using hlt
    refine Or.inl ⟨p ⟨k, hk⟩, (p ⟨k, hk⟩).isLt, ?_⟩
    simp [placeAfter]

/-! ## 5. Methods inserted -/

/-- **Methods with others among them**: the second list is the first with methods of a kind inserted
    anywhere. -/
inductive Inserted (kind : Method ty → Prop) : List (Method ty) → List (Method ty) → Prop where
  | nil : Inserted kind [] []
  | keep {rest rest' : List (Method ty)} (m : Method ty) (h : Inserted kind rest rest') :
      Inserted kind (m :: rest) (m :: rest')
  | insert {rest rest' : List (Method ty)} {m : Method ty} (hm : kind m)
      (h : Inserted kind rest rest') : Inserted kind rest (m :: rest')

theorem Inserted.refl {kind : Method ty → Prop} :
    ∀ methods : List (Method ty), Inserted kind methods methods
  | [] => .nil
  | m :: rest => .keep m (.refl rest)

/-- Places behind a first one that stays. -/
def behind (f : Nat → Nat) : Nat → Nat
  | 0 => 0
  | k + 1 => f k + 1

theorem behind_strictMono (hf : StrictMono f) : StrictMono (behind f) := by
  intro j k hjk
  cases k with
  | zero => exact absurd hjk (Nat.not_lt_zero j)
  | succ k =>
      cases j with
      | zero => exact Nat.succ_pos (f k)
      | succ j => exact Nat.succ_lt_succ (hf (Nat.lt_of_succ_lt_succ hjk))

/-- The same method in front of both lists stays in front. -/
theorem Relocates.keep (h : Relocates interface f methods methods') (m : Method ty) :
    Relocates interface (behind f) (m :: methods) (m :: methods') where
  stands := by
    intro k n hn
    cases k with
    | zero => exact hn
    | succ k => exact h.stands k n hn
  apart := by
    intro j k hj hk heq
    cases j <;> cases k
    · rfl
    · exact absurd heq (Nat.succ_ne_zero _).symm
    · exact absurd heq (Nat.succ_ne_zero _)
    · exact congrArg Nat.succ (h.apart _ _ (Nat.lt_of_succ_lt_succ hj) (Nat.lt_of_succ_lt_succ hk)
        (Nat.succ.inj heq))
  others := by
    intro k n hn
    cases k with
    | zero => exact Or.inl ⟨0, Nat.succ_pos _, rfl⟩
    | succ k =>
        rcases h.others k n hn with ⟨j, hj, hjk⟩ | hforeign
        · exact Or.inl ⟨j + 1, Nat.succ_lt_succ hj, congrArg Nat.succ hjk⟩
        · exact Or.inr hforeign

/-- A method in front that fits no slot moves the others back by one place. -/
theorem Relocates.insert (h : Relocates interface f methods methods') {m : Method ty}
    (hm : m.Foreign interface) :
    Relocates interface (fun k => f k + 1) methods (m :: methods') where
  stands := by
    intro k n hn
    exact h.stands k n hn
  apart := by
    intro j k hj hk heq
    exact h.apart j k hj hk (Nat.succ.inj heq)
  others := by
    intro k n hn
    cases k with
    | zero =>
        cases hn
        exact Or.inr hm
    | succ k =>
        rcases h.others k n hn with ⟨j, hj, hjk⟩ | hforeign
        · exact Or.inl ⟨j, hj, congrArg Nat.succ hjk⟩
        · exact Or.inr hforeign

/-- **The methods that were there stand further back, in the same order.** -/
theorem Inserted.relocates (h : Inserted (Method.Foreign interface) methods methods') :
    ∃ f, StrictMono f ∧ Relocates interface f methods methods' := by
  induction h with
  | nil =>
      refine ⟨id, strictMono_id, ⟨fun _ _ hm => hm, fun _ _ _ _ heq => heq, ?_⟩⟩
      intro k m hm
      cases hm
  | keep m _ ih =>
      obtain ⟨f, hf, hmoves⟩ := ih
      exact ⟨behind f, behind_strictMono hf, hmoves.keep m⟩
  | insert hm _ ih =>
      obtain ⟨f, hf, hmoves⟩ := ih
      exact ⟨fun k => f k + 1, fun _ _ hjk => Nat.succ_lt_succ (hf hjk), hmoves.insert hm⟩

/-! ## 6. Methods registered later -/

variable {more : List (Method ty)}

/-- What fitted before fits first. -/
theorem fitting_append (methods more : List (Method ty)) (wanted : Signature) :
    ∃ later, (Source.mk ty (methods ++ more)).fitting wanted =
      (Source.mk ty methods).fitting wanted ++ later := by
  unfold Source.fitting
  rw [List.length_append, List.range_add, List.filter_append]
  refine ⟨_, congrArg (· ++ _) (List.filter_congr ?_)⟩
  intro k hk
  show ((methods ++ more)[k]?.any _) = methods[k]?.any _
  rw [List.getElem?_append_left (List.mem_range.mp hk)]

/-- **Methods registered later are not looked at**: under first match the table stays as it is. -/
theorem resolve_append {table : Table}
    (h : resolve .firstMatch interface ⟨ty, methods⟩ = .ok table) :
    resolve .firstMatch interface ⟨ty, methods ++ more⟩ = .ok table := by
  have hsettled : ∀ w ∈ interface.methods, Settled .firstMatch ⟨ty, methods ++ more⟩ w := by
    intro w hw
    obtain ⟨later, hlater⟩ := fitting_append methods more w
    have hsome := (exists_resolve_iff.mp ⟨table, h⟩ w hw).candidate
    exact ⟨by simp [hlater, hsome], fun hp => nomatch hp⟩
  -- the first method that fits stands where it stood
  have hbound := boundBy_of_resolve h
  refine resolve_eq_ok_of_boundBy hsettled ⟨hbound.length_eq, fun k w hk => ?_⟩
  obtain ⟨i, hi, hget⟩ := hbound.entry k w hk
  obtain ⟨later, hlater⟩ := fitting_append methods more w
  exact ⟨i, by rw [hlater, List.head?_append, hi, Option.some_or], hget⟩

/-! ## 7. What the order decides -/

/-- **The order of registration matters to the choice among several methods only.**

    Under rejection, in whatever order the methods stand, every slot is bound to the same method,
    wherever it stands then, or the error is the same. Under both policies so it is if methods that
    fit no slot are inserted anywhere. Under first match a table stays as it is if any methods are
    registered later. -/
theorem order_matters_to_choice_only (interface : Interface) (source : Source) :
    (∀ p : Equiv.Perm (Fin source.methods.length),
      (∀ k m, source.methods[k]? = some m →
        (source.permuted p).methods[placeAfter p k]? = some m) ∧
      resolve .reject interface (source.permuted p) =
        (resolve .reject interface source).map (List.map (Binding.moved (placeAfter p)))) ∧
    (∀ methods', Inserted (Method.Foreign interface) source.methods methods' →
      ∃ f, StrictMono f ∧ (∀ k m, source.methods[k]? = some m → methods'[f k]? = some m) ∧
        ∀ policy, resolve policy interface ⟨source.ty, methods'⟩ =
          (resolve policy interface source).map (List.map (Binding.moved f))) ∧
    ∀ more table, resolve .firstMatch interface source = .ok table →
      resolve .firstMatch interface ⟨source.ty, source.methods ++ more⟩ = .ok table := by
  refine ⟨fun p => ?_, fun methods' hinserted => ?_, fun more table h => resolve_append h⟩
  · have hmoves := relocates_permuted interface source p
    exact ⟨hmoves.stands, hmoves.resolve_reject⟩
  · obtain ⟨f, hf, hmoves⟩ := hinserted.relocates
    exact ⟨f, hf, hmoves.stands, hmoves.resolve_of_strictMono hf⟩

/-- A method that the demonstration target does not have. -/
def negate : Method Demo.source.ty :=
  ⟨"negate", [.i32], .i32, .ofArgs fun | .cons (x : BitVec 32) .nil => -x⟩

/-- The first two methods of the demonstration target the other way round. -/
def firstTwoSwapped : Equiv.Perm (Fin Demo.source.methods.length) :=
  Equiv.swap ⟨0, by decide⟩ ⟨1, by decide⟩

/-- The demonstration target with its first two methods the other way round, with a method in front
    of them, and with all its methods once more behind. -/
theorem order_matters_to_choice_only_add :
    (Demo.source.permuted firstTwoSwapped).methods[1]? = Demo.source.methods[0]? ∧
    resolve .reject Demo.addNumbers.interface (Demo.source.permuted firstTwoSwapped) =
      .ok [⟨0, 1⟩] ∧
    (∃ f : Nat → Nat, (negate :: Demo.source.methods)[f 0]? = Demo.source.methods[0]? ∧
      ∀ policy, resolve policy Demo.addNumbers.interface
        ⟨Demo.source.ty, negate :: Demo.source.methods⟩ = .ok [⟨0, f 0⟩]) ∧
    resolve .firstMatch Demo.addNumbers.interface
      ⟨Demo.source.ty, Demo.source.methods ++ Demo.source.methods⟩ = .ok [⟨0, 0⟩] := by
  obtain ⟨hpermuted, hinserted, happended⟩ :=
    order_matters_to_choice_only Demo.addNumbers.interface Demo.source
  have htable : ∀ policy, resolve policy Demo.addNumbers.interface Demo.source = .ok [⟨0, 0⟩] := by
    intro policy
    cases policy <;> rfl
  have hforeign : negate.Foreign Demo.addNumbers.interface := by
    intro w hw
    rw [List.mem_singleton.mp hw]
    decide
  obtain ⟨hstands, hreject⟩ := hpermuted firstTwoSwapped
  obtain ⟨f, _, hkept, hmoved⟩ := hinserted _ (.insert hforeign (.refl Demo.source.methods))
  refine ⟨hstands 0 _ rfl, ?_, ⟨f, hkept 0 _ rfl, fun policy => ?_⟩,
    happended _ _ (htable .firstMatch)⟩
  · rw [hreject, htable]
    rfl
  · rw [hmoved policy, htable policy]
    rfl

end Structural
