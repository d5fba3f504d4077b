import Structural.Proofs.Publish.Contributions

/-!
# Borrowed types in methods

Arguments and results are moved through an adapter, so that a method whose types borrow is refused.
Whether a type borrows is decided by its form, and not all of the form is looked at.

* `TypeExpr.parts`, `TypeExpr.Within` -- the types that stand in a type, directly and at any depth;
* `TypeExpr.InSight` -- the types that stand in it with nothing but parentheses and tuples around
  them;
* `TypeExpr.borrows_iff` -- **a type is found to borrow exactly if a reference or an anonymous type
  is in sight**;
* `TypeExpr.Shelters` -- such a type stands in it behind something else: between angle brackets, in an
  array, a slice, a pointer or a function;
* `not_lendsNothing` -- so a block may register a method that borrows;
* `LendsNothingInSight` / `lends_nothing_in_sight` -- what holds: **no registered method borrows in
  sight, and a method is refused for its types exactly if it does.**
-/

namespace Structural.Publish

/-! ## 1. Types in types -/

namespace TypeExpr

/-- **The types that stand directly in a type.** -/
def parts : TypeExpr → List TypeExpr
  | .path of? _ segments => of?.toList ++ segments.flatMap Segment.typeArgs
  | .reference _ target => [target]
  | .tuple elements => elements
  | .paren inner => [inner]
  | .group inner => [inner]
  | .anonymous bounds => bounds.flatMap Segment.typeArgs
  | .dynamic bounds => bounds.flatMap Segment.typeArgs
  | .array element => [element]
  | .slice element => [element]
  | .pointer target => [target]
  | .function params => params

/-- **A type stands in a type**, at any depth; it stands in itself. -/
inductive Within (u : TypeExpr) : TypeExpr → Prop where
  | here : Within u u
  | part {t p : TypeExpr} (hp : p ∈ t.parts) (h : Within u p) : Within u t

/-- A reference, or an anonymous type. -/
def isBorrow : TypeExpr → Bool
  | .reference .. => true
  | .anonymous _ => true
  | _ => false

/-- What is looked through: parentheses of both kinds, and tuples. -/
def isTransparent : TypeExpr → Bool
  | .paren _ => true
  | .group _ => true
  | .tuple _ => true
  | _ => false

/-- What is not looked into: paths, types known by their bounds only, arrays, slices, pointers and
    functions. -/
def isOpaque : TypeExpr → Bool
  | .path .. => true
  | .dynamic _ => true
  | .array _ => true
  | .slice _ => true
  | .pointer _ => true
  | .function _ => true
  | _ => false

/-- **A type stands in sight in a type**: only parentheses and tuples stand around it. -/
inductive InSight (u : TypeExpr) : TypeExpr → Prop where
  | here : InSight u u
  | part {t p : TypeExpr} (ht : t.isTransparent = true) (hp : p ∈ t.parts) (h : InSight u p) :
      InSight u t

/-- **A type stands in a type behind one that is not looked into.** -/
def Shelters (t u : TypeExpr) : Prop :=
  ∃ s : TypeExpr, s.InSight t ∧ s.isOpaque = true ∧ ∃ p ∈ s.parts, u.Within p

theorem kind_cases (t : TypeExpr) :
    t.isTransparent = true ∨ t.isBorrow = true ∨ t.isOpaque = true := by
  cases t <;> simp [isTransparent, isBorrow, isOpaque]

/-- **What stands in a type is in sight, behind a borrowing type in sight, or sheltered.** -/
theorem Within.cases_sight {u t : TypeExpr} (h : u.Within t) :
    u.InSight t ∨ (∃ s : TypeExpr, s.InSight t ∧ s.isBorrow = true) ∨ t.Shelters u := by
  induction h with
  | here => exact .inl .here
  | @part t p hp hwithin ih =>
      rcases t.kind_cases with ht | ht | ht
      · rcases ih with ih | ⟨s, hs, hborrow⟩ | ⟨s, hs, hopaque, hrest⟩
        · exact .inl (.part ht hp ih)
        · exact .inr (.inl ⟨s, .part ht hp hs, hborrow⟩)
        · exact .inr (.inr ⟨s, .part ht hp hs, hopaque, hrest⟩)
      · exact .inr (.inl ⟨t, .here, ht⟩)
      · exact .inr (.inr ⟨t, .here, ht, p, hp, hwithin⟩)

/-! ## 2. Borrowing in sight -/

/-- **A type borrows in sight.** -/
def BorrowsInSight (t : TypeExpr) : Prop :=
  ∃ u : TypeExpr, u.InSight t ∧ u.isBorrow = true

/-- What is looked through borrows as its parts do. -/
theorem borrows_of_part {t p : TypeExpr} (ht : t.isTransparent = true) (hp : p ∈ t.parts)
    (h : p.borrows = true) : t.borrows = true := by
  cases t with
  | paren inner =>
      obtain rfl := List.mem_singleton.mp hp
      rw [borrows, h]
  | group inner =>
      obtain rfl := List.mem_singleton.mp hp
      rw [borrows, h]
  | tuple elements =>
      rw [borrows, anyBorrows_eq_any]
      exact List.any_eq_true.mpr ⟨p, hp, h⟩
  | _ => cases ht

/-- A type in sight that borrows is found. -/
theorem InSight.borrows {u t : TypeExpr} (h : u.InSight t) (hu : u.isBorrow = true) :
    t.borrows = true := by
  induction h with
  | here =>
      cases u with
      | reference => rfl
      | anonymous => rfl
      | _ => cases hu
  | part ht hp _ ih => exact borrows_of_part ht hp ih

end TypeExpr

mutual

/-- Only a type in sight that borrows is found. -/
theorem TypeExpr.borrowsInSight_of_borrows : ∀ t : TypeExpr, t.borrows = true → t.BorrowsInSight
  | .reference mutable target, _ => ⟨_, .here, rfl⟩
  | .anonymous bounds, _ => ⟨_, .here, rfl⟩
  | .paren inner, h => by
      rw [TypeExpr.borrows] at h
      obtain ⟨u, hu, hborrow⟩ := inner.borrowsInSight_of_borrows h
      exact ⟨u, .part rfl (List.mem_singleton_self inner) hu, hborrow⟩
  | .group inner, h => by
      rw [TypeExpr.borrows] at h
      obtain ⟨u, hu, hborrow⟩ := inner.borrowsInSight_of_borrows h
      exact ⟨u, .part rfl (List.mem_singleton_self inner) hu, hborrow⟩
  | .tuple elements, h => by
      rw [TypeExpr.borrows] at h
      obtain ⟨p, hp, u, hu, hborrow⟩ := exists_of_anyBorrows elements h
      exact ⟨u, .part rfl hp hu, hborrow⟩
  | .path .., h => by simp [TypeExpr.borrows] at h
  | .dynamic _, h => by simp [TypeExpr.borrows] at h
  | .array _, h => by simp [TypeExpr.borrows] at h
  | .slice _, h => by simp [TypeExpr.borrows] at h
  | .pointer _, h => by simp [TypeExpr.borrows] at h
  | .function _, h => by simp [TypeExpr.borrows] at h

theorem exists_of_anyBorrows : ∀ ts : List TypeExpr, anyBorrows ts = true →
    ∃ t ∈ ts, t.BorrowsInSight
  | [], h => by simp [anyBorrows] at h
  | t :: rest, h => by
      rw [anyBorrows, Bool.or_eq_true] at h
      rcases h with h | h
      · exact ⟨t, List.mem_cons_self, t.borrowsInSight_of_borrows h⟩
      · obtain ⟨p, hp, hsight⟩ := exists_of_anyBorrows rest h
        exact ⟨p, List.mem_cons_of_mem t hp, hsight⟩

end

/-- **A type is found to borrow exactly if it borrows in sight.** -/
theorem TypeExpr.borrows_iff {t : TypeExpr} : t.borrows = true ↔ t.BorrowsInSight := by
  constructor
  · exact t.borrowsInSight_of_borrows
  · rintro ⟨u, hu, hborrow⟩
    exact hu.borrows hborrow

/-- Where nothing borrows in sight, every type that borrows is sheltered. -/
theorem TypeExpr.Within.sheltered {u t : TypeExpr} (h : u.Within t) (hu : u.isBorrow = true)
    (ht : ¬ t.BorrowsInSight) : t.Shelters u := by
  rcases h.cases_sight with hsight | ⟨s, hs, hborrow⟩ | hshelters
  · exact absurd ⟨u, hsight, hu⟩ ht
  · exact absurd ⟨s, hs, hborrow⟩ ht
  · exact hshelters

/-! ## 3. Methods -/

namespace Declaration

variable {d : Declaration} {options : List MethodOption}

/-- The types of a method, those of its arguments first. -/
def types (d : Declaration) : List TypeExpr :=
  d.params ++ d.result?.toList

/-- **No type of a method borrows in sight.** -/
def Owned (d : Declaration) : Prop :=
  ∀ t ∈ d.types, ¬ t.BorrowsInSight

/-- **What of a method borrows in sight**, as the refusal that reports it: an argument, or the result
    if no argument does. -/
inductive Lends (d : Declaration) : Refusal → Prop where
  | argument {t : TypeExpr} (ht : t ∈ d.params) (h : t.BorrowsInSight) :
      Lends d .borrowedArgument
  | result (hparams : ∀ t ∈ d.params, ¬ t.BorrowsInSight) {t : TypeExpr} (ht : d.result? = some t)
      (h : t.BorrowsInSight) : Lends d .borrowedResult

theorem any_borrows_iff {ts : List TypeExpr} :
    ts.any TypeExpr.borrows = true ↔ ∃ t ∈ ts, t.BorrowsInSight := by
  simp only [List.any_eq_true, TypeExpr.borrows_iff]

/-- **What is found to borrow is what borrows in sight.** -/
theorem borrowed?_cases (d : Declaration) :
    (∃ e, d.borrowed? = some e ∧ d.Lends e) ∨ d.borrowed? = none ∧ d.Owned := by
  unfold borrowed?
  by_cases hparams : d.params.any TypeExpr.borrows = true
  · obtain ⟨t, ht, hsight⟩ := any_borrows_iff.mp hparams
    rw [if_pos hparams]
    exact .inl ⟨_, rfl, .argument ht hsight⟩
  · have hnone : ∀ t ∈ d.params, ¬ t.BorrowsInSight := fun t ht hsight =>
      hparams (any_borrows_iff.mpr ⟨t, ht, hsight⟩)
    rw [if_neg hparams]
    by_cases hresult : d.result?.any TypeExpr.borrows = true
    · obtain ⟨t, ht, hborrows⟩ := (Option.any_eq_true _ _).mp hresult
      rw [if_pos hresult]
      exact .inl ⟨_, rfl, .result hnone ht (TypeExpr.borrows_iff.mp hborrows)⟩
    · rw [if_neg hresult]
      refine .inr ⟨rfl, fun t ht hsight => ?_⟩
      rcases List.mem_append.mp ht with ht | ht
      · exact hnone t ht hsight
      · exact hresult ((Option.any_eq_true _ _).mpr
          ⟨t, Option.mem_toList.mp ht, TypeExpr.borrows_iff.mpr hsight⟩)

theorem Lends.not_owned {e : Refusal} (h : d.Lends e) : ¬ d.Owned := by
  intro howned
  cases h with
  | argument ht hsight => exact howned _ (List.mem_append_left _ ht) hsight
  | result _ ht hsight =>
      exact howned _ (List.mem_append_right _ (Option.mem_toList.mpr ht)) hsight

theorem Lends.unique {e e' : Refusal} (h : d.Lends e) (h' : d.Lends e') : e = e' := by
  cases h with
  | argument ht hsight =>
      cases h' with
      | argument => rfl
      | result hnone => exact absurd hsight (hnone _ ht)
  | result hnone =>
      cases h' with
      | argument ht hsight => exact absurd hsight (hnone _ ht)
      | result => rfl

theorem borrowed?_eq_some_iff {e : Refusal} : d.borrowed? = some e ↔ d.Lends e := by
  rcases d.borrowed?_cases with ⟨e', he, hlends⟩ | ⟨hnone, howned⟩
  · rw [he, Option.some.injEq]
    constructor
    · rintro rfl
      exact hlends
    · exact hlends.unique
  · rw [hnone]
    exact iff_of_false (Option.some_ne_none e).symm fun hlends => hlends.not_owned howned

/-- A method owns all its types exactly if nothing of it borrows in sight. -/
theorem borrowed?_eq_none_iff : d.borrowed? = none ↔ d.Owned := by
  rcases d.borrowed?_cases with ⟨e, he, hlends⟩ | ⟨hnone, howned⟩
  · rw [he]
    exact iff_of_false (Option.some_ne_none e) hlends.not_owned
  · exact iff_of_true hnone howned

/-- **A method to be published that borrows in sight is refused for it.** -/
theorem register_of_lends (h : d.Gives options) (ho : d.Offered options) {e : Refusal}
    (he : d.Lends e) : d.register = .error e := by
  rw [register_of_offered h ho, registration, borrowed?_eq_some_iff.mpr he]
  rfl

/-- **Any other is registered as its result says**, whatever borrows in it out of sight. -/
theorem register_of_owned (h : d.Gives options) (ho : d.Offered options) (howned : d.Owned) :
    d.register =
      d.fallible.map fun b => some ⟨b, (lastRename? options).getD d.name, d.name⟩ := by
  rw [register_of_offered h ho, registration, borrowed?_eq_none_iff.mpr howned]
  cases d.fallible <;> rfl

/-- A method that is not refused borrows nothing in sight. -/
theorem owned_of_register (h : d.Gives options) (ho : d.Offered options)
    {r : Option Registration} (hr : d.register = .ok r) : d.Owned := by
  rcases d.borrowed?_cases with ⟨e, _, hlends⟩ | ⟨_, howned⟩
  · rw [register_of_lends h ho hlends] at hr
    cases hr
  · exact howned

end Declaration

/-! ## 4. Registrations -/

/-- A registration comes from one of the items. -/
theorem exists_of_mem_registrations : ∀ {items : List Item} {rs : List Registration}
    {r : Registration}, registrations items = .ok rs → r ∈ rs →
      ∃ item ∈ items, item.register = .ok (some r)
  | [], _, _, h, hr => by
      cases h
      cases hr
  | item :: rest, rs, r, h, hr => by
      rw [registrations] at h
      obtain ⟨first, hfirst, h⟩ := bind_eq_ok_iff.mp h
      obtain ⟨others, hothers, rfl⟩ := map_eq_ok_iff.mp h
      rcases List.mem_append.mp hr with hr | hr
      · have hsome : first = some r := Option.mem_toList.mp hr
        exact ⟨item, List.mem_cons_self, hsome ▸ hfirst⟩
      · obtain ⟨later, hmem, hregister⟩ := exists_of_mem_registrations hothers hr
        exact ⟨later, List.mem_cons_of_mem item hmem, hregister⟩

/-- **What is registered was declared to be published**, in a declaration that borrows nothing in
    sight. -/
theorem Item.offered_of_register {item : Item} {r : Registration}
    (h : item.register = .ok (some r)) : ∃ d options, item = .method d ∧ d.Gives options ∧
      d.Offered options ∧ r.method = d.name ∧ d.Owned := by
  cases item with
  | other => cases h
  | method d =>
      have hd : d.register = .ok (some r) := h
      obtain ⟨⟨options, hgives⟩, hcontribution⟩ := Declaration.contribution_of_register hd
      obtain ⟨hoffered, hnot⟩ := hcontribution options hgives
      by_cases ho : d.Offered options
      · obtain ⟨fallible, hr⟩ := hoffered ho
        cases hr
        exact ⟨d, options, rfl, hgives, ho, rfl, Declaration.owned_of_register hgives ho hd⟩
      · cases hnot ho

/-- The items of a block that is published are registered. -/
theorem Block.registrations_of_publish {b : Block} {clauses : List Clause} {p : Publication}
    (h : b.publish clauses = .ok p) : registrations b.items = .ok p.registrations := by
  rw [publish_eq] at h
  obtain ⟨home, _, h⟩ := bind_eq_ok_iff.mp h
  obtain ⟨rs, hrs, rfl⟩ := map_eq_ok_iff.mp h
  exact hrs

/-- No item of a block that is published is refused. -/
theorem Block.register_of_publish {b : Block} {clauses : List Clause} {p : Publication}
    (h : b.publish clauses = .ok p) {item : Item} (hmem : item ∈ b.items) :
    ∃ r, item.register = .ok r := by
  cases hr : item.register with
  | ok r => exact ⟨r, rfl⟩
  | error e =>
      obtain ⟨e', he'⟩ := publish_of_refused hr hmem clauses
      rw [h] at he'
      cases he'

/-! ## 5. Blocks -/

/-- **No type of a method that a block registers borrows**, at any depth. -/
def Block.LendsNothing (b : Block) : Prop :=
  ∀ clauses p d options, b.publish clauses = .ok p → .method d ∈ b.items → d.Gives options →
    d.Offered options → ∀ t ∈ d.types, ∀ u : TypeExpr, u.Within t → u.isBorrow = false

/-- A method that takes an optional reference. -/
def finder : Declaration where
  name := "find"
  visibility := .everyone
  isAsync := false
  isUnsafe := false
  generics := []
  receiver? := some ⟨true, false, false⟩
  params := [.path none false
    [.mk "Option" (some [.type (.reference false (.path none false [.mk "i32" none]))])]]
  result? := some (.path none false [.mk "bool" none])
  attributes := []

/-- A block with this method. -/
def lending : Block where
  trait? := none
  generics := []
  self := .path none false [.mk "Target" none]
  items := [.method finder]

/-- **A block may register a method that borrows**: between angle brackets nothing is looked at. -/
theorem not_lendsNothing : ¬ ∀ b : Block, b.LendsNothing := by
  intro h
  have hpublished : ∃ p, lending.publish [] = .ok p := ⟨_, rfl⟩
  obtain ⟨p, hp⟩ := hpublished
  have hgives : finder.Gives [] := .nil
  have hoffered : finder.Offered [] := ⟨List.not_mem_nil, rfl, rfl, rfl, rfl, rfl⟩
  have hwithin : TypeExpr.Within (.reference false (.path none false [.mk "i32" none]))
      (.path none false
        [.mk "Option" (some [.type (.reference false (.path none false [.mk "i32" none]))])]) :=
    .part List.mem_cons_self .here
  have hborrow := h lending [] p finder [] hp List.mem_cons_self hgives hoffered _
    List.mem_cons_self _ hwithin
  cases hborrow

/-- **What a block registers borrows nothing in sight**, and nothing else is asked of its types but
    the kind of the result. -/
structure LendsNothingInSight (b : Block) (clauses : List Clause) : Prop where
  /-- What is registered was declared so, by a method of the block. -/
  registered : ∀ p, b.publish clauses = .ok p → ∀ r ∈ p.registrations, ∃ d options,
    .method d ∈ b.items ∧ d.Gives options ∧ d.Offered options ∧ r.method = d.name ∧ d.Owned
  /-- If a type of such a method borrows, it does so behind one that is not looked into. -/
  sheltered : ∀ p d options, b.publish clauses = .ok p → .method d ∈ b.items → d.Gives options →
    d.Offered options → ∀ t ∈ d.types, ∀ u, u.Within t → u.isBorrow = true → t.Shelters u
  /-- A method to be published that borrows in sight is refused for the argument or the result that
      does, and so its block is refused. -/
  refused : ∀ d options e, .method d ∈ b.items → d.Gives options → d.Offered options →
    d.Lends e → d.register = .error e ∧ ∃ e', b.publish clauses = .error e'
  /-- A method that borrows nothing in sight is registered as the kind that its result says, or
      refused for the error type of its result. -/
  owned : ∀ d options, .method d ∈ b.items → d.Gives options → d.Offered options → d.Owned →
    d.register = d.fallible.map fun fallible =>
      some ⟨fallible, (lastRename? options).getD d.name, d.name⟩

/-- **What a block registers borrows nothing in sight**, for every block under every attribute. -/
theorem lends_nothing_in_sight (b : Block) (clauses : List Clause) :
    LendsNothingInSight b clauses where
  registered p hp r hr := by
    obtain ⟨item, hitem, hregister⟩ :=
      exists_of_mem_registrations (Block.registrations_of_publish hp) hr
    obtain ⟨d, options, rfl, hgives, hoffered, hname, howned⟩ := Item.offered_of_register hregister
    exact ⟨d, options, hitem, hgives, hoffered, hname, howned⟩
  sheltered p d options hp hd hgives hoffered t ht u hwithin hborrow := by
    obtain ⟨r, hr⟩ := Block.register_of_publish hp hd
    have howned := Declaration.owned_of_register hgives hoffered hr
    exact hwithin.sheltered hborrow (howned t ht)
  refused d options e hd hgives hoffered hlends := by
    have hregister : (Item.method d).register = .error e :=
      Declaration.register_of_lends hgives hoffered hlends
    exact ⟨hregister, Block.publish_of_refused hregister hd clauses⟩
  owned _ _ _ hgives hoffered howned := Declaration.register_of_owned hgives hoffered howned

end Structural.Publish
