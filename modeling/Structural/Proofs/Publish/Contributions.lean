import Structural.Proofs.Publish.Options

/-!
# What the items of a block contribute

A block publishes what its items contribute, one after the other.

* `Declaration.Offered` -- **a method is to be published**: it is public, on a shared receiver,
  neither generic nor asynchronous nor unsafe, and no option skips it;
* `Declaration.register_of_offered` / `register_of_not_offered` -- such a method contributes its
  registration or a refusal; any other contributes nothing, whatever its types;
* `registrations_append` -- contributions of two lists of items, the first refusal counting;
* `Block.publish_eq` -- **a block is read up to its items, and then item by item.** So blocks of two
  lists of items are put together as these are (`Block.publish_append`), and a block with an item that
  is refused is refused (`Block.publish_of_refused`).
-/

namespace Structural.Publish

/-! ## 1. Methods to be published -/

/-- **A method is to be published**, with these options. -/
structure Declaration.Offered (d : Declaration) (options : List MethodOption) : Prop where
  unskipped : .skip ∉ options
  visible : d.visibility = .everyone
  /-- A shared reference, without a type of its own. -/
  shared : d.receiver? = some ⟨true, false, false⟩
  monomorphic : d.generics = []
  synchronous : d.isAsync = false
  safe : d.isUnsafe = false

theorem Receiver.isShared_iff {r : Receiver} : r.isShared = true ↔ r = ⟨true, false, false⟩ := by
  obtain ⟨reference, mutable, typed⟩ := r
  cases reference <;> cases mutable <;> cases typed <;> simp [isShared]

namespace Declaration

variable {d : Declaration} {options : List MethodOption}

theorem isPublished_iff : d.isPublished = true ↔ d.visibility = .everyone ∧ d.generics = [] ∧
    d.isAsync = false ∧ d.isUnsafe = false ∧ d.receiver? = some ⟨true, false, false⟩ := by
  simp [isPublished, Option.any_eq_true, Receiver.isShared_iff, and_assoc]

/-- The options and the declaration together decide. -/
theorem offered_iff : d.Offered options ↔ .skip ∉ options ∧ d.isPublished = true := by
  rw [isPublished_iff]
  constructor
  · rintro ⟨hskip, hvisible, hshared, hgenerics, hasync, hunsafe⟩
    exact ⟨hskip, hvisible, hgenerics, hasync, hunsafe, hshared⟩
  · rintro ⟨hskip, hvisible, hgenerics, hasync, hunsafe, hshared⟩
    exact ⟨hskip, hvisible, hshared, hgenerics, hasync, hunsafe⟩

/-- What a method contributes, by its options. -/
theorem register_of_gives (h : d.Gives options) : d.register =
    if .skip ∈ options ∨ d.isPublished = false then .ok none
    else (d.registration (lastRename? options)).map some := by
  unfold register
  rw [options_eq_ok_iff.mpr ⟨options, h, rfl⟩]
  have hskip := skip_foldl_take options .unset
  have hrename := rename_foldl_take options .unset
  simp only [MethodOptions.unset, Bool.false_or, Option.or_none] at hskip hrename
  simp [Except.bind, MethodOptions.unset, hskip, hrename]

/-- **A method to be published contributes its registration**, under the last new name, or the
    refusal of its types. -/
theorem register_of_offered (h : d.Gives options) (ho : d.Offered options) :
    d.register = (d.registration (lastRename? options)).map some := by
  obtain ⟨hskip, hpublished⟩ := offered_iff.mp ho
  rw [register_of_gives h, if_neg (by simp [hskip, hpublished])]

/-- **Any other method contributes nothing**, whatever its types. -/
theorem register_of_not_offered (h : d.Gives options) (ho : ¬ d.Offered options) :
    d.register = .ok none := by
  rw [register_of_gives h, if_pos]
  rw [offered_iff, not_and_or, not_not, Bool.not_eq_true] at ho
  exact ho

/-- A malformed attribute is an error, published or not. -/
theorem register_of_malformed (h : ¬ ∃ options, d.Gives options) :
    ∃ e, d.register = .error e := by
  cases ho : d.options with
  | error e =>
      refine ⟨e, ?_⟩
      rw [register, ho]
      rfl
  | ok o =>
      obtain ⟨options, hgives, _⟩ := options_eq_ok_iff.mp ho
      exact absurd ⟨options, hgives⟩ h

/-- A registration has the new name, if there is one, and the name of the method. -/
theorem eq_of_registration {rename? : Option String} {r : Registration}
    (h : d.registration rename? = .ok r) :
    r.published = rename?.getD d.name ∧ r.method = d.name ∧ d.fallible = .ok r.fallible := by
  unfold registration at h
  split at h
  · cases h
  · obtain ⟨b, hb, rfl⟩ := map_eq_ok_iff.mp h
    exact ⟨rfl, rfl, hb⟩

/-- **What a method contributes that is accepted**: its attributes are well formed, and it is
    registered exactly if it is to be published. -/
theorem contribution_of_register {r : Option Registration} (h : d.register = .ok r) :
    (∃ options, d.Gives options) ∧ ∀ options, d.Gives options →
      (d.Offered options → ∃ fallible,
        r = some ⟨fallible, (lastRename? options).getD d.name, d.name⟩) ∧
      (¬ d.Offered options → r = none) := by
  have hgives : ∃ options, d.Gives options := by
    by_contra hnone
    obtain ⟨e, he⟩ := d.register_of_malformed hnone
    rw [h] at he
    cases he
  refine ⟨hgives, fun options hgives => ⟨?_, ?_⟩⟩
  · intro ho
    rw [register_of_offered hgives ho] at h
    obtain ⟨⟨fallible, published, method⟩, hreg, rfl⟩ := map_eq_ok_iff.mp h
    obtain ⟨rfl, rfl, _⟩ := eq_of_registration hreg
    exact ⟨fallible, rfl⟩
  · intro ho
    rw [register_of_not_offered hgives ho] at h
    cases h
    rfl

end Declaration

/-! ## 2. Lists of items -/

theorem registrations_append : ∀ first second : List Item,
    registrations (first ++ second) = (registrations first).bind fun rs =>
      (registrations second).map fun ss => rs ++ ss
  | [], second => by
      cases h : registrations second <;> simp [registrations, h, Except.bind, Except.map]
  | item :: rest, second => by
      rw [List.cons_append, registrations, registrations, registrations_append rest second]
      cases item.register with
      | error e => rfl
      | ok r =>
          cases registrations rest with
          | error e => rfl
          | ok rs =>
              cases registrations second with
              | error e => rfl
              | ok ss => simp [Except.bind, Except.map]

/-- One item. -/
theorem registrations_singleton (item : Item) :
    registrations [item] = item.register.map Option.toList := by
  rw [registrations, registrations_nil]
  cases item.register <;> simp [Except.bind, Except.map]

/-- An item that contributes nothing does not matter. -/
theorem registrations_without {item : Item} (h : item.register = .ok none)
    (first second : List Item) :
    registrations (first ++ item :: second) = registrations (first ++ second) := by
  have hcons : registrations (item :: second) = registrations second := by
    rw [registrations, h]
    cases registrations second <;> simp [Except.bind, Except.map]
  rw [registrations_append, registrations_append, hcons]

/-- **A method that is not to be published does not matter.** -/
theorem registrations_unoffered {d : Declaration} {options : List MethodOption}
    (h : d.Gives options) (ho : ¬ d.Offered options) (first second : List Item) :
    registrations (first ++ .method d :: second) = registrations (first ++ second) := by
  have hnone : (Item.method d).register = .ok none := Declaration.register_of_not_offered h ho
  exact registrations_without hnone first second

/-- An item that is refused is not passed over. -/
theorem registrations_of_refused {item : Item} {e : Refusal} (h : item.register = .error e)
    {items : List Item} (hmem : item ∈ items) : ∃ e, registrations items = .error e := by
  obtain ⟨first, second, rfl⟩ := List.append_of_mem hmem
  rw [registrations_append, registrations, h]
  cases hfirst : registrations first with
  | error e' => exact ⟨e', rfl⟩
  | ok rs => exact ⟨e, rfl⟩

/-! ## 3. Blocks -/

namespace Block

/-- The block with other items. -/
def withItems (b : Block) (items : List Item) : Block :=
  { b with items := items }

/-- What is read of a block before its items. -/
def header (b : Block) (clauses : List Clause) : Except Refusal (List Token) :=
  (homePath (clauseTokens clauses)).bind fun home =>
    if b.trait?.isSome then .error .traitBlock
    else if !b.generics.isEmpty then .error .genericBlock
    else .ok home

variable (b : Block) (clauses : List Clause)

/-- **A block is read up to its items, and then item by item.** -/
theorem publish_eq : b.publish clauses = (b.header clauses).bind fun home =>
    (registrations b.items).map fun rs => ⟨home, rs, b.items.map Item.kept?⟩ := by
  unfold publish header
  cases homePath (clauseTokens clauses) with
  | error e => rfl
  | ok home =>
      simp only [Except.bind]
      split
      · rfl
      · split <;> rfl

theorem publish_withItems (items : List Item) : (b.withItems items).publish clauses =
    (b.header clauses).bind fun home =>
      (registrations items).map fun rs => ⟨home, rs, items.map Item.kept?⟩ :=
  publish_eq (b.withItems items) clauses

/-- The registrations depend on the contributions only. -/
theorem map_registrations_publish (items : List Item) :
    ((b.withItems items).publish clauses).map Publication.registrations =
      (b.header clauses).bind fun _ => registrations items := by
  rw [publish_withItems]
  cases b.header clauses with
  | error e => rfl
  | ok home => cases h : registrations items <;> simp [Except.bind, Except.map]

end Block

/-- Two publications of one home, one after the other. -/
def Publication.append (p q : Publication) : Publication :=
  ⟨p.home, p.registrations ++ q.registrations, p.kept ++ q.kept⟩

theorem Block.publish_append (b : Block) (clauses : List Clause) (first second : List Item) :
    (b.withItems (first ++ second)).publish clauses =
      ((b.withItems first).publish clauses).bind fun p =>
        ((b.withItems second).publish clauses).map p.append := by
  rw [publish_withItems, publish_withItems, publish_withItems, registrations_append]
  cases b.header clauses with
  | error e => rfl
  | ok home =>
      cases registrations first with
      | error e => rfl
      | ok rs =>
          cases registrations second with
          | error e => rfl
          | ok ss => simp [Except.bind, Except.map, Publication.append]

/-- The registrations of one item. -/
theorem Block.registrations_of_publish_singleton {b : Block} {clauses : List Clause} {item : Item}
    {p : Publication} (h : (b.withItems [item]).publish clauses = .ok p) :
    ∃ r, item.register = .ok r ∧ p.registrations = r.toList := by
  rw [publish_withItems, registrations_singleton] at h
  obtain ⟨home, _, h⟩ := bind_eq_ok_iff.mp h
  obtain ⟨rs, hrs, rfl⟩ := map_eq_ok_iff.mp h
  obtain ⟨r, hr, rfl⟩ := map_eq_ok_iff.mp hrs
  exact ⟨r, hr, rfl⟩

/-- A block with an item that is refused is refused. -/
theorem Block.publish_of_refused {b : Block} {item : Item} {e : Refusal}
    (h : item.register = .error e) (hmem : item ∈ b.items) (clauses : List Clause) :
    ∃ e, b.publish clauses = .error e := by
  obtain ⟨e', he'⟩ := registrations_of_refused h hmem
  rw [publish_eq, he']
  cases b.header clauses with
  | error e'' => exact ⟨e'', rfl⟩
  | ok home => exact ⟨e', rfl⟩

end Structural.Publish
