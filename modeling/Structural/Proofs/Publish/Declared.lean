import Mathlib.Data.List.ReduceOption
import Structural.Proofs.Publish.Borrowing
import Structural.Proofs.Publish.Home
import Structural.Proofs.Publish.Wrapping

/-!
# What a block publishes

A block is read up to its items, and its items one by one. What becomes of it is told from what is
declared: by the attribute, by the options that the methods give, and by their types.

* `Declaration.Returns` -- the kind of a method, told from its result;
* `Item.Contributes` -- **what an item contributes that is not refused**: a registration if it is a
  method to be published that borrows nothing in sight, and otherwise nothing;
* `Item.register_eq_ok_iff`, `registrations_eq_ok_iff` -- an item is registered as it contributes, and
  several are one after the other;
* `PublishesDeclared` / `publishes_declared` -- **a block publishes exactly what it declares**, list
  by list and item by item. Methods that are not to be published may be changed or left out, but
  their attributes have to be well formed.
-/

namespace Structural.Publish

/-! ## 1. Items -/

/-- **The kind of a method**, by its result: one that is a path that ends in `Result` makes it fallible,
    if the error type is not refused. -/
inductive Declaration.Returns (d : Declaration) : Bool → Prop where
  | nothing (h : d.result? = none) : Returns d false
  | plain {t : TypeExpr} (h : d.result? = some t) (ht : ¬ t.IsResult) : Returns d false
  | result {of? : Option TypeExpr} {leading : Bool} {segments : List Segment} {last : Segment}
      (h : d.result? = some (.path of? leading segments)) (hlast : segments.getLast? = some last)
      (hname : last.name = "Result") (haccepts : ¬ RefusesError segments last) : Returns d true

/-- **What an item contributes** that is not refused. -/
inductive Item.Contributes : Item → Option Registration → Prop where
  | other : Contributes .other none
  /-- A method that is not to be published, whatever its types. -/
  | unpublished {d : Declaration} {options : List MethodOption} (h : d.Gives options)
      (ho : ¬ d.Offered options) : Contributes (.method d) none
  /-- A method to be published, under its last new name or its own. -/
  | published {d : Declaration} {options : List MethodOption} (h : d.Gives options)
      (ho : d.Offered options) (howned : d.Owned) {fallible : Bool} (hkind : d.Returns fallible) :
      Contributes (.method d) (some ⟨fallible, (lastRename? options).getD d.name, d.name⟩)

/-- The kind found is the kind told from the result. -/
theorem Declaration.fallible_eq_ok_iff {d : Declaration} {b : Bool} :
    d.fallible = .ok b ↔ d.Returns b := by
  unfold fallible
  constructor
  · intro h
    split at h
    · rename_i hnone
      cases h
      exact .nothing hnone
    · rename_i t hsome
      by_cases hresult : t.IsResult
      · obtain ⟨of?, leading, segments, last, rfl, hlast, hname⟩ := hresult
        by_cases hrefuses : RefusesError segments last
        · rw [TypeExpr.fallible?_of_refused hlast hname hrefuses] at h
          cases h
        · rw [TypeExpr.fallible?_of_accepted hlast hname hrefuses] at h
          cases h
          exact .result hsome hlast hname hrefuses
      · rw [TypeExpr.fallible?_eq_false_iff.mpr hresult] at h
        cases h
        exact .plain hsome hresult
  · intro h
    cases h with
    | nothing h => simp only [h]
    | plain h ht => simp only [h, TypeExpr.fallible?_eq_false_iff.mpr ht]
    | result h hlast hname haccepts =>
        simp only [h, TypeExpr.fallible?_of_accepted hlast hname haccepts]

/-- **An item is registered exactly as it contributes.** -/
theorem Item.register_eq_ok_iff {item : Item} {r : Option Registration} :
    item.register = .ok r ↔ item.Contributes r := by
  constructor
  · intro h
    cases item with
    | other =>
        cases h
        exact .other
    | method d =>
        have hd : d.register = .ok r := h
        obtain ⟨⟨options, hgives⟩, hcontribution⟩ := Declaration.contribution_of_register hd
        by_cases ho : d.Offered options
        · have howned := Declaration.owned_of_register hgives ho hd
          rw [Declaration.register_of_owned hgives ho howned] at hd
          obtain ⟨fallible, hkind, rfl⟩ := map_eq_ok_iff.mp hd
          exact .published hgives ho howned (Declaration.fallible_eq_ok_iff.mp hkind)
        · rw [(hcontribution options hgives).2 ho]
          exact .unpublished hgives ho
  · intro h
    cases h with
    | other => rfl
    | unpublished hgives ho => exact Declaration.register_of_not_offered hgives ho
    | published hgives ho howned hkind =>
        rw [register, Declaration.register_of_owned hgives ho howned,
          Declaration.fallible_eq_ok_iff.mpr hkind]
        rfl

/-- **Items are registered exactly as they contribute**, one after the other. -/
theorem registrations_eq_ok_iff : ∀ {items : List Item} {rs : List Registration},
    registrations items = .ok rs ↔
      ∃ parts, List.Forall₂ Item.Contributes items parts ∧ rs = parts.reduceOption
  | [], rs => by
      constructor
      · intro h
        cases h
        exact ⟨[], .nil, rfl⟩
      · rintro ⟨_, ⟨⟩, rfl⟩
        rfl
  | item :: rest, rs => by
      rw [registrations, bind_eq_ok_iff]
      constructor
      · rintro ⟨r, hr, h⟩
        obtain ⟨others, hothers, rfl⟩ := map_eq_ok_iff.mp h
        obtain ⟨parts, hparts, rfl⟩ := registrations_eq_ok_iff.mp hothers
        refine ⟨r :: parts, .cons (Item.register_eq_ok_iff.mp hr) hparts, ?_⟩
        cases r <;> rfl
      · rintro ⟨_, hparts, rfl⟩
        cases hparts with
        | @cons _ r _ parts hr hparts =>
            refine ⟨r, Item.register_eq_ok_iff.mpr hr, ?_⟩
            rw [registrations_eq_ok_iff.mpr ⟨parts, hparts, rfl⟩]
            cases r <;> rfl

/-! ## 2. Blocks -/

/-- **A block is read up to its items** exactly if it implements no trait, has no generic parameters
    and has an attribute that gives a path. -/
theorem Block.header_eq_ok_iff {b : Block} {clauses : List Clause} {home : List Token} :
    b.header clauses = .ok home ↔ b.trait? = none ∧ b.generics = [] ∧ Heads clauses home := by
  unfold header
  rw [bind_eq_ok_iff]
  constructor
  · rintro ⟨found, hhome, h⟩
    split at h
    · cases h
    · rename_i htrait
      split at h
      · cases h
      · rename_i hgenerics
        cases h
        refine ⟨by simpa using htrait, by simpa using hgenerics, homePath_eq_ok_iff.mp hhome⟩
  · rintro ⟨htrait, hgenerics, hheads⟩
    refine ⟨home, homePath_eq_ok_iff.mpr hheads, ?_⟩
    simp [htrait, hgenerics]

/-- **A block publishes exactly what it declares.** -/
structure PublishesDeclared (b : Block) (clauses : List Clause) : Prop where
  /-- Items are published list by list: the first refusal counts, and otherwise the registrations
      of the first list come before those of the second. -/
  append : ∀ first second, (b.withItems (first ++ second)).publish clauses =
    ((b.withItems first).publish clauses).bind fun p =>
      ((b.withItems second).publish clauses).map p.append
  /-- A block is published exactly if it implements no trait, has no generic parameters, has an
      attribute that gives a path, and none of its items is refused. It publishes what these
      contribute. -/
  accepted : ∀ items p, (b.withItems items).publish clauses = .ok p ↔
    b.trait? = none ∧ b.generics = [] ∧ ∃ home parts, Heads clauses home ∧
      List.Forall₂ Item.Contributes items parts ∧
        p = ⟨home, parts.reduceOption, items.map Item.kept?⟩
  /-- One item contributes at most one registration, and one exactly if it is a method to be
      published. -/
  single : ∀ item p, (b.withItems [item]).publish clauses = .ok p →
    p.registrations.length ≤ 1 ∧ (p.registrations ≠ [] ↔
      ∃ d options, item = .method d ∧ d.Gives options ∧ d.Offered options)
  /-- This has the last new name of the method, or its own. -/
  named : ∀ d options p, d.Gives options → d.Offered options →
    (b.withItems [.method d]).publish clauses = .ok p → ∃ fallible,
      p.registrations = [⟨fallible, (lastRename? options).getD d.name, d.name⟩]
  /-- Only for its types is a method refused that is to be published. -/
  offered : ∀ d options, d.Gives options → d.Offered options →
    (b.withItems [.method d]).publish clauses =
      ((b.withItems []).publish clauses).bind fun p =>
        (d.registration (lastRename? options)).map fun r =>
          ⟨p.home, [r], [(Item.method d).kept?]⟩
  /-- A method that is not to be published may be left out. -/
  removed : ∀ first second d options, d.Gives options → ¬ d.Offered options →
    ((b.withItems (first ++ .method d :: second)).publish clauses).map Publication.registrations =
      ((b.withItems (first ++ second)).publish clauses).map Publication.registrations
  /-- It may be changed in every way, as long as it is not to be published. -/
  changed : ∀ first second d d' options options', d.Gives options → ¬ d.Offered options →
    d'.Gives options' → ¬ d'.Offered options' →
      ((b.withItems (first ++ .method d :: second)).publish clauses).map
          Publication.registrations =
        ((b.withItems (first ++ .method d' :: second)).publish clauses).map
          Publication.registrations
  /-- A malformed attribute about publishing is refused at every method. -/
  malformed : ∀ d a, .method d ∈ b.items → a ∈ d.attributes → a.IsReflect →
    (¬ ∃ options, a.Gives options) → ∃ e, b.publish clauses = .error e

/-- The items of a block decide, once it is read up to them. -/
theorem Block.publish_withItems_eq_ok_iff {b : Block} {clauses : List Clause} {items : List Item}
    {p : Publication} : (b.withItems items).publish clauses = .ok p ↔
      b.trait? = none ∧ b.generics = [] ∧ ∃ home parts, Heads clauses home ∧
        List.Forall₂ Item.Contributes items parts ∧
          p = ⟨home, parts.reduceOption, items.map Item.kept?⟩ := by
  rw [publish_withItems, bind_eq_ok_iff]
  constructor
  · rintro ⟨home, hhome, h⟩
    obtain ⟨htrait, hgenerics, hheads⟩ := header_eq_ok_iff.mp hhome
    obtain ⟨rs, hrs, rfl⟩ := map_eq_ok_iff.mp h
    obtain ⟨parts, hparts, rfl⟩ := registrations_eq_ok_iff.mp hrs
    exact ⟨htrait, hgenerics, home, parts, hheads, hparts, rfl⟩
  · rintro ⟨htrait, hgenerics, home, parts, hheads, hparts, rfl⟩
    refine ⟨home, header_eq_ok_iff.mpr ⟨htrait, hgenerics, hheads⟩, ?_⟩
    exact map_eq_ok_iff.mpr ⟨_, registrations_eq_ok_iff.mpr ⟨parts, hparts, rfl⟩, rfl⟩

/-- A method that is to be published contributes one registration, if it is not refused. -/
theorem Item.Contributes.eq_some {d : Declaration} {options : List MethodOption}
    {r : Option Registration} (h : (Item.method d).Contributes r) (hgives : d.Gives options)
    (ho : d.Offered options) :
    ∃ fallible, r = some ⟨fallible, (lastRename? options).getD d.name, d.name⟩ := by
  have hregister : d.register = .ok r := register_eq_ok_iff.mpr h
  obtain ⟨_, hcontribution⟩ := Declaration.contribution_of_register hregister
  exact (hcontribution options hgives).1 ho

/-- **A block publishes exactly what it declares**, whatever its attribute. -/
theorem publishes_declared (b : Block) (clauses : List Clause) : PublishesDeclared b clauses where
  append := b.publish_append clauses
  accepted _ _ := Block.publish_withItems_eq_ok_iff
  single item p h := by
    obtain ⟨r, hr, hp⟩ := Block.registrations_of_publish_singleton h
    have hcontributes := Item.register_eq_ok_iff.mp hr
    rw [hp]
    constructor
    · cases r <;> simp
    · constructor
      · intro hsome
        cases hcontributes with
        | other => exact absurd rfl hsome
        | unpublished => exact absurd rfl hsome
        | published hgives ho => exact ⟨_, _, rfl, hgives, ho⟩
      · rintro ⟨d, options, rfl, hgives, ho⟩
        obtain ⟨fallible, rfl⟩ := hcontributes.eq_some hgives ho
        simp
  named d options p hgives ho h := by
    obtain ⟨r, hr, hp⟩ := Block.registrations_of_publish_singleton h
    obtain ⟨fallible, rfl⟩ := (Item.register_eq_ok_iff.mp hr).eq_some hgives ho
    exact ⟨fallible, hp⟩
  offered d options hgives ho := by
    rw [Block.publish_withItems, Block.publish_withItems, registrations_singleton, Item.register,
      Declaration.register_of_offered hgives ho, registrations_nil]
    cases b.header clauses with
    | error e => rfl
    | ok home => cases d.registration (lastRename? options) <;> rfl
  removed first second d options hgives ho := by
    rw [Block.map_registrations_publish, Block.map_registrations_publish,
      registrations_unoffered hgives ho]
  changed first second d d' options options' hgives ho hgives' ho' := by
    rw [Block.map_registrations_publish, Block.map_registrations_publish,
      registrations_unoffered hgives ho, registrations_unoffered hgives' ho']
  malformed d a hd ha hreflect hnone := by
    have hnever : ¬ ∃ options, d.Gives options := by
      rintro ⟨options, hgives⟩
      exact hnone (Says.attribute hgives ha hreflect)
    obtain ⟨e, he⟩ := d.register_of_malformed hnever
    have hrefused : (Item.method d).register = .error e := he
    exact Block.publish_of_refused hrefused hd clauses

/-! ## 3. A block of all kinds -/

/-- A public method on a shared receiver, without arguments. -/
def declared (name : String) (attributes : List Attribute) (result : TypeExpr) : Declaration where
  name := name
  visibility := .everyone
  isAsync := false
  isUnsafe := false
  generics := []
  receiver? := some ⟨true, false, false⟩
  params := []
  result? := some result
  attributes := attributes

/-- A method under a new name, given twice. Between the two stands an attribute about something
    else. -/
def renamed : Declaration :=
  declared "add" [⟨"reflect", .clauses [⟨"rename", .text "plus"⟩]⟩, ⟨"doc", .text "Adds."⟩,
    ⟨"reflect", .clauses [⟨"rename", .text "Add"⟩]⟩] (.path none false [.mk "i32" none])

/-- A method that is skipped; its result borrows. -/
def skipped : Declaration :=
  declared "name" [⟨"reflect", .clauses [⟨"skip", .nothing⟩]⟩]
    (.reference false (.path none false [.mk "str" none]))

/-- A private method; its result borrows, too. -/
def hidden : Declaration :=
  { declared "label" [] (.reference false (.path none false [.mk "str" none])) with
    visibility := .inherited }

/-- A method that may fail. -/
def failing : Declaration :=
  declared "div" [] quotient

/-- A private method with a malformed attribute. -/
def malformed : Declaration :=
  { hidden with attributes := [⟨"reflect", .clauses [⟨"hide", .nothing⟩]⟩] }

/-- A block with methods of all kinds, and a constant. -/
def mixed : Block where
  trait? := none
  generics := []
  self := .path none false [.mk "Target" none]
  items := [.method renamed, .method skipped, .other, .method hidden, .method failing]

/-- **The renamed and the failing method are published**, under a path that the attribute gives, and
    nothing is if the malformed one is added. -/
theorem publishes_declared_mixed :
    (∃ p, mixed.publish [⟨"crate", .value "my::rt"⟩] = .ok p ∧ p.homeText = "my::rt" ∧
      p.registrations = [⟨false, "Add", "add"⟩, ⟨true, "div", "div"⟩]) ∧
    ∃ e, (mixed.withItems (.method malformed :: mixed.items)).publish
      [⟨"crate", .value "my::rt"⟩] = .error e := by
  have hreflect : ∀ rest : AttributeRest, (Attribute.mk "reflect" rest).IsReflect := fun _ =>
    Token.isWord_self "reflect"
  have hdoc : ¬ (Attribute.mk "doc" (.text "Adds.")).IsReflect := fun h =>
    absurd (Attribute.isOption_iff.mpr h) (by decide)
  have hrenamed : renamed.Gives [.rename "plus", .rename "Add"] :=
    .reflect (hreflect _) ⟨_, rfl, .last (by decide)⟩
      (.other hdoc (.reflect (hreflect _) ⟨_, rfl, .last (by decide)⟩ .nil))
  have hskipped : skipped.Gives [.skip] := .reflect (hreflect _) ⟨_, rfl, .last (by decide)⟩ .nil
  have hhidden : hidden.Gives [] := .nil
  have hfailing : failing.Gives [] := .nil
  have hitems : List.Forall₂ Item.Contributes mixed.items
      [some ⟨false, "Add", "add"⟩, none, none, none, some ⟨true, "div", "div"⟩] := by
    refine .cons (.published hrenamed ⟨by decide, rfl, rfl, rfl, rfl, rfl⟩
      (Declaration.borrowed?_eq_none_iff.mp rfl) (Declaration.fallible_eq_ok_iff.mp rfl)) ?_
    refine .cons (.unpublished hskipped fun h => absurd h.unskipped (by decide)) ?_
    refine .cons .other ?_
    refine .cons (.unpublished hhidden fun h => absurd h.visible (by decide)) ?_
    exact .cons (.published hfailing ⟨by decide, rfl, rfl, rfl, rfl, rfl⟩
      (Declaration.borrowed?_eq_none_iff.mp rfl) (Declaration.fallible_eq_ok_iff.mp rfl)) .nil
  have hheads : Heads [⟨"crate", .value "my::rt"⟩] [.name "my", .sign "::", .name "rt"] :=
    homePath_eq_ok_iff.mp rfl
  have haccepted := (publishes_declared mixed [⟨"crate", .value "my::rt"⟩]).accepted mixed.items
  refine ⟨⟨_, (haccepted _).mpr ⟨rfl, rfl, _, _, hheads, hitems, rfl⟩, rfl, rfl⟩, ?_⟩
  have hrefused : Attribute.read .unset ⟨"reflect", .clauses [⟨"hide", .nothing⟩]⟩ =
      .error .unknownMethodOption := rfl
  have hmalformed := (publishes_declared (mixed.withItems (.method malformed :: mixed.items))
    [⟨"crate", .value "my::rt"⟩]).malformed
  exact hmalformed malformed _ List.mem_cons_self List.mem_cons_self (hreflect _)
    (Attribute.not_gives_of_read hrefused)

end Structural.Publish
