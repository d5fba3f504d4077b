import Structural.Proofs.Publish.Clauses
import Structural.Proofs.Publish.Words
import Structural.Publish.Block

/-!
# What the attributes of a method say

Attributes are read clause by clause onto a state. Here stands what is written in them, and that
reading accepts exactly what can be written.

* `MethodOption` -- one option of a method, `MethodOption.tokens` how it is written;
* `Writes` -- **tokens write options**: with commas between them, and maybe one after the last;
* `MethodOptions.read_eq_ok_iff` -- **tokens are read exactly if they write options**, and the state
  then takes these one by one;
* `Attribute.IsReflect` -- **an attribute is about publishing**: its path is one word;
* `Attribute.Gives`, `Says`, `Declaration.Gives` -- what such an attribute says, and all attributes of
  a method in order. One that says nothing of the kind is malformed; attributes about other things say
  nothing and cannot be malformed;
* `skip_foldl_take`, `rename_foldl_take` -- a method is skipped if an option says so, and of several
  new names the last one counts (`lastRename?`).
-/

namespace Structural.Publish

/-! ## 1. Options as they are written -/

/-- **An option of a method.** -/
inductive MethodOption where
  | skip
  | rename (name : String)
deriving DecidableEq, Repr

namespace MethodOption

/-- How an option is written. -/
def tokens : MethodOption → List Token
  | skip => [.name "skip"]
  | rename name => [.name "rename", .sign "=", .text name]

/-- The new name that an option gives. -/
def name? : MethodOption → Option String
  | skip => none
  | rename name => some name

end MethodOption

/-- The options of a method with one more. -/
def MethodOptions.take (o : MethodOptions) : MethodOption → MethodOptions
  | .skip => { o with skip := true }
  | .rename name => { o with rename? := some name }

/-- **Tokens write options**: one after the other, with commas between them. A comma after the last
    one is allowed. -/
def Writes : List MethodOption → List Token → Prop :=
  Lists fun option tokens => tokens = option.tokens

namespace MethodOptions

theorem textValue_eq_ok_iff {tokens rest : List Token} {value : String} :
    textValue tokens = .ok (value, rest) ↔ tokens = .text value :: rest := by
  unfold textValue
  split <;> simp_all

/-- **A clause that is read writes an option**, which the state takes. -/
theorem option_of_clause {o o' : MethodOptions} {path : ClausePath} {tokens rest after : List Token}
    (hpath : clausePath tokens = .ok (path, rest)) (h : clause o path rest = .ok (o', after)) :
    ∃ option : MethodOption, tokens = option.tokens ++ after ∧ o' = o.take option := by
  unfold clause at h
  split at h
  · rename_i hskip
    cases h
    exact ⟨.skip, eq_of_clausePath hpath hskip, rfl⟩
  · split at h
    · rename_i hrename
      obtain ⟨value, hsign, h⟩ := bind_eq_ok_iff.mp h
      obtain ⟨⟨name, more⟩, htext, h⟩ := map_eq_ok_iff.mp h
      obtain ⟨rfl, rfl⟩ := Prod.mk.inj h
      rw [equalsSign_eq_ok_iff, textValue_eq_ok_iff.mp htext] at hsign
      rw [eq_of_clausePath hpath hrename, hsign]
      exact ⟨.rename name, rfl, rfl⟩
    · cases h

/-- An option that is written is read, if no path goes on after it. -/
theorem clause_option (o : MethodOptions) (option : MethodOption) {after : List Token}
    (h : EndsName after) : ∃ path rest, clausePath (option.tokens ++ after) = .ok (path, rest) ∧
      clause o path rest = .ok (o.take option, after) := by
  cases option with
  | skip => exact ⟨_, _, clausePath_name h, rfl⟩
  | rename name =>
      exact ⟨_, _, clausePath_name (endsName_sign (by decide) _), rfl⟩

/-- **The clauses of a method's attribute are read as options are written.** -/
theorem readsAs_clause : ReadsAs clause (fun option tokens => tokens = option.tokens) take where
  sound hpath hclause := by
    obtain ⟨option, htokens, hstate⟩ := option_of_clause hpath hclause
    exact ⟨option, option.tokens, rfl, htokens, hstate⟩
  complete o option written after hwritten hafter := by
    rw [hwritten]
    exact clause_option o option hafter.endsName

/-- **Tokens are read exactly if they write options**, and the state takes these one by one. -/
theorem read_eq_ok_iff {o o' : MethodOptions} {tokens : List Token} :
    o.read tokens = .ok o' ↔ ∃ options, Writes options tokens ∧ o' = options.foldl take o :=
  readsAs_clause.readClauses_eq_ok_iff

end MethodOptions

/-! ## 2. One attribute -/

/-- **An attribute is about publishing**: its path is the word `reflect`, with blanks around it or
    none. -/
def Attribute.IsReflect (a : Attribute) : Prop :=
  Token.IsWord "reflect" a.path

/-- **An attribute says options**: it has parentheses, and what is between them writes these. -/
def Attribute.Gives (a : Attribute) (options : List MethodOption) : Prop :=
  ∃ clauses, a.rest = .clauses clauses ∧ Writes options (clauseTokens clauses)

/-- The attributes read for options are those about publishing. -/
theorem Attribute.isOption_iff {a : Attribute} : a.isOption = true ↔ a.IsReflect := by
  have hplain : Token.Plain "reflect" :=
    ⟨⟨'r', ['e', 'f', 'l', 'e', 'c', 't'], by decide, by decide, List.all_eq_true.mp (by decide)⟩,
      by decide, by decide⟩
  rw [isOption, decide_eq_true_eq, Token.ofSource_eq_name_iff hplain, IsReflect]

theorem Attribute.read_eq_ok_iff {a : Attribute} {o o' : MethodOptions} :
    Attribute.read o a = .ok o' ↔ ∃ options, a.Gives options ∧ o' = options.foldl .take o := by
  obtain ⟨path, rest⟩ := a
  unfold read
  cases rest with
  | nothing => simp [Gives]
  | text value => simp [Gives]
  | clauses clauses => simp [Gives, MethodOptions.read_eq_ok_iff]

/-- An attribute that is refused says nothing. -/
theorem Attribute.not_gives_of_read {a : Attribute} {o : MethodOptions} {e : Refusal}
    (h : Attribute.read o a = .error e) : ¬ ∃ options, a.Gives options := by
  rintro ⟨options, hgives⟩
  have hread : Attribute.read o a = .ok (options.foldl .take o) :=
    read_eq_ok_iff.mpr ⟨options, hgives, rfl⟩
  cases h.symm.trans hread

/-! ## 3. Several attributes -/

/-- **Attributes say options**, in order: those about publishing do, and others say nothing. -/
inductive Says : List Attribute → List MethodOption → Prop where
  | nil : Says [] []
  | reflect {a : Attribute} (ha : a.IsReflect) {part : List MethodOption} (hpart : a.Gives part)
      {rest : List Attribute} {options : List MethodOption} (h : Says rest options) :
      Says (a :: rest) (part ++ options)
  | other {a : Attribute} (ha : ¬ a.IsReflect) {rest : List Attribute}
      {options : List MethodOption} (h : Says rest options) : Says (a :: rest) options

theorem says_cons_of_reflect {a : Attribute} (ha : a.IsReflect) {rest : List Attribute}
    {options : List MethodOption} : Says (a :: rest) options ↔
      ∃ part others, a.Gives part ∧ Says rest others ∧ options = part ++ others := by
  constructor
  · intro h
    cases h with
    | reflect _ hpart h => exact ⟨_, _, hpart, h, rfl⟩
    | other hother => exact absurd ha hother
  · rintro ⟨part, others, hpart, h, rfl⟩
    exact .reflect ha hpart h

theorem says_cons_of_not_reflect {a : Attribute} (ha : ¬ a.IsReflect) {rest : List Attribute}
    {options : List MethodOption} : Says (a :: rest) options ↔ Says rest options := by
  constructor
  · intro h
    cases h with
    | reflect hreflect => exact absurd hreflect ha
    | other _ h => exact h
  · exact .other ha

/-- **The attributes of a method say options.** -/
def Declaration.Gives (d : Declaration) (options : List MethodOption) : Prop :=
  Says d.attributes options

/-- **Attributes are read exactly if they say options**, and the state takes these one by one. -/
theorem foldlM_read_eq_ok_iff : ∀ {attributes : List Attribute} {o o' : MethodOptions},
    (attributes.filter Attribute.isOption).foldlM Attribute.read o = .ok o' ↔
      ∃ options, Says attributes options ∧ o' = options.foldl .take o
  | [], o, o' => by
      constructor
      · intro h
        cases h
        exact ⟨[], .nil, rfl⟩
      · rintro ⟨_, ⟨⟩, rfl⟩
        rfl
  | a :: rest, o, o' => by
      by_cases ha : a.isOption = true
      · have hreflect := Attribute.isOption_iff.mp ha
        have hbind : ((a :: rest).filter Attribute.isOption).foldlM Attribute.read o =
            (Attribute.read o a).bind fun next =>
              (rest.filter Attribute.isOption).foldlM Attribute.read next := by
          rw [List.filter_cons_of_pos ha]
          rfl
        rw [hbind, bind_eq_ok_iff]
        simp only [says_cons_of_reflect hreflect]
        constructor
        · rintro ⟨next, hnext, hrest⟩
          obtain ⟨part, hpart, rfl⟩ := Attribute.read_eq_ok_iff.mp hnext
          obtain ⟨others, hsays, rfl⟩ := foldlM_read_eq_ok_iff.mp hrest
          exact ⟨_, ⟨part, others, hpart, hsays, rfl⟩, by rw [List.foldl_append]⟩
        · rintro ⟨_, ⟨part, others, hpart, hsays, rfl⟩, rfl⟩
          refine ⟨_, Attribute.read_eq_ok_iff.mpr ⟨part, hpart, rfl⟩, ?_⟩
          rw [List.foldl_append]
          exact foldlM_read_eq_ok_iff.mpr ⟨others, hsays, rfl⟩
      · have hother : ¬ a.IsReflect := fun hreflect => ha (Attribute.isOption_iff.mpr hreflect)
        rw [List.filter_cons_of_neg ha, foldlM_read_eq_ok_iff]
        simp only [says_cons_of_not_reflect hother]

theorem Declaration.options_eq_ok_iff {d : Declaration} {o : MethodOptions} :
    d.options = .ok o ↔ ∃ options, d.Gives options ∧ o = options.foldl .take .unset :=
  foldlM_read_eq_ok_iff

/-- A malformed attribute leaves several without options. -/
theorem Says.attribute {attributes : List Attribute} {options : List MethodOption}
    (h : Says attributes options) {a : Attribute} (hmem : a ∈ attributes) (ha : a.IsReflect) :
    ∃ part, a.Gives part := by
  induction h with
  | nil => exact absurd hmem List.not_mem_nil
  | reflect _ hpart _ ih =>
      rcases List.mem_cons.mp hmem with rfl | hmem
      · exact ⟨_, hpart⟩
      · exact ih hmem
  | other hother _ ih =>
      rcases List.mem_cons.mp hmem with rfl | hmem
      · exact absurd ha hother
      · exact ih hmem

/-! ## 4. What the options come to -/

/-- The new name of a method: the last one given. -/
def lastRename? (options : List MethodOption) : Option String :=
  (options.filterMap MethodOption.name?).getLast?

/-- **A method is skipped if an option says so.** -/
theorem skip_foldl_take : ∀ (options : List MethodOption) (o : MethodOptions),
    (options.foldl MethodOptions.take o).skip = (o.skip || decide (.skip ∈ options))
  | [], o => by simp
  | .skip :: rest, o => by
      rw [List.foldl_cons, skip_foldl_take rest]
      simp [MethodOptions.take]
  | .rename name :: rest, o => by
      rw [List.foldl_cons, skip_foldl_take rest]
      simp [MethodOptions.take]

/-- **Of several new names the last one counts.** -/
theorem rename_foldl_take : ∀ (options : List MethodOption) (o : MethodOptions),
    (options.foldl MethodOptions.take o).rename? = (lastRename? options).or o.rename?
  | [], o => by simp [lastRename?]
  | .skip :: rest, o => by
      rw [List.foldl_cons, rename_foldl_take rest]
      simp [MethodOptions.take, lastRename?, MethodOption.name?]
  | .rename name :: rest, o => by
      rw [List.foldl_cons, rename_foldl_take rest]
      simp only [MethodOptions.take, lastRename?, List.filterMap_cons, MethodOption.name?]
      rw [List.getLast?_cons]
      cases (rest.filterMap MethodOption.name?).getLast? <;> rfl

end Structural.Publish
