import Structural.Proofs.Text.Separator

/-!
# Short names cut out of octets

A text lies in memory as octets, in UTF-8. It is searched and cut there: offsets count octets, and a
cut at an offset where no character begins, or behind the end, fails.

* `octets` -- the octets of a text;
* `IsBoundary`, `sliceTo?`, `sliceFrom?` -- where a text may be cut, and the two cuts;
* `cutOctets?` -- **the short form as it is found in memory**: the first `<` from the left, the last
  two colons in front of it from the right, and a cut two octets behind their offset;
* `cutOctets?_octets` -- **no cut fails, and what is left are the octets of the short form**: neither
  `<` nor `:` is an octet of a longer character;
* `shortName_exact` -- the main result: what a short form is, for every text.
-/

namespace Structural.Text

/-! ## 1. Octets -/

/-- **The octets of a text** in UTF-8. -/
def octets (s : String) : List UInt8 :=
  s.toByteArray.data.toList

/-- The octets of some characters, one after the other. -/
def encode (cs : List Char) : List UInt8 :=
  cs.flatMap String.utf8EncodeChar

/-- The octet of `<`. -/
def lessThan : UInt8 := 0x3c

/-- The octet of `:`. -/
def colon : UInt8 := 0x3a

theorem octets_eq (s : String) : octets s = encode s.toList := by
  have hbytes : s.toByteArray = s.toList.utf8Encode := by
    rw [← String.toByteArray_ofList, String.ofList_toList]
  unfold octets
  rw [hbytes]
  exact List.toList_data_toByteArray

theorem encode_append (cs ds : List Char) : encode (cs ++ ds) = encode cs ++ encode ds :=
  List.flatMap_append

theorem encode_cons (c : Char) (rest : List Char) :
    encode (c :: rest) = String.utf8EncodeChar c ++ encode rest :=
  List.flatMap_cons

/-- **An ASCII character is one octet, and no octet of any other is an ASCII character.** -/
theorem utf8EncodeChar_cases (c : Char) :
    (c.toNat < 128 ∧ String.utf8EncodeChar c = [UInt8.ofNat c.toNat]) ∨
      ∀ b ∈ String.utf8EncodeChar c, 128 ≤ b.toNat := by
  have hval : c.val.toNat = c.toNat := rfl
  unfold String.utf8EncodeChar
  simp only [hval]
  by_cases h1 : c.toNat ≤ 127
  · rw [if_pos h1]
    exact Or.inl ⟨by omega, rfl⟩
  · rw [if_neg h1]
    refine Or.inr ?_
    split
    · simp
      omega
    · split
      · simp
        omega
      · simp
        omega

theorem ofNat_toNat_eq_iff {c d : Char} (hc : c.toNat < 128) (hd : d.toNat < 128) :
    UInt8.ofNat c.toNat = UInt8.ofNat d.toNat ↔ c = d := by
  constructor
  · intro h
    have hnat : (UInt8.ofNat c.toNat).toNat = (UInt8.ofNat d.toNat).toNat := congrArg _ h
    rw [UInt8.toNat_ofNat', UInt8.toNat_ofNat'] at hnat
    have hsame : c.toNat = d.toNat := by omega
    rw [← Char.ofNat_toNat c, hsame, Char.ofNat_toNat]
  · intro h
    rw [h]

/-- An octet of a longer character is no ASCII character. -/
theorem ne_of_high {d : Char} (hd : d.toNat < 128) {b : UInt8} (hb : 128 ≤ b.toNat) :
    b ≠ UInt8.ofNat d.toNat := by
  intro h
  rw [h, UInt8.toNat_ofNat'] at hb
  omega

/-! ## 2. Cuts -/

/-- **A text may be cut at an offset**: at its end, or where a character begins. -/
def IsBoundary (bytes : List UInt8) (offset : Nat) : Prop :=
  match bytes[offset]? with
  | some b => b.IsUTF8FirstByte
  | none => offset = bytes.length

instance (bytes : List UInt8) (offset : Nat) : Decidable (IsBoundary bytes offset) := by
  unfold IsBoundary
  split <;> infer_instance

/-- The text in front of an offset. -/
def sliceTo? (bytes : List UInt8) (offset : Nat) : Option (List UInt8) :=
  if IsBoundary bytes offset then some (bytes.take offset) else none

/-- The text from an offset on. -/
def sliceFrom? (bytes : List UInt8) (offset : Nat) : Option (List UInt8) :=
  if IsBoundary bytes offset then some (bytes.drop offset) else none

/-- The offset of the last two colons next to each other. -/
def lastColons? : List UInt8 → Option Nat
  | [] => none
  | b :: rest =>
    match lastColons? rest with
    | some n => some (n + 1)
    | none => if b = colon ∧ rest.head? = some colon then some 0 else none

/-- **The short form as it is found in memory**; `none` if a cut fails. -/
def cutOctets? (bytes : List UInt8) : Option (List UInt8) := do
  let front ← sliceTo? bytes (bytes.findIdx (· == lessThan))
  match lastColons? front with
  | some n => sliceFrom? bytes (n + 2)
  | none => some bytes

/-- Behind whole characters a text may be cut. -/
theorem isBoundary_encode_append (cs ds : List Char) :
    IsBoundary (encode (cs ++ ds)) (encode cs).length := by
  rw [encode_append]
  unfold IsBoundary
  rw [List.getElem?_append_right (Nat.le_refl _), Nat.sub_self]
  cases ds with
  | nil => simp [encode]
  | cons d rest =>
      have hne : 0 < (String.utf8EncodeChar d).length :=
        List.length_pos_iff.mpr String.utf8EncodeChar_ne_nil
      rw [encode_cons, List.getElem?_append_left hne, List.getElem?_eq_getElem hne]
      exact UInt8.isUTF8FirstByte_getElem_zero_utf8EncodeChar

theorem sliceTo?_encode_append (cs ds : List Char) :
    sliceTo? (encode (cs ++ ds)) (encode cs).length = some (encode cs) := by
  unfold sliceTo?
  rw [if_pos (isBoundary_encode_append cs ds), encode_append, List.take_left]

theorem sliceFrom?_encode_append (cs ds : List Char) :
    sliceFrom? (encode (cs ++ ds)) (encode cs).length = some (encode ds) := by
  unfold sliceFrom?
  rw [if_pos (isBoundary_encode_append cs ds), encode_append, List.drop_left]

/-! ## 3. Searches -/

/-- The first `<` stands behind the octets of the head. -/
theorem findIdx_encode (cs : List Char) :
    (encode cs).findIdx (· == lessThan) = (encode (head cs)).length := by
  induction cs with
  | nil => rfl
  | cons c rest ih =>
      rw [encode_cons, List.findIdx_append]
      by_cases hc : c = '<'
      · subst hc
        rfl
      · have hnone : ∀ b ∈ String.utf8EncodeChar c, (b == lessThan) = false := by
          intro b hb
          rw [beq_eq_false_iff_ne]
          rcases utf8EncodeChar_cases c with ⟨hsmall, hone⟩ | hhigh
          · rw [hone, List.mem_singleton] at hb
            rw [hb]
            exact fun h => hc ((ofNat_toNat_eq_iff (d := '<') hsmall (by decide)).mp h)
          · exact ne_of_high (d := '<') (by decide) (hhigh b hb)
        have hhead : head (c :: rest) = c :: head rest := by
          unfold head
          rw [List.takeWhile_cons, if_pos (by simpa using hc)]
        rw [List.findIdx_eq_length_of_false hnone, if_neg (Nat.lt_irrefl _), ih, hhead, encode_cons,
          List.length_append, Nat.add_comm]

/-- Octets of longer characters do not stand in the way. -/
theorem lastColons?_append_high {high : List UInt8} (h : ∀ b ∈ high, 128 ≤ b.toNat)
    (bytes : List UInt8) :
    lastColons? (high ++ bytes) = (lastColons? bytes).map (· + high.length) := by
  induction high with
  | nil => simp
  | cons b rest ih =>
      have hb : b ≠ colon := ne_of_high (d := ':') (by decide) (h b List.mem_cons_self)
      have hrest := ih fun x hx => h x (List.mem_cons_of_mem b hx)
      rw [List.cons_append, lastColons?, hrest]
      cases lastColons? bytes with
      | none => simp [hb]
      | some n =>
          simp
          omega

theorem head?_encode_eq_colon_iff (cs : List Char) :
    (encode cs).head? = some colon ↔ cs.head? = some ':' := by
  cases cs with
  | nil => simp [encode]
  | cons c rest =>
      rw [encode_cons]
      rcases utf8EncodeChar_cases c with ⟨hsmall, hone⟩ | hhigh
      · have hcolon : UInt8.ofNat c.toNat = colon ↔ c = ':' :=
          ofNat_toNat_eq_iff (d := ':') hsmall (by decide)
        rw [hone]
        simp [hcolon]
      · obtain ⟨b, bs, hbs⟩ := List.exists_cons_of_ne_nil (String.utf8EncodeChar_ne_nil (c := c))
        have hb : b ≠ colon :=
          ne_of_high (d := ':') (by decide) (hhigh b (hbs ▸ List.mem_cons_self))
        have hc : c ≠ ':' := by
          intro h
          subst h
          have hcolon : colon = b := by
            have hlist : [colon] = b :: bs := hbs
            exact (List.cons.inj hlist).1
          exact hb hcolon.symm
        rw [hbs]
        simp [hb, hc]

/-- **The last two colons are those of the last separator**, and their offset counts the octets in
    front of it. -/
theorem lastColons?_encode (cs : List Char) :
    lastColons? (encode cs) = (lastSeparator? cs).map fun n => (encode (cs.take n)).length := by
  induction cs with
  | nil => rfl
  | cons c rest ih =>
      rw [encode_cons, lastSeparator?]
      rcases utf8EncodeChar_cases c with ⟨hsmall, hone⟩ | hhigh
      · have hcolon : UInt8.ofNat c.toNat = colon ↔ c = ':' :=
          ofNat_toNat_eq_iff (d := ':') hsmall (by decide)
        rw [hone, List.singleton_append, lastColons?, ih]
        cases lastSeparator? rest with
        | some n => simp [encode_cons, hone, Nat.add_comm]
        | none =>
            simp only [hcolon, head?_encode_eq_colon_iff]
            by_cases hc : c = ':' ∧ rest.head? = some ':'
            · simp [hc, encode]
            · simp [hc]
      · have hc : c ≠ ':' := by
          intro h
          subst h
          exact absurd (hhigh colon List.mem_cons_self) (by decide)
        rw [lastColons?_append_high hhigh, ih]
        cases lastSeparator? rest with
        | some n => simp [encode_cons, Nat.add_comm]
        | none => simp [hc]

/-! ## 4. The short form -/

/-- **No cut fails, and what is left are the octets of the short form.** -/
theorem cutOctets?_octets (s : String) : cutOctets? (octets s) = some (octets (shortName s)) := by
  have hshort : octets (shortName s) = encode (shortChars s.toList) := by
    rw [octets_eq, shortName, String.toList_ofList]
  rw [octets_eq, hshort]
  generalize s.toList = cs
  have hfront : sliceTo? (encode cs) (encode (head cs)).length = some (encode (head cs)) := by
    have hslice := sliceTo?_encode_append (head cs) (tail cs)
    rwa [head_append_tail] at hslice
  unfold cutOctets?
  rw [findIdx_encode, hfront, Option.bind_eq_bind, Option.bind_some, lastColons?_encode]
  cases hlast : lastSeparator? (head cs) with
  | none => rw [shortChars_of_none hlast, Option.map_none]
  | some n =>
      obtain ⟨m, r, hhead, rfl, hr⟩ := lastSeparator?_eq_some_iff.mp hlast
      have hsplit : cs = (m ++ [':', ':']) ++ shortChars cs := by
        calc cs = head cs ++ tail cs := (head_append_tail cs).symm
          _ = (m ++ [':', ':']) ++ shortChars cs := by
            rw [shortChars_of_head hhead hr, hhead]
            simp
      have hoffset : (encode ((head cs).take m.length)).length + 2 =
          (encode (m ++ [':', ':'])).length := by
        rw [hhead, List.take_left, encode_append, List.length_append]
        rfl
      have hslice := sliceFrom?_encode_append (m ++ [':', ':']) (shortChars cs)
      rw [← hsplit] at hslice
      simp only [Option.map_some, hoffset]
      exact hslice

/-- A text put together from three, as characters. -/
theorem toList_separated (m r : String) :
    (m ++ "::" ++ r).toList = m.toList ++ ':' :: ':' :: r.toList := by
  have hcolons : "::".toList = [':', ':'] := rfl
  rw [String.toList_append, String.toList_append, hcolons, List.append_assoc]
  rfl

/-- **What the short form of a text is.** No cut fails. The text is left as it is if no separator
    stands in its head; else a front without `<` is cut off together with a separator, and none is
    left in the head. What is behind the head stays, and a short form is its own. Conversely a front
    without `<` is cut off at a separator if what is behind it begins with no colon and has no
    separator in its head. -/
theorem shortName_exact :
    (∀ s : String, cutOctets? (octets s) = some (octets (shortName s)) ∧
      ((shortName s = s ∧ ¬ HasSeparator (head s.toList)) ∨
        ∃ m : String, s = m ++ "::" ++ shortName s ∧ '<' ∉ m.toList ∧
          ¬ HasSeparator (head (shortName s).toList)) ∧
      tail s.toList <:+ (shortName s).toList ∧ shortName (shortName s) = shortName s) ∧
    ∀ m r : String, '<' ∉ m.toList → r.toList.head? ≠ some ':' →
      ¬ HasSeparator (head r.toList) → shortName (m ++ "::" ++ r) = r := by
  have hlist : ∀ s : String, (shortName s).toList = shortChars s.toList := fun s =>
    String.toList_ofList
  refine ⟨fun s => ⟨cutOctets?_octets s, ?_, ?_, ?_⟩, fun m r hm hfirst hr => ?_⟩
  · rw [hlist s]
    rcases shortChars_cases s.toList with ⟨hshort, hnone⟩ | ⟨m, hs, hm, _⟩
    · refine Or.inl ⟨?_, hnone⟩
      rw [shortName, hshort, String.ofList_toList]
    · refine Or.inr ⟨String.ofList m, ?_, ?_, not_hasSeparator_shortChars s.toList⟩
      · rw [← String.toList_inj, toList_separated, String.toList_ofList, hlist s]
        exact hs
      · rw [String.toList_ofList]
        exact hm
  · rw [hlist s, ← tail_shortChars s.toList]
    exact tail_suffix _
  · rw [← String.toList_inj, hlist, hlist, shortChars_shortChars]
  · rw [← String.toList_inj, hlist, toList_separated]
    exact shortChars_append hm (not_hasSeparator_colon hfirst hr)

/-- A type with an argument, behind a module path. -/
theorem shortName_exact_wrap :
    '<' ∉ "a::b".toList ∧ "Wrap<c::D>".toList.head? ≠ some ':' ∧
      ¬ HasSeparator (head "Wrap<c::D>".toList) ∧
      shortName ("a::b" ++ "::" ++ "Wrap<c::D>") = "Wrap<c::D>" := by
  have hm : '<' ∉ "a::b".toList := by decide
  have hfirst : "Wrap<c::D>".toList.head? ≠ some ':' := by decide
  have hr : ¬ HasSeparator (head "Wrap<c::D>".toList) := by decide
  exact ⟨hm, hfirst, hr, shortName_exact.2 "a::b" "Wrap<c::D>" hm hfirst hr⟩

end Structural.Text
