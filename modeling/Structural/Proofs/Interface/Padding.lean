import Structural.Interface.Fingerprint

/-!
# Names with NULs behind them

A fingerprint reads a name in words of eight bytes, and what is left in words of four, two and one.
No length is read, so that a short last word and a longer one that ends in zero bytes are the same.

* `Slack` -- **for which lengths the words of a text have room** for more zero bytes, and how many;
* `byteWords_padded` -- these zero bytes change no word;
* `Text.padded`, `textWords_padded` -- the same for a text with NULs behind it;
* `Interface.PadsTo` -- an interface with one of its names padded, its own or that of a method;
* `Interface.PadsTo.fingerprint_eq`, `Interface.PadsTo.ne` -- **it is another interface with the same
  fingerprint**, whatever the hash of types.
-/

namespace Structural

namespace Fingerprint

/-! ## 1. Zero bytes -/

theorem littleEndian_replicate_zero (n : Nat) : littleEndian (List.replicate n 0) = 0 := by
  induction n with
  | zero => rfl
  | succ n ih =>
      rw [List.replicate_succ, littleEndian, ih]
      rfl

/-- Zero bytes at the high end do not change a number. -/
theorem littleEndian_append_zeros (bytes : List UInt8) (n : Nat) :
    littleEndian (bytes ++ List.replicate n 0) = littleEndian bytes := by
  induction bytes with
  | nil => exact littleEndian_replicate_zero n
  | cons b rest ih => rw [List.cons_append, littleEndian, littleEndian, ih]

theorem littleEndian_singleton (b : UInt8) : littleEndian [b] = b.toUInt64 := by
  simp [littleEndian]

/-! ## 2. Words with room -/

/-- **The words of a text have room for `n` zero bytes**, by the length of the text in bytes: its
    last word can be read as one of twice the size, and no word before it takes these bytes up. -/
inductive Slack (length : Nat) : Nat → Prop where
  | one (h : length % 8 = 1 ∨ length % 8 = 5) : Slack length 1
  | two (h : length % 8 = 2) : Slack length 2
  | four (h : length % 8 = 4) : Slack length 4

/-- Full words in front do not matter. -/
theorem Slack.of_mod_eq {length length' n : Nat} (h : Slack length n)
    (hmod : length % 8 = length' % 8) : Slack length' n := by
  cases h with
  | one h => exact .one (by omega)
  | two h => exact .two (by omega)
  | four h => exact .four (by omega)

theorem Slack.pos {length n : Nat} (h : Slack length n) : 0 < n := by
  cases h <;> decide

/-- A last word of one byte. -/
theorem words2_padded (b : UInt8) : words2 [b, 0] = words2 [b] := by
  have hword : littleEndian [b, 0] = littleEndian [b] := littleEndian_append_zeros [b] 1
  show [littleEndian [b, 0]] = [b.toUInt64]
  rw [hword, littleEndian_singleton]

/-- A last word of two bytes. -/
theorem words4_padded (b0 b1 : UInt8) : words4 [b0, b1, 0, 0] = words4 [b0, b1] := by
  have hword : littleEndian [b0, b1, 0, 0] = littleEndian [b0, b1] :=
    littleEndian_append_zeros [b0, b1] 2
  show [littleEndian [b0, b1, 0, 0]] = [littleEndian [b0, b1]]
  rw [hword]

/-- A last word of four bytes. -/
theorem byteWords_four_padded (b0 b1 b2 b3 : UInt8) :
    byteWords [b0, b1, b2, b3, 0, 0, 0, 0] = byteWords [b0, b1, b2, b3] := by
  have hword : littleEndian [b0, b1, b2, b3, 0, 0, 0, 0] = littleEndian [b0, b1, b2, b3] :=
    littleEndian_append_zeros [b0, b1, b2, b3] 4
  show [littleEndian [b0, b1, b2, b3, 0, 0, 0, 0]] = [littleEndian [b0, b1, b2, b3]]
  rw [hword]

/-- **Zero bytes for which there is room change no word.** The induction drops full words; what is
    left is a last word of one, two or four bytes, one byte perhaps behind four others. -/
theorem byteWords_padded : ∀ {bytes : List UInt8} {n : Nat}, Slack bytes.length n →
    byteWords (bytes ++ List.replicate n 0) = byteWords bytes
  | b0 :: b1 :: b2 :: b3 :: b4 :: b5 :: b6 :: b7 :: rest, n, h => by
      have hrest : Slack rest.length n := h.of_mod_eq (by simp only [List.length_cons]; omega)
      simp only [List.cons_append, byteWords, byteWords_padded hrest]
  | [b], _, h => by
      cases h with
      | one => exact words2_padded b
      | two h => cases h
      | four h => cases h
  | [b0, b1, b2, b3, b4], _, h => by
      cases h with
      | one => exact congrArg (littleEndian [b0, b1, b2, b3] :: ·) (words2_padded b4)
      | two h => cases h
      | four h => cases h
  | [b0, b1], _, h => by
      cases h with
      | one h => simp at h
      | two => exact words4_padded b0 b1
      | four h => cases h
  | [b0, b1, b2, b3], _, h => by
      cases h with
      | one h => simp at h
      | two h => cases h
      | four => exact byteWords_four_padded b0 b1 b2 b3
  -- no other length has room
  | [], _, h | [_, _, _], _, h | [_, _, _, _, _, _], _, h | [_, _, _, _, _, _, _], _, h => by
      cases h <;> simp at *

end Fingerprint

/-! ## 3. Texts -/

namespace Text

/-- **A text with NULs behind it.** -/
def padded (s : String) (n : Nat) : String :=
  s ++ String.ofList (List.replicate n '\x00')

/-- A NUL is a zero byte. -/
theorem bytes_padded (s : String) (n : Nat) :
    (padded s n).toUTF8.data.toList = s.toUTF8.data.toList ++ List.replicate n 0 := by
  have hnuls : (List.replicate n '\x00').flatMap String.utf8EncodeChar = List.replicate n 0 := by
    induction n with
    | zero => rfl
    | succ n ih =>
        rw [List.replicate_succ, List.flatMap_cons, ih, List.replicate_succ]
        rfl
  have happend : (padded s n).toUTF8 = s.toUTF8 ++ (List.replicate n '\x00').utf8Encode := by
    rw [← String.toByteArray_ofList]
    exact String.toByteArray_append
  rw [happend, ByteArray.data_append, Array.toList_append, List.utf8Encode, hnuls,
    List.data_toByteArray]

theorem padded_ne (s : String) {n : Nat} (h : 0 < n) : padded s n ≠ s := by
  intro heq
  have hlen := congrArg String.length heq
  simp only [padded, String.length_append, String.length_ofList, List.length_replicate] at hlen
  omega

end Text

open Fingerprint in
/-- **NULs for which there is room change no word of a text.** -/
theorem textWords_padded {s : String} {n : Nat} (h : Slack s.utf8ByteSize n) :
    textWords (Text.padded s n) = textWords s := by
  have hlen : s.toUTF8.data.toList.length = s.utf8ByteSize := by
    rw [Array.length_toList]
    rfl
  unfold textWords
  rw [Text.bytes_padded, byteWords_padded (hlen ▸ h)]

/-! ## 4. Interfaces -/

/-- An item in the place of one that gives the same. -/
theorem flatMap_set {α β : Type} (f : α → List β) {xs : List α} {k : Nat} {x y : α}
    (hk : xs[k]? = some x) (h : f y = f x) : (xs.set k y).flatMap f = xs.flatMap f := by
  have hmap : (xs.set k y).map f = xs.map f := by
    have hx : (xs.map f)[k]? = some (f x) := by
      rw [List.getElem?_map, hk]
      rfl
    obtain ⟨hlt, hget⟩ := List.getElem?_eq_some_iff.mp hx
    rw [List.map_set, h, ← hget, List.set_getElem_self]
  rw [List.flatMap_def, List.flatMap_def, hmap]

namespace Interface

open Fingerprint

/-- The interface under a padded name. -/
def padName (i : Interface) (n : Nat) : Interface :=
  { i with name := Text.padded i.name n }

/-- The interface with the signature `s` of its slot `k` under a padded name. -/
def padMethod (i : Interface) (k : Nat) (s : Signature) (n : Nat) : Interface :=
  { i with methods := i.methods.set k { s with name := Text.padded s.name n } }

/-- **One interface is the other with one name padded**, by as many NULs as there is room for. -/
inductive PadsTo (i : Interface) : Interface → Prop where
  | own {n : Nat} (h : Slack i.name.utf8ByteSize n) : PadsTo i (i.padName n)
  | method {k n : Nat} {s : Signature} (hk : i.methods[k]? = some s)
      (h : Slack s.name.utf8ByteSize n) : PadsTo i (i.padMethod k s n)

variable {i j : Interface}

/-- **A padded name does not change the words of an interface**, so all that is read after it is
    read from the same number. -/
theorem PadsTo.words_eq (h : i.PadsTo j) (hash : Ty → UInt64) : j.words hash = i.words hash := by
  cases h with
  | own h =>
      unfold words padName
      rw [textWords_padded h]
  | @method k n s hk h =>
      have hsignature : signatureWords hash { s with name := Text.padded s.name n } =
          signatureWords hash s := by
        unfold signatureWords
        rw [textWords_padded h]
      unfold words padMethod
      rw [List.length_set, flatMap_set _ hk hsignature]

/-- **A padded name does not change the fingerprint.** -/
theorem PadsTo.fingerprint_eq (h : i.PadsTo j) (hash : Ty → UInt64) :
    j.fingerprint hash = i.fingerprint hash :=
  fingerprint_congr (h.words_eq hash)

/-- **It is another interface.** -/
theorem PadsTo.ne (h : i.PadsTo j) : j ≠ i := by
  cases h with
  | own h =>
      intro heq
      exact Text.padded_ne i.name h.pos (congrArg Interface.name heq)
  | @method k n s hk h =>
      intro heq
      have hmethods : (i.padMethod k s n).methods[k]? = some s := by rw [heq, hk]
      obtain ⟨hlt, _⟩ := List.getElem?_eq_some_iff.mp hk
      have hset : (i.padMethod k s n).methods[k]? =
          some { s with name := Text.padded s.name n } := List.getElem?_set_self hlt
      rw [hset] at hmethods
      have hname : Text.padded s.name n = s.name :=
        congrArg (fun t : Signature => t.name) (Option.some.inj hmethods)
      exact Text.padded_ne s.name h.pos hname

end Interface

end Structural
