/-
Percent-encoding is undone by decoding.

* `decode_encode` — decoding what was encoded gives the bytes of the text again, for every
  class that holds neither `%` nor a byte above ASCII;
* `encode_injective` — so different texts have different encodings;
* `mem_encode` — an encoded text is made of characters of the class, percent signs and
  capital hexadecimal digits; `mem_of_mem_encode` — any other one of them is in the text;
* `wellEscaped_encode` — in it every percent sign starts an escape.
-/
import Strongbox.Percent
import Mathlib.Data.List.Basic
import Mathlib.Tactic.Common
import Mathlib.Tactic.IntervalCases

namespace Strongbox.Utf8

theorem bytes_singleton (c : Char) : bytes [c] = String.utf8EncodeChar c := by
  simp [bytes]

theorem bytes_cons (c : Char) (s : List Char) :
    bytes (c :: s) = String.utf8EncodeChar c ++ bytes s := by
  rw [bytes, List.flatMap_cons, bytes]

theorem bytes_injective {s t : List Char} (h : bytes s = bytes t) : s = t := by
  have hst : some s = some t := by rw [← read?_bytes s, ← read?_bytes t, h]
  exact Option.some_inj.1 hst

theorem encodeChar_of_lt {c : Char} (h : c.toNat < 128) :
    String.utf8EncodeChar c = [c.toNat.toUInt8] := by
  have hc : c.val.toNat ≤ 0x7f := Nat.le_of_lt_succ h
  rw [String.utf8EncodeChar, if_pos hc]
  rfl

private theorem le_toNat_ofNat {n : Nat} (h : 128 ≤ n) (h' : n < 256) :
    128 ≤ (UInt8.ofNat n).toNat := by
  rw [UInt8.toNat_ofNat', Nat.mod_eq_of_lt (by simpa using h')]
  exact h

/-- Any other character is made of bytes that are not ASCII. -/
theorem le_of_mem_encodeChar {c : Char} (h : 128 ≤ c.toNat) {b : UInt8}
    (hb : b ∈ String.utf8EncodeChar c) : 128 ≤ b.toNat := by
  have hc : ¬ c.val.toNat ≤ 0x7f := Nat.not_le.2 h
  -- two, three or four bytes, and the first bit of each is set
  rw [String.utf8EncodeChar, if_neg hc] at hb
  split at hb
  · simp only [List.mem_cons, List.not_mem_nil, or_false] at hb
    rcases hb with rfl | rfl <;> exact le_toNat_ofNat (by omega) (by omega)
  · split at hb
    · simp only [List.mem_cons, List.not_mem_nil, or_false] at hb
      rcases hb with rfl | rfl | rfl <;> exact le_toNat_ofNat (by omega) (by omega)
    · simp only [List.mem_cons, List.not_mem_nil, or_false] at hb
      rcases hb with rfl | rfl | rfl | rfl <;> exact le_toNat_ofNat (by omega) (by omega)

theorem bytes_of_forall_lt {s : List Char} (h : ∀ c ∈ s, c.toNat < 128) :
    bytes s = s.map fun c => c.toNat.toUInt8 := by
  induction s with
  | nil => rfl
  | cons c s ih =>
    rw [bytes_cons, encodeChar_of_lt (h c List.mem_cons_self),
      ih fun d hd => h d (List.mem_cons_of_mem c hd), List.map_cons, List.singleton_append]

end Strongbox.Utf8

namespace Strongbox.Percent

/-! ### Digits -/

/-- Is the character a hexadecimal digit with a capital letter? -/
def isCapitalHex (c : Char) : Bool := "0123456789ABCDEF".toList.contains c

theorem isCapitalHex_upperDigit {d : Nat} (h : d < 16) :
    isCapitalHex (Numeral.upperDigit d) = true := by
  interval_cases d <;> decide

theorem digitValue?_upperDigit {d : Nat} (h : d < 16) :
    Numeral.digitValue? 16 (Numeral.upperDigit d) = some d := by
  interval_cases d <;> decide

theorem upperDigit_facts {d : Nat} (h : d < 16) :
    (Numeral.upperDigit d).toNat < 128 ∧ Numeral.upperDigit d ≠ '%' ∧
      Numeral.upperDigit d ≠ 'e' := by
  interval_cases d <;> decide

/-! ### Classes and encoded bytes -/

/-- What is checked for every number below 256 holds of every byte. -/
theorem forall_byte {P : UInt8 → Prop} (h : ∀ n < 256, P (UInt8.ofNat n)) (b : UInt8) : P b := by
  have hb := h b.toNat b.toNat_lt_size
  rwa [UInt8.ofNat_toNat] at hb

/-- A class of which decoding undoes encoding: ASCII bytes without the percent sign. -/
def IsClear (keep : UInt8 → Bool) : Prop := ∀ b, keep b = true → b.toNat < 128 ∧ b ≠ 0x25

theorem encode_append (keep : UInt8 → Bool) (s t : List Char) :
    encode keep (s ++ t) = encode keep s ++ encode keep t := by
  rw [encode, Utf8.bytes_append, List.flatMap_append, encode, encode]

theorem encode_eq_flatMap (keep : UInt8 → Bool) (s : List Char) :
    encode keep s = s.flatMap fun c => encode keep [c] := by
  induction s with
  | nil => rfl
  | cons c s ih =>
    rw [← List.singleton_append, encode_append, ih, List.singleton_append, List.flatMap_cons]

theorem encode_of_lt {keep : UInt8 → Bool} {c : Char} (h : c.toNat < 128) :
    encode keep [c] = encodeByte keep c.toNat.toUInt8 := by
  rw [encode, Utf8.bytes_singleton, Utf8.encodeChar_of_lt h, List.flatMap_singleton]

theorem mem_encodeByte {keep : UInt8 → Bool} {b : UInt8} {c : Char} (h : c ∈ encodeByte keep b) :
    (keep b = true ∧ c = Char.ofNat b.toNat) ∨ c = '%' ∨ isCapitalHex c = true := by
  rw [encodeByte] at h
  split at h
  · next hk => exact Or.inl ⟨hk, List.mem_singleton.1 h⟩
  · have hb : b.toNat < 256 := b.toNat_lt_size
    rw [escape, List.mem_cons, List.mem_cons, List.mem_singleton] at h
    rcases h with rfl | rfl | rfl
    · exact Or.inr (Or.inl rfl)
    · exact Or.inr (Or.inr (isCapitalHex_upperDigit (by omega)))
    · exact Or.inr (Or.inr (isCapitalHex_upperDigit (by omega)))

/-- The characters of an encoded text. -/
theorem mem_encode {keep : UInt8 → Bool} {s : List Char} {c : Char} (h : c ∈ encode keep s) :
    (∃ b, keep b = true ∧ c = Char.ofNat b.toNat) ∨ c = '%' ∨ isCapitalHex c = true := by
  obtain ⟨b, _, hc⟩ := List.mem_flatMap.1 h
  rcases mem_encodeByte hc with ⟨hk, rfl⟩ | hc
  · exact Or.inl ⟨b, hk, rfl⟩
  · exact Or.inr hc

theorem ofNat_toNat_toUInt8 {c : Char} (h : c.toNat < 128) :
    Char.ofNat c.toNat.toUInt8.toNat = c := by
  have hc : c.toNat.toUInt8.toNat = c.toNat := by
    rw [Nat.toUInt8_eq, UInt8.toNat_ofNat', Nat.mod_eq_of_lt (by omega)]
  rw [hc, Char.ofNat_toNat]

/-- An encoded text is empty only if the text is. -/
theorem encode_ne_nil {keep : UInt8 → Bool} {s : List Char} (h : s ≠ []) : encode keep s ≠ [] := by
  intro hnil
  have hbytes : Utf8.bytes s = [] := by
    rw [List.eq_nil_iff_forall_not_mem]
    intro b hb
    have hbyte := List.flatMap_eq_nil_iff.1 hnil b hb
    rw [encodeByte] at hbyte
    split at hbyte
    · exact List.cons_ne_nil _ _ hbyte
    · exact List.cons_ne_nil _ _ hbyte
  exact h (Utf8.bytes_injective hbytes)

/-- A character that is no digit and no percent sign is in an encoded text only if it is in the
text. -/
theorem mem_of_mem_encode {keep : UInt8 → Bool} {s : List Char} {d : Char} (hlt : d.toNat < 128)
    (hsign : d ≠ '%') (hdigit : isCapitalHex d = false) (h : d ∈ encode keep s) : d ∈ s := by
  obtain ⟨b, hb, hd⟩ := List.mem_flatMap.1 h
  obtain ⟨c, hc, hbc⟩ := List.mem_flatMap.1 hb
  rcases mem_encodeByte hd with ⟨-, rfl⟩ | hd | hd
  · -- the byte is ASCII, so it is a character of the text by itself
    have hsmall : b.toNat < 128 := by
      by_contra hle
      have hsize : b.toNat < 256 := b.toNat_lt_size
      have hvalid : b.toNat.isValidChar := Or.inl (by omega)
      rw [Char.ofNat, dif_pos hvalid] at hlt
      exact hle hlt
    have hascii : c.toNat < 128 := by
      by_contra hle
      exact absurd (Utf8.le_of_mem_encodeChar (Nat.le_of_not_lt hle) hbc) (Nat.not_le.2 hsmall)
    rw [Utf8.encodeChar_of_lt hascii, List.mem_singleton] at hbc
    rwa [hbc, ofNat_toNat_toUInt8 hascii]
  · exact absurd hd hsign
  · rw [hdigit] at hd
    exact absurd hd Bool.false_ne_true

/-! ### Decoding -/

theorem decodeBytes_cons_of_ne {a : UInt8} (h : a ≠ 0x25) (bs : List UInt8) :
    decodeBytes (a :: bs) = a :: decodeBytes bs := by
  match bs with
  | [] => rfl
  | [_] => rfl
  | _ :: _ :: _ => rw [decodeBytes, if_neg h]

theorem toNat_ofNat_of_lt {n : Nat} (h : n < 128) : (Char.ofNat n).toNat = n := by
  have hvalid : n.isValidChar := Or.inl (by omega)
  rw [Char.ofNat, dif_pos hvalid]
  rfl

theorem decodeBytes_escape (b : UInt8) (bs : List UInt8) :
    decodeBytes (Utf8.bytes (escape b) ++ bs) = b :: decodeBytes bs := by
  have hb : b.toNat < 256 := b.toNat_lt_size
  have hhigh : b.toNat / 16 < 16 := by omega
  have hlow : b.toNat % 16 < 16 := by omega
  have hbytes : Utf8.bytes (escape b) = [0x25, (Numeral.upperDigit (b.toNat / 16)).toNat.toUInt8,
      (Numeral.upperDigit (b.toNat % 16)).toNat.toUInt8] := by
    rw [Utf8.bytes_of_forall_lt]
    · rfl
    · intro c hc
      rw [escape, List.mem_cons, List.mem_cons, List.mem_singleton] at hc
      rcases hc with rfl | rfl | rfl
      · decide
      · exact (upperDigit_facts hhigh).1
      · exact (upperDigit_facts hlow).1
  -- the two digits are those of the byte in base 16
  have hpair : pairValue? (Numeral.upperDigit (b.toNat / 16)).toNat.toUInt8
      (Numeral.upperDigit (b.toNat % 16)).toNat.toUInt8 = some b := by
    rw [pairValue?, hexValue?, hexValue?, ofNat_toNat_toUInt8 (upperDigit_facts hhigh).1,
      ofNat_toNat_toUInt8 (upperDigit_facts hlow).1, digitValue?_upperDigit hhigh,
      digitValue?_upperDigit hlow]
    show some (b.toNat / 16 * 16 + b.toNat % 16).toUInt8 = some b
    rw [show b.toNat / 16 * 16 + b.toNat % 16 = b.toNat by omega, Nat.toUInt8_eq,
      UInt8.ofNat_toNat]
  rw [hbytes, List.cons_append, List.cons_append, List.cons_append, List.nil_append, decodeBytes,
    if_pos rfl, hpair]

theorem decodeBytes_encodeByte {keep : UInt8 → Bool} (hk : IsClear keep) (b : UInt8)
    (bs : List UInt8) :
    decodeBytes (Utf8.bytes (encodeByte keep b) ++ bs) = b :: decodeBytes bs := by
  rw [encodeByte]
  split
  · next hkeep =>
    obtain ⟨hlt, hne⟩ := hk b hkeep
    rw [Utf8.bytes_singleton, Utf8.encodeChar_of_lt (by rwa [toNat_ofNat_of_lt hlt]),
      toNat_ofNat_of_lt hlt, Nat.toUInt8_eq, UInt8.ofNat_toNat, List.singleton_append,
      decodeBytes_cons_of_ne hne]
  · exact decodeBytes_escape b bs

/-- **Decoding undoes encoding.** -/
theorem decode_encode {keep : UInt8 → Bool} (hk : IsClear keep) (s : List Char) :
    decode (encode keep s) = Utf8.bytes s := by
  -- by induction on the bytes: whether to escape is decided for each byte alone
  have hgen : ∀ bs : List UInt8,
      decodeBytes (Utf8.bytes (bs.flatMap (encodeByte keep))) = bs := by
    intro bs
    induction bs with
    | nil => rfl
    | cons b bs ih =>
      rw [List.flatMap_cons, Utf8.bytes_append, decodeBytes_encodeByte hk, ih]
  exact hgen (Utf8.bytes s)

theorem encode_injective {keep : UInt8 → Bool} (hk : IsClear keep) {s t : List Char}
    (h : encode keep s = encode keep t) : s = t :=
  Utf8.bytes_injective (by rw [← decode_encode hk, h, decode_encode hk])

/-! ### Escapes -/

/-- Does every percent sign of the text start an escape? -/
def WellEscaped (s : List Char) : Prop :=
  ∀ rest, '%' :: rest <:+ s →
    ∃ a b after, rest = a :: b :: after ∧ isCapitalHex a = true ∧ isCapitalHex b = true

theorem wellEscaped_nil : WellEscaped [] := by
  intro rest h
  exact absurd (List.suffix_nil.1 h) (List.cons_ne_nil _ _)

theorem WellEscaped.cons {s : List Char} (h : WellEscaped s) {c : Char} (hc : c ≠ '%') :
    WellEscaped (c :: s) := by
  intro rest hrest
  rcases List.suffix_cons_iff.1 hrest with heq | hsuf
  · exact absurd (List.cons.inj heq).1.symm hc
  · exact h rest hsuf

theorem WellEscaped.escape_append {s : List Char} (h : WellEscaped s) (b : UInt8) :
    WellEscaped (escape b ++ s) := by
  have hb : b.toNat < 256 := b.toNat_lt_size
  have hhigh : b.toNat / 16 < 16 := by omega
  have hlow : b.toNat % 16 < 16 := by omega
  intro rest hrest
  rw [escape, List.cons_append] at hrest
  rcases List.suffix_cons_iff.1 hrest with heq | hsuf
  · exact ⟨_, _, s, (List.cons.inj heq).2, isCapitalHex_upperDigit hhigh,
      isCapitalHex_upperDigit hlow⟩
  · exact ((h.cons (upperDigit_facts hlow).2.1).cons (upperDigit_facts hhigh).2.1) rest hsuf

/-- In an encoded text every percent sign starts an escape. -/
theorem wellEscaped_encode {keep : UInt8 → Bool} (hk : IsClear keep) (s : List Char) :
    WellEscaped (encode keep s) := by
  rw [encode]
  induction Utf8.bytes s with
  | nil => exact wellEscaped_nil
  | cons b bs ih =>
    rw [List.flatMap_cons, encodeByte]
    split
    · next hkeep =>
      -- a byte that is kept is no percent sign
      obtain ⟨hlt, hne⟩ := hk b hkeep
      refine ih.cons fun heq => hne ?_
      have hnat : b.toNat = 37 := by rw [← toNat_ofNat_of_lt hlt, heq]; rfl
      exact UInt8.toNat_inj.1 hnat
    · exact ih.escape_append b

end Strongbox.Percent
