/-
Base64 by the bits of the bytes.

The bits of bytes, one byte after the other and filled up with zero bits to a multiple of six, are
the bits of symbols, and the symbols are filled up with `=` to a multiple of four
(`Base64.Spells`).  This says nothing of groups of three bytes, and nothing of how a text is read.

* `bits_append` — bits behind bits are those of one number;
* `spells_encode` — what is written for bytes spells them;
* `Spells.unique` — bytes are spelled in one way only: their number tells that of the symbols, of
  the zero bits and of the pads;
* `decode_eq_ok_iff_spells` — so a text is read exactly as the bytes that it spells.
-/
import Strongbox.Proofs.Base64

namespace Strongbox.Base64

/-! ### Bits -/

/-- The lowest bits of a number, the highest of them first. -/
def bits : (width n : Nat) → List Bool
  | 0, _ => []
  | width + 1, n => bits width (n / 2) ++ [n % 2 == 1]

theorem length_bits (width n : Nat) : (bits width n).length = width := by
  induction width generalizing n with
  | zero => rfl
  | succ width ih => rw [bits, List.length_append, ih, List.length_singleton]

theorem bits_zero (width : Nat) : bits width 0 = List.replicate width false := by
  induction width with
  | zero => rfl
  | succ width ih =>
    rw [bits, ih, List.replicate_succ']
    rfl

/-- Bits behind bits are those of one number. -/
theorem bits_append (u width a : Nat) {b : Nat} (hb : b < Nat.pow 2 width) :
    bits u a ++ bits width b = bits (u + width) (a * Nat.pow 2 width + b) := by
  induction width generalizing b with
  | zero =>
    obtain rfl : b = 0 := Nat.lt_one_iff.1 hb
    rw [bits, List.append_nil, Nat.add_zero, Nat.add_zero]
    exact congrArg (bits u) (Nat.mul_one a).symm
  | succ width ih =>
    have hpow : Nat.pow 2 (width + 1) = Nat.pow 2 width * 2 := rfl
    have hprod : a * Nat.pow 2 (width + 1) = a * Nat.pow 2 width * 2 := by
      rw [hpow, Nat.mul_assoc]
    have hhalf : (a * Nat.pow 2 (width + 1) + b) / 2 = a * Nat.pow 2 width + b / 2 := by omega
    have hlast : (a * Nat.pow 2 (width + 1) + b) % 2 = b % 2 := by omega
    rw [bits, ← List.append_assoc, ih (by omega), ← Nat.add_assoc, bits, hhalf, hlast]

theorem bits_injective {width m n : Nat} (hm : m < Nat.pow 2 width) (hn : n < Nat.pow 2 width)
    (h : bits width m = bits width n) : m = n := by
  induction width generalizing m n with
  | zero => rw [Nat.lt_one_iff.1 hm, Nat.lt_one_iff.1 hn]
  | succ width ih =>
    have hpow : Nat.pow 2 (width + 1) = Nat.pow 2 width * 2 := rfl
    have hlength : (bits width (m / 2)).length = (bits width (n / 2)).length := by
      rw [length_bits, length_bits]
    obtain ⟨hhigh, hlow⟩ := List.append_inj h hlength
    have hhalf : m / 2 = n / 2 := ih (by omega) (by omega) hhigh
    have hlast : (m % 2 == 1) = (n % 2 == 1) := (List.cons.inj hlow).1
    rw [Bool.eq_iff_iff, beq_iff_eq, beq_iff_eq] at hlast
    omega

/-- The bits of bytes, one byte after the other. -/
def byteBits (bs : List UInt8) : List Bool := bs.flatMap fun b => bits 8 b.toNat

/-- The bits of symbols, by their values. -/
def symbolBits (vs : List Nat) : List Bool := vs.flatMap (bits 6)

theorem length_byteBits (bs : List UInt8) : (byteBits bs).length = 8 * bs.length := by
  induction bs with
  | nil => rfl
  | cons b bs ih =>
    rw [byteBits, List.flatMap_cons, List.length_append, length_bits, ← byteBits, ih,
      List.length_cons]
    omega

theorem length_symbolBits (vs : List Nat) : (symbolBits vs).length = 6 * vs.length := by
  induction vs with
  | nil => rfl
  | cons v vs ih =>
    rw [symbolBits, List.flatMap_cons, List.length_append, length_bits, ← symbolBits, ih,
      List.length_cons]
    omega

theorem symbolBits_injective {vs ws : List Nat} (hv : ∀ v ∈ vs, v < 64) (hw : ∀ w ∈ ws, w < 64)
    (h : symbolBits vs = symbolBits ws) : vs = ws := by
  induction vs generalizing ws with
  | nil =>
    have hlength := congrArg List.length h
    rw [length_symbolBits, length_symbolBits, List.length_nil] at hlength
    exact (List.length_eq_zero_iff.1 (by omega)).symm
  | cons v vs ih =>
    cases ws with
    | nil =>
      have hlength := congrArg List.length h
      rw [length_symbolBits, length_symbolBits, List.length_nil, List.length_cons] at hlength
      omega
    | cons w ws =>
      obtain ⟨hv, hvs⟩ := List.forall_mem_cons.1 hv
      obtain ⟨hw, hws⟩ := List.forall_mem_cons.1 hw
      have hlength : (bits 6 v).length = (bits 6 w).length := by rw [length_bits, length_bits]
      obtain ⟨hhead, htail⟩ := List.append_inj h hlength
      rw [bits_injective hv hw hhead, ih hvs hws htail]

/-! ### Spelling -/

/-- The text is the padded base64 of the bytes. -/
inductive Spells (s : List Char) (bs : List UInt8) : Prop
  | intro (vs : List Nat) (zeros pads : Nat) (hvalues : ∀ v ∈ vs, v < 64) (hzeros : zeros < 6)
    (hpads : pads < 4) (hbits : symbolBits vs = byteBits bs ++ List.replicate zeros false)
    (hlength : (vs.length + pads) % 4 = 0)
    (hs : s = vs.map symbol ++ List.replicate pads '=') : Spells s bs

/-- The bits of one byte, filled up. -/
theorem symbolBits_one (a : UInt8) :
    symbolBits [a.toNat / 4, a.toNat % 4 * 16] = byteBits [a] ++ List.replicate 4 false := by
  have ha := a.toNat_lt
  have hsix : a.toNat % 4 * 16 < Nat.pow 2 6 := by
    show _ < 64
    omega
  have hnone : 0 < Nat.pow 2 4 := by
    show 0 < 16
    omega
  have hnumber : a.toNat / 4 * 64 + a.toNat % 4 * 16 = a.toNat * 16 + 0 := by omega
  simp only [symbolBits, byteBits, List.flatMap_cons, List.flatMap_nil, List.append_nil]
  rw [← bits_zero, bits_append 6 6 _ hsix, bits_append 8 4 _ hnone]
  exact congrArg (bits 12) hnumber

/-- The bits of two bytes, filled up. -/
theorem symbolBits_two (a b : UInt8) :
    symbolBits [a.toNat / 4, a.toNat % 4 * 16 + b.toNat / 16, b.toNat % 16 * 4] =
      byteBits [a, b] ++ List.replicate 2 false := by
  have ha := a.toNat_lt
  have hb := b.toNat_lt
  have hsix : a.toNat % 4 * 16 + b.toNat / 16 < Nat.pow 2 6 := by
    show _ < 64
    omega
  have htwelve : b.toNat % 16 * 4 < Nat.pow 2 6 := by
    show _ < 64
    omega
  have height : b.toNat < Nat.pow 2 8 := hb
  have hnone : 0 < Nat.pow 2 2 := by
    show 0 < 4
    omega
  have hnumber : (a.toNat / 4 * 64 + (a.toNat % 4 * 16 + b.toNat / 16)) * 64 + b.toNat % 16 * 4 =
      (a.toNat * 256 + b.toNat) * 4 + 0 := by omega
  simp only [symbolBits, byteBits, List.flatMap_cons, List.flatMap_nil, List.append_nil]
  rw [← bits_zero, ← List.append_assoc (bits 6 _), bits_append 6 6 _ hsix,
    bits_append 12 6 _ htwelve, bits_append 8 8 _ height, bits_append 16 2 _ hnone]
  exact congrArg (bits 18) hnumber

/-- The bits of three bytes are those of four symbols. -/
theorem symbolBits_three (a b c : UInt8) :
    symbolBits [a.toNat / 4, a.toNat % 4 * 16 + b.toNat / 16, b.toNat % 16 * 4 + c.toNat / 64,
      c.toNat % 64] = byteBits [a, b, c] := by
  have ha := a.toNat_lt
  have hb := b.toNat_lt
  have hc := c.toNat_lt
  have hsix : a.toNat % 4 * 16 + b.toNat / 16 < Nat.pow 2 6 := by
    show _ < 64
    omega
  have htwelve : b.toNat % 16 * 4 + c.toNat / 64 < Nat.pow 2 6 := by
    show _ < 64
    omega
  have heighteen : c.toNat % 64 < Nat.pow 2 6 := by
    show _ < 64
    omega
  have height : b.toNat < Nat.pow 2 8 := hb
  have hsixteen : c.toNat < Nat.pow 2 8 := hc
  have hnumber : ((a.toNat / 4 * 64 + (a.toNat % 4 * 16 + b.toNat / 16)) * 64 +
      (b.toNat % 16 * 4 + c.toNat / 64)) * 64 + c.toNat % 64 =
        (a.toNat * 256 + b.toNat) * 256 + c.toNat := by omega
  simp only [symbolBits, byteBits, List.flatMap_cons, List.flatMap_nil, List.append_nil]
  rw [← List.append_assoc (bits 6 _), ← List.append_assoc (bits 6 _ ++ _),
    ← List.append_assoc (bits 8 _), bits_append 6 6 _ hsix, bits_append 12 6 _ htwelve,
    bits_append 18 6 _ heighteen, bits_append 8 8 _ height, bits_append 16 8 _ hsixteen]
  exact congrArg (bits 24) hnumber

/-- What is written for bytes spells them. -/
theorem spells_encode (bs : List UInt8) : Spells (encode bs) bs := by
  induction bs using encode.induct with
  | case1 => exact .intro [] 0 0 (by simp) (by omega) (by omega) rfl rfl rfl
  | case2 a =>
    have ha := a.toNat_lt
    refine .intro [a.toNat / 4, a.toNat % 4 * 16] 4 2 ?_ (by omega) (by omega)
      (symbolBits_one a) (by simp) rfl
    simp only [List.forall_mem_cons, List.not_mem_nil, false_implies, implies_true, and_true]
    omega
  | case3 a b =>
    have ha := a.toNat_lt
    have hb := b.toNat_lt
    refine .intro [a.toNat / 4, a.toNat % 4 * 16 + b.toNat / 16, b.toNat % 16 * 4] 2 1 ?_
      (by omega) (by omega) (symbolBits_two a b) (by simp) rfl
    simp only [List.forall_mem_cons, List.not_mem_nil, false_implies, implies_true, and_true]
    omega
  | case4 a b c rest ih =>
    have ha := a.toNat_lt
    have hb := b.toNat_lt
    have hc := c.toNat_lt
    obtain ⟨vs, zeros, pads, hvalues, hzeros, hpads, hbits, hlength, hs⟩ := ih
    refine .intro ([a.toNat / 4, a.toNat % 4 * 16 + b.toNat / 16,
      b.toNat % 16 * 4 + c.toNat / 64, c.toNat % 64] ++ vs) zeros pads ?_ hzeros hpads ?_ ?_ ?_
    · refine List.forall_mem_append.2 ⟨?_, hvalues⟩
      simp only [List.forall_mem_cons, List.not_mem_nil, false_implies, implies_true, and_true]
      omega
    · have hthree := symbolBits_three a b c
      rw [symbolBits, byteBits] at hbits hthree
      rw [symbolBits, List.flatMap_append, hthree, hbits, ← List.append_assoc,
        ← List.flatMap_append]
      rfl
    · rw [List.length_append]
      simp only [List.length_cons, List.length_nil]
      omega
    · rw [encode, hs]
      rfl

/-- Bytes are spelled in one way only. -/
theorem Spells.unique {s t : List Char} {bs : List UInt8} (hs : Spells s bs) (ht : Spells t bs) :
    s = t := by
  obtain ⟨vs, zeros, pads, hvalues, hzeros, hpads, hbits, hlength, rfl⟩ := hs
  obtain ⟨ws, zeros', pads', hvalues', hzeros', hpads', hbits', hlength', rfl⟩ := ht
  have hcount := congrArg List.length hbits
  have hcount' := congrArg List.length hbits'
  rw [List.length_append, length_symbolBits, length_byteBits, List.length_replicate] at hcount hcount'
  obtain rfl : zeros = zeros' := by omega
  obtain rfl : vs = ws := symbolBits_injective hvalues hvalues' (hbits.trans hbits'.symm)
  obtain rfl : pads = pads' := by omega
  rfl

/-- A text spells bytes exactly if it is what is written for them. -/
theorem spells_iff {s : String} {bs : List UInt8} : Spells s.toList bs ↔ s = encodeText bs := by
  rw [encodeText]
  constructor
  · intro h
    rw [← h.unique (spells_encode bs), String.ofList_toList]
  · rintro rfl
    rw [String.toList_ofList]
    exact spells_encode bs

/-- A text is read exactly as the bytes that it spells. -/
theorem decode_eq_ok_iff_spells {s : String} {bs : List UInt8} :
    decode s = .ok bs ↔ Spells s.toList bs := by
  rw [decode_eq_ok_iff, spells_iff]

end Strongbox.Base64
