/-
Base64 decoding accepts exactly what encoding writes.

* `value?_eq_some_iff`, `values_eq_ok_iff` — a byte has a value exactly if it is a symbol;
* `mem_encode` — an encoding is made of symbols and padding;
* `encode_one`, `encode_two`, `encode_threeBytes` — what is written for the bytes of values;
* `eq_encodeBytes_of_groups`, `groups_encodeBytes` — bytes that are read are what is written for
  them, and what is written is read;
* `decode_eq_ok_iff` — so a text stands for bytes exactly if it is their encoding.
-/
import Strongbox.Base64
import Strongbox.Proofs.Percent
import Strongbox.Proofs.Results
import Mathlib.Data.List.GetD

namespace Strongbox.Base64

/-! ### Symbols -/

/-- The byte of a character that is one. -/
def byteOf (c : Char) : UInt8 := c.toNat.toUInt8

theorem symbol_facts : ∀ n < 64, (symbol n).toNat < 128 ∧ symbol n ≠ '|' ∧
    byteOf (symbol n) ≠ pad ∧ value? (byteOf (symbol n)) = some n := by
  decide +kernel

theorem length_alphabet : alphabet.length = 64 := by decide +kernel

theorem value?_eq_some_iff {b : UInt8} {n : Nat} :
    value? b = some n ↔ n < 64 ∧ b = byteOf (symbol n) := by
  constructor
  · intro h
    obtain ⟨hn, hb, -⟩ := List.findIdx?_eq_some_iff_getElem.1 h
    refine ⟨length_alphabet ▸ hn, ?_⟩
    rw [symbol, List.getD_eq_getElem _ _ hn, byteOf, beq_iff_eq.1 hb]
    exact UInt8.ofNat_toNat.symm
  · rintro ⟨hn, rfl⟩
    exact (symbol_facts n hn).2.2.2

theorem valueAt_eq_ok_iff {i : Nat} {b : UInt8} {v : Nat} :
    valueAt i b = .ok v ↔ v < 64 ∧ b = byteOf (symbol v) := by
  rw [← value?_eq_some_iff, valueAt]
  cases value? b <;> simp

theorem values_eq_ok_iff {i : Nat} {bs : List UInt8} {vs : List Nat} :
    values i bs = .ok vs ↔ (∀ v ∈ vs, v < 64) ∧ bs = vs.map fun v => byteOf (symbol v) := by
  induction bs generalizing i vs with
  | nil =>
    rw [values]
    cases vs <;> simp
  | cons b bs ih =>
    rw [values, Results.bind_eq_ok]
    constructor
    · rintro ⟨v, hv, h⟩
      obtain ⟨vs', hvs, h⟩ := Results.bind_eq_ok.1 h
      cases h
      obtain ⟨hlt, rfl⟩ := valueAt_eq_ok_iff.1 hv
      obtain ⟨hall, rfl⟩ := ih.1 hvs
      exact ⟨List.forall_mem_cons.2 ⟨hlt, hall⟩, rfl⟩
    · rintro ⟨hall, hbs⟩
      cases vs with
      | nil => exact absurd hbs (by simp)
      | cons v vs =>
        obtain ⟨hv, hvs⟩ := List.forall_mem_cons.1 hall
        obtain ⟨rfl, rfl⟩ := List.cons.inj hbs
        refine ⟨v, valueAt_eq_ok_iff.2 ⟨hv, rfl⟩, ?_⟩
        rw [ih.2 ⟨hvs, rfl⟩]
        rfl

/-! ### Encoded bytes -/

/-- An encoding is made of symbols and padding. -/
theorem mem_encode {bs : List UInt8} {c : Char} (h : c ∈ encode bs) :
    c = '=' ∨ ∃ n < 64, c = symbol n := by
  induction bs using encode.induct with
  | case1 => exact absurd h List.not_mem_nil
  | case2 a =>
    have ha := a.toNat_lt
    simp only [encode, List.mem_cons, List.not_mem_nil, or_false] at h
    obtain h | h | h | h := h
    · exact .inr ⟨_, by omega, h⟩
    · exact .inr ⟨_, by omega, h⟩
    · exact .inl h
    · exact .inl h
  | case3 a b =>
    have ha := a.toNat_lt
    have hb := b.toNat_lt
    simp only [encode, List.mem_cons, List.not_mem_nil, or_false] at h
    obtain h | h | h | h := h
    · exact .inr ⟨_, by omega, h⟩
    · exact .inr ⟨_, by omega, h⟩
    · exact .inr ⟨_, by omega, h⟩
    · exact .inl h
  | case4 a b c' rest ih =>
    have ha := a.toNat_lt
    have hb := b.toNat_lt
    have hc := c'.toNat_lt
    simp only [encode, List.mem_cons] at h
    obtain h | h | h | h | h := h
    · exact .inr ⟨_, by omega, h⟩
    · exact .inr ⟨_, by omega, h⟩
    · exact .inr ⟨_, by omega, h⟩
    · exact .inr ⟨_, by omega, h⟩
    · exact ih h

/-- The bytes of an encoding. -/
def encodeBytes (bs : List UInt8) : List UInt8 := (encode bs).map byteOf

theorem bytes_encode (bs : List UInt8) : Utf8.bytes (encode bs) = encodeBytes bs := by
  refine Utf8.bytes_of_forall_lt fun c hc => ?_
  obtain hpad | ⟨n, hn, hsymbol⟩ := mem_encode hc
  · rw [hpad]
    decide
  · rw [hsymbol]
    exact (symbol_facts n hn).1

theorem length_encode (bs : List UInt8) : (encode bs).length % 4 = 0 := by
  induction bs using encode.induct with
  | case4 a b c rest ih =>
    rw [encode]
    simp only [List.length_cons]
    omega
  | _ => simp [encode]

/-! ### Values and bytes -/

theorem toNat_toUInt8 {n : Nat} (h : n < 256) : n.toUInt8.toNat = n := UInt8.toNat_ofNat_of_lt' h

theorem toUInt8_eq {n : Nat} {a : UInt8} (h : n = a.toNat) : n.toUInt8 = a := by
  rw [h]
  exact UInt8.ofNat_toNat

section

variable {v w x y : Nat}

/-- What is written for the byte of two values. -/
theorem encode_one (hv : v < 64) (hw : w < 64) (hzero : w % 16 = 0) :
    encode [(v * 4 + w / 16).toUInt8] = [symbol v, symbol w, '=', '='] := by
  rw [encode, toNat_toUInt8 (by omega)]
  have hfirst : (v * 4 + w / 16) / 4 = v := by omega
  have hsecond : (v * 4 + w / 16) % 4 * 16 = w := by omega
  rw [hfirst, hsecond]

/-- What is written for the bytes of three values. -/
theorem encode_two (hv : v < 64) (hw : w < 64) (hx : x < 64) (hzero : x % 4 = 0) :
    encode [(v * 4 + w / 16).toUInt8, (w % 16 * 16 + x / 4).toUInt8] =
      [symbol v, symbol w, symbol x, '='] := by
  rw [encode, toNat_toUInt8 (by omega), toNat_toUInt8 (by omega)]
  have hfirst : (v * 4 + w / 16) / 4 = v := by omega
  have hsecond : (v * 4 + w / 16) % 4 * 16 + (w % 16 * 16 + x / 4) / 16 = w := by omega
  have hthird : (w % 16 * 16 + x / 4) % 16 * 4 = x := by omega
  rw [hfirst, hsecond, hthird]

/-- What is written for the bytes of four values. -/
theorem encode_threeBytes (hv : v < 64) (hw : w < 64) (hx : x < 64) (hy : y < 64)
    (rest : List UInt8) : encode (threeBytes v w x y ++ rest) =
      symbol v :: symbol w :: symbol x :: symbol y :: encode rest := by
  rw [threeBytes]
  simp only [List.cons_append, List.nil_append]
  rw [encode, toNat_toUInt8 (by omega), toNat_toUInt8 (by omega), toNat_toUInt8 (by omega)]
  have hfirst : (v * 4 + w / 16) / 4 = v := by omega
  have hsecond : (v * 4 + w / 16) % 4 * 16 + (w % 16 * 16 + x / 4) / 16 = w := by omega
  have hthird : (w % 16 * 16 + x / 4) % 16 * 4 + (x % 4 * 64 + y) / 64 = x := by omega
  have hfourth : (x % 4 * 64 + y) % 64 = y := by omega
  rw [hfirst, hsecond, hthird, hfourth]

end

/-- The bytes of the four values that are written for them. -/
theorem threeBytes_eq (a b c : UInt8) :
    threeBytes (a.toNat / 4) (a.toNat % 4 * 16 + b.toNat / 16) (b.toNat % 16 * 4 + c.toNat / 64)
      (c.toNat % 64) = [a, b, c] := by
  have ha := a.toNat_lt
  have hb := b.toNat_lt
  have hc := c.toNat_lt
  rw [threeBytes, toUInt8_eq (a := a) (by omega), toUInt8_eq (a := b) (by omega),
    toUInt8_eq (a := c) (by omega)]

/-! ### The last group -/

/-- The symbols of a group, and the padding that follows them. -/
theorem exists_pads {bs : List UInt8} (h : (bs.dropWhile (· != pad)).any (· != pad) = false) :
    ∃ n, bs = bs.takeWhile (· != pad) ++ List.replicate n pad := by
  have hall : bs.dropWhile (· != pad) =
      List.replicate (bs.dropWhile (· != pad)).length pad := by
    refine List.eq_replicate_iff.2 ⟨rfl, fun b hb => ?_⟩
    have hpad := List.any_eq_false.1 h b hb
    exact bne_eq_false_iff_eq.1 (Bool.eq_false_iff.2 hpad)
  exact ⟨_, by rw [← hall, List.takeWhile_append_dropWhile]⟩

/-- A last group that is read is what is written for its bytes. -/
theorem eq_encodeBytes_of_lastGroup {i : Nat} {cs bs : List UInt8} (hlength : cs.length ≤ 4)
    (h : lastGroup i cs = .ok bs) : cs = encodeBytes bs := by
  rw [lastGroup] at h
  obtain ⟨vs, hvs, h⟩ := Results.bind_eq_ok.1 h
  obtain ⟨hall, hbody⟩ := values_eq_ok_iff.1 hvs
  split at h
  · exact absurd h (by simp)
  next htail =>
  split at h
  · next hempty =>
    cases h
    exact List.isEmpty_iff.1 hempty
  split at h
  · exact absurd h (by simp)
  next htwo =>
  split at h
  · exact absurd h (by simp)
  next hfour =>
  have hpads : (cs.dropWhile (· != pad)).any (· != pad) = false := by
    cases hd : cs.dropWhile (· != pad) with
    | nil => rfl
    | cons b rest =>
      rw [hd] at htail
      simpa [htwo] using htail
  obtain ⟨n, hn⟩ := exists_pads hpads
  rw [hbody] at hn htwo
  -- the group has four bytes, so the number of its symbols tells that of its pads
  have hsum := congrArg List.length hn
  rw [List.length_append, List.length_map, List.length_replicate] at hsum
  rw [List.length_map] at htwo
  rw [hn]
  rcases vs with _ | ⟨v, _ | ⟨w, _ | ⟨x, _ | ⟨y, _ | ⟨z, vs⟩⟩⟩⟩⟩
  · exact absurd Nat.zero_lt_two htwo
  · exact absurd Nat.one_lt_two htwo
  · obtain rfl : n = 2 := by simp only [List.length_cons, List.length_nil] at hsum; omega
    dsimp only at h
    split at h
    · next hzero =>
      cases h
      rw [encodeBytes, encode_one (hall v (by simp)) (hall w (by simp)) hzero]
      rfl
    · exact absurd h (by simp)
  · obtain rfl : n = 1 := by simp only [List.length_cons, List.length_nil] at hsum; omega
    dsimp only at h
    split at h
    · next hzero =>
      cases h
      rw [encodeBytes, encode_two (hall v (by simp)) (hall w (by simp)) (hall x (by simp)) hzero]
      rfl
    · exact absurd h (by simp)
  · obtain rfl : n = 0 := by simp only [List.length_cons, List.length_nil] at hsum; omega
    cases h
    rw [encodeBytes, ← List.append_nil (threeBytes v w x y), encode_threeBytes (hall v (by simp))
      (hall w (by simp)) (hall x (by simp)) (hall y (by simp))]
    rfl
  · simp only [List.length_cons] at hsum
    omega

/-- Bytes that are read are what is written for them. -/
theorem eq_encodeBytes_of_groups {i : Nat} {cs bs : List UInt8} (h : groups i cs = .ok bs) :
    cs = encodeBytes bs := by
  induction i, cs using groups.induct generalizing bs with
  | case1 i a b c d e rest ih =>
    rw [groups] at h
    obtain ⟨v, hv, h⟩ := Results.bind_eq_ok.1 h
    obtain ⟨w, hw, h⟩ := Results.bind_eq_ok.1 h
    obtain ⟨x, hx, h⟩ := Results.bind_eq_ok.1 h
    obtain ⟨y, hy, h⟩ := Results.bind_eq_ok.1 h
    obtain ⟨bs', hrest, h⟩ := Results.bind_eq_ok.1 h
    cases h
    obtain ⟨hv64, rfl⟩ := valueAt_eq_ok_iff.1 hv
    obtain ⟨hw64, rfl⟩ := valueAt_eq_ok_iff.1 hw
    obtain ⟨hx64, rfl⟩ := valueAt_eq_ok_iff.1 hx
    obtain ⟨hy64, rfl⟩ := valueAt_eq_ok_iff.1 hy
    rw [encodeBytes, encode_threeBytes hv64 hw64 hx64 hy64, ih hrest]
    rfl
  | case2 i cs hshort =>
    have hlength : cs.length ≤ 4 := by
      by_contra hlong
      rcases cs with _ | ⟨a, _ | ⟨b, _ | ⟨c, _ | ⟨d, _ | ⟨e, rest⟩⟩⟩⟩⟩
      case cons.cons.cons.cons.cons => exact hshort a b c d e rest rfl
      all_goals exact hlong (by simp)
    rw [groups.eq_2 i cs hshort] at h
    exact eq_encodeBytes_of_lastGroup hlength h

/-! ### Encodings are read -/

/-- The bytes of symbols with padding behind them. -/
def padded (vs : List Nat) (n : Nat) : List UInt8 :=
  (vs.map fun v => byteOf (symbol v)) ++ List.replicate n pad

theorem takeWhile_padded {vs : List Nat} (hall : ∀ v ∈ vs, v < 64) (n : Nat) :
    (padded vs n).takeWhile (· != pad) = vs.map fun v => byteOf (symbol v) := by
  rw [padded, List.takeWhile_append_of_pos, List.takeWhile_replicate]
  · simp
  · intro b hb
    obtain ⟨v, hv, rfl⟩ := List.mem_map.1 hb
    exact bne_iff_ne.2 (symbol_facts v (hall v hv)).2.2.1

theorem dropWhile_padded {vs : List Nat} (hall : ∀ v ∈ vs, v < 64) (n : Nat) :
    (padded vs n).dropWhile (· != pad) = List.replicate n pad := by
  have hsplit := List.takeWhile_append_dropWhile (p := (· != pad)) (l := padded vs n)
  rw [takeWhile_padded hall] at hsplit
  exact List.append_cancel_left hsplit

theorem values_padded {vs : List Nat} (hall : ∀ v ∈ vs, v < 64) (i n : Nat) :
    values i ((padded vs n).takeWhile (· != pad)) = .ok vs := by
  rw [takeWhile_padded hall]
  exact values_eq_ok_iff.2 ⟨hall, rfl⟩

section

variable (i : Nat) {v w x y : Nat}

theorem lastGroup_one (hv : v < 64) (hw : w < 64) (hzero : w % 16 = 0) :
    lastGroup i (padded [v, w] 2) = .ok [(v * 4 + w / 16).toUInt8] := by
  have hall : ∀ u ∈ [v, w], u < 64 := by simp [hv, hw]
  rw [lastGroup]
  refine Results.bind_eq_ok.2 ⟨[v, w], values_padded hall i 2, ?_⟩
  rw [takeWhile_padded hall, dropWhile_padded hall]
  simp [padded, hzero]

theorem lastGroup_two (hv : v < 64) (hw : w < 64) (hx : x < 64) (hzero : x % 4 = 0) :
    lastGroup i (padded [v, w, x] 1) =
      .ok [(v * 4 + w / 16).toUInt8, (w % 16 * 16 + x / 4).toUInt8] := by
  have hall : ∀ u ∈ [v, w, x], u < 64 := by simp [hv, hw, hx]
  rw [lastGroup]
  refine Results.bind_eq_ok.2 ⟨[v, w, x], values_padded hall i 1, ?_⟩
  rw [takeWhile_padded hall, dropWhile_padded hall]
  simp [padded, hzero]

theorem lastGroup_three (hv : v < 64) (hw : w < 64) (hx : x < 64) (hy : y < 64) :
    lastGroup i (padded [v, w, x, y] 0) = .ok (threeBytes v w x y) := by
  have hall : ∀ u ∈ [v, w, x, y], u < 64 := by simp [hv, hw, hx, hy]
  rw [lastGroup]
  refine Results.bind_eq_ok.2 ⟨[v, w, x, y], values_padded hall i 0, ?_⟩
  rw [takeWhile_padded hall, dropWhile_padded hall]
  simp [padded]

end

theorem groups_encodeBytes (i : Nat) (bs : List UInt8) : groups i (encodeBytes bs) = .ok bs := by
  induction bs using encode.induct generalizing i with
  | case1 => rfl
  | case2 a =>
    have ha := a.toNat_lt
    have hlast := lastGroup_one i (v := a.toNat / 4) (w := a.toNat % 4 * 16) (by omega) (by omega)
      (by omega)
    rw [toUInt8_eq (a := a) (by omega)] at hlast
    rw [← hlast, encodeBytes, encode]
    exact groups.eq_2 i _ (by simp)
  | case3 a b =>
    have ha := a.toNat_lt
    have hb := b.toNat_lt
    have hlast := lastGroup_two i (v := a.toNat / 4) (w := a.toNat % 4 * 16 + b.toNat / 16)
      (x := b.toNat % 16 * 4) (by omega) (by omega) (by omega) (by omega)
    rw [toUInt8_eq (a := a) (by omega), toUInt8_eq (a := b) (by omega)] at hlast
    rw [← hlast, encodeBytes, encode]
    exact groups.eq_2 i _ (by simp)
  | case4 a b c rest ih =>
    have ha := a.toNat_lt
    have hb := b.toNat_lt
    have hc := c.toNat_lt
    have hbytes := threeBytes_eq a b c
    have hencode : encodeBytes (a :: b :: c :: rest) =
        byteOf (symbol (a.toNat / 4)) :: byteOf (symbol (a.toNat % 4 * 16 + b.toNat / 16)) ::
          byteOf (symbol (b.toNat % 16 * 4 + c.toNat / 64)) :: byteOf (symbol (c.toNat % 64)) ::
            encodeBytes rest := by
      rw [encodeBytes, encode]
      rfl
    have hrest := ih (i + 4)
    rw [hencode]
    cases he : encodeBytes rest with
    | nil =>
      rw [he] at hrest
      obtain rfl : [] = rest := Except.ok.inj hrest
      rw [groups.eq_2 i _ (by simp), ← hbytes]
      exact lastGroup_three i (by omega) (by omega) (by omega) (by omega)
    | cons e tail =>
      rw [he] at hrest
      rw [groups, valueAt_eq_ok_iff.2 ⟨by omega, rfl⟩, valueAt_eq_ok_iff.2 ⟨by omega, rfl⟩,
        valueAt_eq_ok_iff.2 ⟨by omega, rfl⟩, valueAt_eq_ok_iff.2 ⟨by omega, rfl⟩, hrest]
      exact congrArg (fun bs => Except.ok (bs ++ rest)) hbytes

theorem groups_eq_ok_iff {cs bs : List UInt8} : groups 0 cs = .ok bs ↔ cs = encodeBytes bs := by
  constructor
  · exact eq_encodeBytes_of_groups
  · rintro rfl
    exact groups_encodeBytes 0 bs

theorem decodeBytes_eq_ok_iff {cs bs : List UInt8} :
    decodeBytes cs = .ok bs ↔ cs = encodeBytes bs := by
  rw [← groups_eq_ok_iff, decodeBytes]
  cases h : strayLast? cs with
  | none => rfl
  | some b =>
    -- an encoding has no byte left over behind its last group
    refine ⟨fun hfault => absurd hfault (by simp), fun hgroups => ?_⟩
    obtain rfl := groups_eq_ok_iff.1 hgroups
    rw [strayLast?, encodeBytes, List.length_map, length_encode, if_neg (by decide)] at h
    exact absurd h (by simp)

/-- **A text stands for bytes exactly if it is their encoding.** -/
theorem decode_eq_ok_iff {s : String} {bs : List UInt8} :
    decode s = .ok bs ↔ s = encodeText bs := by
  rw [decode, decodeBytes_eq_ok_iff, ← bytes_encode, Utf8.ofString, encodeText]
  constructor
  · intro h
    rw [← Utf8.bytes_injective h, String.ofList_toList]
  · rintro rfl
    rw [String.toList_ofList]

/-- An encoding has no bar, which is no symbol. -/
theorem bar_not_mem_encodeText (bs : List UInt8) : '|' ∉ (encodeText bs).toList := by
  rw [encodeText, String.toList_ofList]
  intro h
  obtain hpad | ⟨n, hn, hsymbol⟩ := mem_encode h
  · exact absurd hpad (by decide)
  · exact (symbol_facts n hn).2.1 hsymbol.symm

end Strongbox.Base64
