/-
The texts of numbers are read back.

A text is read byte by byte.  What a reader does with a run of digits is to put them behind those
that it has gathered, as long as they fit 64 bits; with the rest of a number it does what the first
byte behind the run says.  A rest that goes on no number (`Ends`) leaves it at that.

How digits and a power of ten make a number is left open: all that is asked for is that every way to
write the value of the decimal of a number makes the number (`Makes`).  Rounding to the nearest
number does that (`makes_ofDecimal?`).

* `integer_run`, `point_run`, `exponent_run` — runs of digits;
* `number_decimal` — the numeral of a number that fits 64 bits is read as that number;
* `number_text` — the text of a decimal, in each of its four forms, is read as its value;
* `number_shortest` — so the text of a number is read as the number.
-/
import Strongbox.Json.Reader
import Strongbox.Proofs.Percent
import Strongbox.Proofs.Shortest

namespace Strongbox

theorem Binary64.mantissa_pos {x : Binary64} (h : ¬x.isZero = true) : 0 < x.mantissa := by
  refine Nat.pos_of_ne_zero fun hm => h ?_
  rw [isZero, hm]
  rfl

/-! ### Bytes of texts -/

theorem Utf8.bytes_cons_of_lt {c : Char} (h : c.toNat < 128) (s : List Char) :
    bytes (c :: s) = Json.Reader.byte c :: bytes s := by
  rw [bytes_cons, encodeChar_of_lt h, List.singleton_append, Json.Reader.byte]

namespace Json.Reader

/-- The byte of a digit. -/
def digitByte (d : ℕ) : UInt8 := byte (Numeral.lowerDigit d)

theorem digitByte_facts {d : ℕ} (h : d < 10) : (Numeral.lowerDigit d).toNat < 128 ∧
    digit? (digitByte d) = some d ∧ digitByte d ≠ byte '-' := by
  interval_cases d <;> decide

theorem bytes_digits {ds : List ℕ} (h : ∀ d ∈ ds, d < 10) :
    Utf8.bytes (ds.map Numeral.lowerDigit) = ds.map digitByte := by
  induction ds with
  | nil => rfl
  | cons d ds ih =>
    rw [List.map_cons, List.map_cons,
      Utf8.bytes_cons_of_lt (digitByte_facts (h d List.mem_cons_self)).1,
      ih fun e he => h e (List.mem_cons_of_mem d he), digitByte]

/-- The bytes do not go on with a digit. -/
def NoDigit (rest : Bytes) : Prop := ∀ b ∈ rest.head?, digit? b = none

/-- The bytes go on no number. -/
structure Ends (rest : Bytes) : Prop where
  noDigit : NoDigit rest
  noMark : ∀ b ∈ rest.head?, b ≠ byte '.' ∧ b ≠ byte 'e' ∧ b ≠ byte 'E'

theorem ends_nil : Ends [] :=
  ⟨fun _ hb => absurd hb (by simp), fun _ hb => absurd hb (by simp)⟩

theorem noDigit_cons {b : UInt8} (h : digit? b = none) (rest : Bytes) : NoDigit (b :: rest) := by
  intro c hc
  rw [← Option.some_inj.1 hc, h]

theorem ends_cons {b : UInt8} (hdigit : digit? b = none)
    (hmark : b ≠ byte '.' ∧ b ≠ byte 'e' ∧ b ≠ byte 'E') (rest : Bytes) : Ends (b :: rest) := by
  refine ⟨noDigit_cons hdigit rest, fun c hc => ?_⟩
  rw [← Option.some_inj.1 hc]
  exact hmark

end Json.Reader

namespace Numeral

/-- Digits that are put behind others make the number larger. -/
theorem le_extend (n : ℕ) (ds : List ℕ) : n ≤ extend 10 n ds := by
  induction ds generalizing n with
  | nil => exact le_refl n
  | cons d ds ih =>
    have hstep : n ≤ n * 10 + d := by omega
    exact hstep.trans (ih (n * 10 + d))

theorem extend_cons (n d : ℕ) (ds : List ℕ) : extend 10 n (d :: ds) = extend 10 (n * 10 + d) ds :=
  rfl

theorem extend_append (n : ℕ) (ds es : List ℕ) :
    extend 10 n (ds ++ es) = extend 10 (extend 10 n ds) es := List.foldl_append

/-- Zeros behind a number. -/
theorem extend_zeros (n k : ℕ) : extend 10 n (List.replicate k 0) = n * 10 ^ k := by
  induction k generalizing n with
  | zero => exact (Nat.mul_one n).symm
  | succ k ih =>
    rw [List.replicate_succ, extend_cons, ih, pow_succ, Nat.add_zero, Nat.mul_assoc,
      Nat.mul_comm 10]

/-- The first digit of a number that is not zero is not zero. -/
theorem digits_eq_cons {n : ℕ} (hn : 0 < n) : ∃ d ds, digits 10 n = d :: ds ∧ 0 < d := by
  induction n using Nat.strongRecOn with
  | ind n ih =>
    by_cases hlt : n < 10
    · exact ⟨n, [], digits_of_lt hlt, hn⟩
    · obtain ⟨d, ds, hds, hd⟩ := ih (n / 10) (by omega) (by omega)
      refine ⟨d, ds ++ [n % 10], ?_, hd⟩
      rw [digits_of_le (by omega) (by omega), hds, List.cons_append]

theorem forall_digits_lt (n : ℕ) : ∀ d ∈ digits 10 n, d < 10 := fun _ hd =>
  lt_of_mem_digits (by omega) hd

end Numeral

namespace Json.Reader

open Numeral (extend le_extend extend_cons)

/-! ### Runs of digits -/

variable (scale : ℕ → ℤ → Option Binary64) (negative : Bool)

/-- A run of digits in front of the point. -/
theorem integer_run {ds : List ℕ} (hds : ∀ d ∈ ds, d < 10) {n : ℕ}
    (hlt : extend 10 n ds < gatherLimit) (rest : Bytes) :
    integer scale negative n (ds.map digitByte ++ rest) =
      integer scale negative (extend 10 n ds) rest := by
  induction ds generalizing n with
  | nil => rfl
  | cons d ds ih =>
    obtain ⟨hd, hds⟩ := List.forall_mem_cons.1 hds
    rw [extend_cons] at hlt ⊢
    have hstep : n * 10 + d < gatherLimit := (le_extend _ ds).trans_lt hlt
    rw [List.map_cons, List.cons_append, integer, (digitByte_facts hd).2.1]
    dsimp only
    rw [if_pos hstep, ih hds hlt]

theorem integer_of_noDigit (n : ℕ) {rest : Bytes} (h : NoDigit rest) :
    integer scale negative n rest = afterInteger scale negative n rest := by
  cases rest with
  | nil => rfl
  | cons b rest => rw [integer, h b rfl]

/-- A run of digits behind the point. -/
theorem fraction_run {ds : List ℕ} (hds : ∀ d ∈ ds, d < 10) (start : ℤ) {n : ℕ} (read : ℕ)
    (hlt : extend 10 n ds < gatherLimit) (rest : Bytes) :
    fraction scale negative start n read (ds.map digitByte ++ rest) =
      fraction scale negative start (extend 10 n ds) (read + ds.length) rest := by
  induction ds generalizing n read with
  | nil => rfl
  | cons d ds ih =>
    obtain ⟨hd, hds⟩ := List.forall_mem_cons.1 hds
    rw [extend_cons] at hlt ⊢
    have hstep : n * 10 + d < gatherLimit := (le_extend _ ds).trans_lt hlt
    rw [List.map_cons, List.cons_append, fraction, (digitByte_facts hd).2.1]
    dsimp only
    rw [if_pos hstep, ih hds (read + 1) hlt, List.length_cons, Nat.add_right_comm, Nat.add_assoc]

theorem fraction_of_noDigit (start : ℤ) (n : ℕ) {read : ℕ} (hread : read ≠ 0) {rest : Bytes}
    (h : NoDigit rest) : fraction scale negative start n read rest =
      afterDigits scale negative n (start - read) rest := by
  cases rest with
  | nil => rw [fraction, if_neg hread, afterDigits]
  | cons b rest =>
    rw [fraction, h b rfl]
    dsimp only
    rw [if_neg hread]

/-- A run of digits of an exponent. -/
theorem exponentDigits_run {ds : List ℕ} (hds : ∀ d ∈ ds, d < 10) {e : ℕ}
    (hlt : extend 10 e ds < exponentLimit) {rest : Bytes} (h : NoDigit rest) :
    exponentDigits e (ds.map digitByte ++ rest) = (some (extend 10 e ds), rest) := by
  induction ds generalizing e with
  | nil =>
    cases rest with
    | nil => rfl
    | cons b rest =>
      rw [List.map_nil, List.nil_append, exponentDigits, h b rfl]
      rfl
  | cons d ds ih =>
    obtain ⟨hd, hds⟩ := List.forall_mem_cons.1 hds
    rw [extend_cons] at hlt ⊢
    have hstep : e * 10 + d < exponentLimit := (le_extend _ ds).trans_lt hlt
    rw [List.map_cons, List.cons_append, exponentDigits, (digitByte_facts hd).2.1]
    dsimp only
    rw [if_pos hstep, ih hds hlt]

/-! ### Ends of numbers -/

theorem afterDigits_of_ends (n : ℕ) (e : ℤ) {rest : Bytes} (h : Ends rest) :
    afterDigits scale negative n e rest = float scale negative n e rest := by
  cases rest with
  | nil => rfl
  | cons b rest =>
    obtain ⟨-, he, hE⟩ := h.noMark b rfl
    rw [afterDigits, if_neg (not_or.2 ⟨he, hE⟩)]

theorem afterInteger_of_ends (n : ℕ) {rest : Bytes} (h : Ends rest) :
    afterInteger scale negative n rest = plain scale negative n rest := by
  cases rest with
  | nil => rfl
  | cons b rest =>
    obtain ⟨hpoint, he, hE⟩ := h.noMark b rfl
    rw [afterInteger, if_neg hpoint, if_neg (not_or.2 ⟨he, hE⟩)]

theorem afterInteger_point (n : ℕ) (rest : Bytes) :
    afterInteger scale negative n (byte '.' :: rest) = fraction scale negative 0 n 0 rest := by
  rw [afterInteger, if_pos rfl]

theorem afterInteger_e (n : ℕ) (rest : Bytes) :
    afterInteger scale negative n (byte 'e' :: rest) = exponent scale negative n 0 rest := by
  rw [afterInteger, if_neg (by decide), if_pos (Or.inl rfl)]

/-- The part of a number behind its point. -/
theorem point_run {ds : List ℕ} (hds : ∀ d ∈ ds, d < 10) (hne : ds ≠ []) {n : ℕ}
    (hlt : extend 10 n ds < gatherLimit) {rest : Bytes} (h : NoDigit rest) :
    afterInteger scale negative n (byte '.' :: (ds.map digitByte ++ rest)) =
      afterDigits scale negative (extend 10 n ds) (-ds.length) rest := by
  rw [afterInteger_point, fraction_run scale negative hds 0 0 hlt, Nat.zero_add,
    fraction_of_noDigit scale negative 0 _ (List.length_pos_iff.2 hne).ne' h, zero_sub]

theorem number_zero {rest : Bytes} (h : NoDigit rest) :
    number scale negative (digitByte 0 :: rest) = afterInteger scale negative 0 rest := by
  have hzero : digit? (digitByte 0) = some 0 := by decide
  rw [number.eq_def]
  dsimp only
  rw [hzero]
  cases rest with
  | nil => rfl
  | cons b rest =>
    dsimp only
    rw [h b rfl]
    rfl

/-- A number that starts with a digit other than zero. -/
theorem number_run {ds : List ℕ} (hds : ∀ d ∈ ds, d < 10) (hfirst : ∀ d ∈ ds.head?, d ≠ 0)
    (hne : ds ≠ []) (hlt : extend 10 0 ds < gatherLimit) {rest : Bytes} (h : NoDigit rest) :
    number scale negative (ds.map digitByte ++ rest) =
      afterInteger scale negative (extend 10 0 ds) rest := by
  cases ds with
  | nil => exact absurd rfl hne
  | cons d ds =>
    obtain ⟨hd, hds⟩ := List.forall_mem_cons.1 hds
    have hpos : d ≠ 0 := hfirst d rfl
    rw [extend_cons, Nat.zero_mul, Nat.zero_add] at hlt ⊢
    rw [List.map_cons, List.cons_append, number.eq_def]
    dsimp only
    rw [(digitByte_facts hd).2.1]
    split
    · next hnone => exact absurd hnone (by simp)
    · next hzero => exact absurd (Option.some_inj.1 hzero) hpos
    · next e _ he =>
      rw [← Option.some_inj.1 he, integer_run scale negative hds hlt,
        integer_of_noDigit scale negative _ h]

/-- The part of a number behind its exponent mark. -/
theorem exponent_run (n : ℕ) {start k : ℤ} (hlow : -1000000 ≤ start) (hhigh : start ≤ 1000000)
    (hk : k.natAbs < 1000000) {rest : Bytes} (h : NoDigit rest) :
    exponent scale negative n start (byte (if k < 0 then '-' else '+') ::
      ((Numeral.digits 10 k.natAbs).map digitByte ++ rest)) =
      float scale negative n (start + k) rest := by
  obtain ⟨d, ds, hds⟩ := List.exists_cons_of_ne_nil (Numeral.digits_ne_nil 10 k.natAbs)
  have hvalue := Numeral.extend_digits (by omega : 2 ≤ 10) k.natAbs
  have hall := Numeral.forall_digits_lt k.natAbs
  rw [hds] at hvalue hall
  obtain ⟨hd, hall⟩ := List.forall_mem_cons.1 hall
  rw [extend_cons, Nat.zero_mul, Nat.zero_add] at hvalue
  have hlimit : extend 10 d ds < exponentLimit := by
    rw [hvalue, exponentLimit]
    omega
  have hdigits := exponentDigits_run hall hlimit h
  rw [hvalue] at hdigits
  rw [hds, List.map_cons, List.cons_append]
  by_cases hneg : k < 0
  · have hclamp : clampExponent (start - (k.natAbs : ℕ)) = start + k := by
      rw [clampExponent]
      omega
    rw [if_pos hneg, exponent, if_pos rfl]
    dsimp only
    rw [(digitByte_facts hd).2.1]
    dsimp only
    rw [hdigits]
    dsimp only
    rw [if_pos rfl, hclamp]
  · have hclamp : clampExponent (start + (k.natAbs : ℕ)) = start + k := by
      rw [clampExponent]
      omega
    rw [if_neg hneg, exponent, if_neg (by decide), if_pos rfl]
    dsimp only
    rw [(digitByte_facts hd).2.1]
    dsimp only
    rw [hdigits]
    dsimp only
    rw [if_neg (by decide), hclamp]

/-! ### Texts of decimals -/

theorem float_eq {n : ℕ} {e : ℤ} {y : Binary64} (h : scale n e = some y) (rest : Bytes) :
    float scale negative n e rest = .ok (.float { y with negative := negative }, rest) := by
  rw [float, h]

theorem zeros_lt (k : ℕ) : ∀ d ∈ List.replicate k 0, d < 10 := fun d hd => by
  rw [List.eq_of_mem_replicate hd]
  omega

theorem bytes_zeros (k : ℕ) :
    Utf8.bytes (List.replicate k '0') = (List.replicate k 0).map digitByte := by
  have hzeros : List.replicate k '0' = (List.replicate k 0).map Numeral.lowerDigit := by
    rw [List.map_replicate]
    rfl
  rw [hzeros, bytes_digits (zeros_lt k)]

/-- Digits with a point behind the first one, up to the mark of an exponent. -/
theorem number_mantissa {e : ℕ} {es : List ℕ} (hall : ∀ d ∈ e :: es, d < 10) (he : e ≠ 0)
    (hlt : extend 10 0 (e :: es) < gatherLimit) (bs : Bytes) :
    number scale negative (Utf8.bytes (Numeral.lowerDigit e ::
      if (es.map Numeral.lowerDigit).isEmpty then [] else '.' :: es.map Numeral.lowerDigit) ++
        byte 'e' :: bs) =
      exponent scale negative (extend 10 0 (e :: es)) (-es.length) bs := by
  obtain ⟨hd, hes⟩ := List.forall_mem_cons.1 hall
  have hmark : NoDigit (byte 'e' :: bs) := noDigit_cons (by decide) bs
  have hpoint : ∀ cs, NoDigit (byte '.' :: cs) := noDigit_cons (by decide)
  have hone : ∀ {cs : Bytes}, NoDigit cs → number scale negative (digitByte e :: cs) =
      afterInteger scale negative e cs := by
    intro cs hcs
    have hle : extend 10 0 [e] < gatherLimit := (le_extend _ es).trans_lt hlt
    have hrun := number_run scale negative (by simpa using hd : ∀ d ∈ [e], d < 10)
      (by simpa using he) (List.cons_ne_nil e []) hle hcs
    rwa [extend_cons, Nat.zero_mul, Nat.zero_add] at hrun
  rw [extend_cons, Nat.zero_mul, Nat.zero_add] at hlt ⊢
  rw [Utf8.bytes_cons_of_lt (digitByte_facts hd).1, List.cons_append]
  cases es with
  | nil => exact (hone hmark).trans (afterInteger_e scale negative e bs)
  | cons e' es =>
    rw [List.map_cons, List.isEmpty_cons, if_neg Bool.false_ne_true,
      Utf8.bytes_cons_of_lt (by decide), ← List.map_cons, bytes_digits hes]
    refine (hone (hpoint _)).trans
      ((point_run scale negative hes (List.cons_ne_nil e' es) hlt hmark).trans ?_)
    rw [afterDigits, if_pos (Or.inl rfl)]

section

variable {d : Shortest.Decimal} {ds : List ℕ} (hds : Numeral.digits 10 d.digits = ds)
  (hpos : 0 < d.digits) (hle : d.digits ≤ 10 ^ 18)
include hds hpos hle

/-- What is known of the digits of a decimal. -/
theorem digits_facts : (∀ e ∈ ds, e < 10) ∧ (∀ e ∈ ds.head?, e ≠ 0) ∧ ds ≠ [] ∧
    extend 10 0 ds = d.digits ∧ d.digits < gatherLimit ∧ ds.length ≤ 19 := by
  refine ⟨hds ▸ Numeral.forall_digits_lt _, ?_, hds ▸ Numeral.digits_ne_nil 10 _,
    hds ▸ Numeral.extend_digits (by omega) _, hle.trans_lt (by norm_num [gatherLimit]), ?_⟩
  · obtain ⟨e, es, hes, he⟩ := Numeral.digits_eq_cons hpos
    intro e' he'
    rw [← hds, hes] at he'
    rw [← Option.some_inj.1 he']
    exact he.ne'
  · have hlow := (Numeral.length_digits_bounds hpos).1.trans hle
    rw [hds] at hlow
    have hexp := (Nat.pow_le_pow_iff_right (by omega)).1 hlow
    omega

variable {first : ℤ} (hfirst : d.exponent + ds.length - 1 = first) {rest : Bytes} (h : Ends rest)
include hfirst h

/-- A decimal with an exponent. -/
theorem number_scientific (hfar : first < -5 ∨ 15 < first) (hnear : first.natAbs < 1000000) :
    number scale negative (Utf8.bytes d.text.toList ++ rest) =
      float scale negative d.digits d.exponent rest := by
  obtain ⟨hall, hhead, hne, hvalue, hlt, hlength⟩ := digits_facts hds hpos hle
  rw [Shortest.Decimal.text]
  simp only [Numeral.decimal, String.toList_ofList, hds, List.length_map, hfirst, if_pos hfar]
  obtain ⟨e, es, rfl⟩ := List.exists_cons_of_ne_nil hne
  have htail : Utf8.bytes ('e' :: (if first < 0 then '-' else '+') ::
      (Numeral.digits 10 first.natAbs).map Numeral.lowerDigit) = byte 'e' ::
        byte (if first < 0 then '-' else '+') ::
          (Numeral.digits 10 first.natAbs).map digitByte := by
    rw [Utf8.bytes_cons_of_lt (by decide), Utf8.bytes_cons_of_lt (by split <;> decide),
      bytes_digits (Numeral.forall_digits_lt _)]
  rw [List.length_cons] at hfirst hlength
  rw [Utf8.bytes_append, htail, List.append_assoc, List.cons_append, List.cons_append]
  refine (number_mantissa scale negative hall (hhead e rfl) (hvalue ▸ hlt) _).trans ?_
  rw [exponent_run scale negative _ (by omega) (by omega) hnear h.noDigit, hvalue]
  congr 1
  omega

/-- A decimal before whose first digit there are zeros behind the point. -/
theorem number_small (hlow : -5 ≤ first) (hhigh : first < 0) :
    number scale negative (Utf8.bytes d.text.toList ++ rest) =
      float scale negative d.digits d.exponent rest := by
  obtain ⟨hall, hhead, hne, hvalue, hlt, -⟩ := digits_facts hds hpos hle
  obtain ⟨k, hk⟩ : ∃ k, (-first - 1).toNat = k := ⟨_, rfl⟩
  rw [Shortest.Decimal.text]
  simp only [Numeral.decimal, String.toList_ofList, hds, List.length_map, hfirst,
    if_neg (not_or.2 ⟨hlow.not_gt, (by omega : ¬15 < first)⟩), if_pos hhigh, hk]
  have hall' : ∀ e ∈ List.replicate k 0 ++ ds, e < 10 :=
    List.forall_mem_append.2 ⟨zeros_lt k, hall⟩
  have hvalue' : extend 10 0 (List.replicate k 0 ++ ds) = d.digits := by
    rw [Numeral.extend_append, Numeral.extend_zeros, Nat.zero_mul, hvalue]
  have hbytes : Utf8.bytes ('0' :: '.' :: List.replicate k '0' ++ ds.map Numeral.lowerDigit) =
      digitByte 0 :: byte '.' :: (List.replicate k 0 ++ ds).map digitByte := by
    rw [List.cons_append, List.cons_append, Utf8.bytes_cons_of_lt (by decide),
      Utf8.bytes_cons_of_lt (by decide), Utf8.bytes_append, bytes_zeros, bytes_digits hall,
      List.map_append]
    rfl
  rw [hbytes, List.cons_append, List.cons_append,
    number_zero scale negative (noDigit_cons (by decide) _),
    point_run scale negative hall' (List.append_ne_nil_of_right_ne_nil _ hne) (hvalue' ▸ hlt)
      h.noDigit, hvalue', afterDigits_of_ends scale negative _ _ h]
  congr 1
  rw [List.length_append, List.length_replicate]
  omega

/-- A decimal that is an integer and is written as one, with a zero behind the point. -/
theorem number_large (hlow : 0 ≤ d.exponent) (hhigh : first ≤ 15) :
    number scale negative (Utf8.bytes d.text.toList ++ rest) =
      float scale negative (d.digits * 10 ^ d.exponent.toNat * 10) (-1) rest := by
  obtain ⟨hall, hhead, hne, hvalue, -⟩ := digits_facts hds hpos hle
  obtain ⟨k, hk⟩ : ∃ k, d.exponent.toNat = k := ⟨_, rfl⟩
  have hlength : 0 < ds.length := List.length_pos_iff.2 hne
  rw [Shortest.Decimal.text]
  simp only [Numeral.decimal, String.toList_ofList, hds, List.length_map, hfirst,
    if_neg (not_or.2 ⟨(by omega : ¬first < -5), hhigh.not_gt⟩), if_neg (by omega : ¬first < 0),
    if_pos hlow, hk]
  have hall' : ∀ e ∈ ds ++ List.replicate k 0, e < 10 :=
    List.forall_mem_append.2 ⟨hall, zeros_lt k⟩
  have hhead' : ∀ e ∈ (ds ++ List.replicate k 0).head?, e ≠ 0 := by
    rwa [List.head?_append_of_ne_nil _ hne]
  have hvalue' : extend 10 0 (ds ++ List.replicate k 0) = d.digits * 10 ^ k := by
    rw [Numeral.extend_append, hvalue, Numeral.extend_zeros]
  -- the digits in front of the point are at most sixteen
  have hsmall : d.digits * 10 ^ k < 10 ^ 16 := by
    have hdigits : d.digits < 10 ^ ds.length := hds ▸ (Numeral.length_digits_bounds hpos).2
    calc d.digits * 10 ^ k < 10 ^ ds.length * 10 ^ k :=
          Nat.mul_lt_mul_of_pos_right hdigits (Nat.pow_pos (by omega))
      _ = 10 ^ (ds.length + k) := (pow_add 10 _ _).symm
      _ ≤ 10 ^ 16 := Nat.pow_le_pow_right (by omega) (by omega)
  have hlt : d.digits * 10 ^ k * 10 < gatherLimit :=
    (Nat.mul_lt_mul_of_pos_right hsmall (by omega)).trans (by norm_num [gatherLimit])
  have hbytes : Utf8.bytes (ds.map Numeral.lowerDigit ++ List.replicate k '0' ++ ['.', '0']) =
      (ds ++ List.replicate k 0).map digitByte ++ [byte '.', digitByte 0] := by
    rw [Utf8.bytes_append, Utf8.bytes_append, bytes_digits hall, bytes_zeros, List.map_append]
    rfl
  rw [hbytes, List.append_assoc, List.cons_append, List.cons_append, List.nil_append,
    number_run scale negative hall' hhead' (List.append_ne_nil_of_left_ne_nil hne _) (by omega)
      (noDigit_cons (by decide) _), hvalue']
  refine (point_run scale negative (by simp : ∀ e ∈ [0], e < 10) (List.cons_ne_nil 0 []) hlt
    h.noDigit).trans ?_
  rw [afterDigits_of_ends scale negative _ _ h]
  rfl

/-- A decimal with the point among its digits. -/
theorem number_middle (hlow : d.exponent < 0) (hpoint : 0 ≤ first) (hhigh : first ≤ 15) :
    number scale negative (Utf8.bytes d.text.toList ++ rest) =
      float scale negative d.digits d.exponent rest := by
  obtain ⟨hall, hhead, hne, hvalue, hlt, -⟩ := digits_facts hds hpos hle
  obtain ⟨k, hk⟩ : ∃ k, (first + 1).toNat = k := ⟨_, rfl⟩
  rw [Shortest.Decimal.text]
  simp only [Numeral.decimal, String.toList_ofList, hds, List.length_map, hfirst,
    if_neg (not_or.2 ⟨(by omega : ¬first < -5), hhigh.not_gt⟩), if_neg hpoint.not_gt,
    if_neg hlow.not_ge, hk]
  have hcut : extend 10 (extend 10 0 (ds.take k)) (ds.drop k) = d.digits := by
    rw [← Numeral.extend_append, List.take_append_drop, hvalue]
  have htake : ∀ e ∈ ds.take k, e < 10 := fun e he => hall e (List.mem_of_mem_take he)
  have hdrop : ∀ e ∈ ds.drop k, e < 10 := fun e he => hall e (List.mem_of_mem_drop he)
  have hhead' : ∀ e ∈ (ds.take k).head?, e ≠ 0 := by
    rwa [List.head?_take, if_neg (by omega)]
  have hne' : ds.take k ≠ [] := by
    rw [Ne, List.take_eq_nil_iff]
    exact not_or.2 ⟨by omega, hne⟩
  have hdrop' : ds.drop k ≠ [] := by
    rw [Ne, List.drop_eq_nil_iff]
    omega
  have hlt' : extend 10 0 (ds.take k) < gatherLimit := by
    refine (le_extend _ (ds.drop k)).trans_lt ?_
    rwa [hcut]
  have hbytes : Utf8.bytes ((ds.map Numeral.lowerDigit).take k ++
      '.' :: (ds.map Numeral.lowerDigit).drop k) =
        (ds.take k).map digitByte ++ byte '.' :: (ds.drop k).map digitByte := by
    rw [Utf8.bytes_append, Utf8.bytes_cons_of_lt (by decide), ← List.map_take, ← List.map_drop,
      bytes_digits htake, bytes_digits hdrop]
  rw [hbytes, List.append_assoc, List.cons_append,
    number_run scale negative htake hhead' hne' hlt' (noDigit_cons (by decide) _),
    point_run scale negative hdrop hdrop' (hcut ▸ hlt) h.noDigit, hcut,
    afterDigits_of_ends scale negative _ _ h]
  congr 1
  rw [List.length_drop]
  omega

end

/-- The text of a decimal is read as a number made of digits and a power that have its value. -/
theorem number_text {d : Shortest.Decimal} (hpos : 0 < d.digits) (hle : d.digits ≤ 10 ^ 18)
    (hlow : -400 ≤ d.exponent) (hhigh : d.exponent ≤ 400) {rest : Bytes} (h : Ends rest) :
    ∃ (n : ℕ) (e : ℤ), (n : ℚ) * 10 ^ e = d.value ∧
      number scale negative (Utf8.bytes d.text.toList ++ rest) = float scale negative n e rest := by
  obtain ⟨ds, hds⟩ : ∃ ds, Numeral.digits 10 d.digits = ds := ⟨_, rfl⟩
  obtain ⟨-, -, hne, -, -, hlength⟩ := digits_facts hds hpos hle
  have hlength' : 0 < ds.length := List.length_pos_iff.2 hne
  obtain ⟨first, hfirst⟩ : ∃ first, d.exponent + ds.length - 1 = first := ⟨_, rfl⟩
  by_cases hfar : first < -5 ∨ 15 < first
  · exact ⟨_, _, rfl, number_scientific scale negative hds hpos hle hfirst h hfar (by omega)⟩
  obtain ⟨hnear, hnear'⟩ := not_or.1 hfar
  by_cases hneg : first < 0
  · exact ⟨_, _, rfl, number_small scale negative hds hpos hle hfirst h (by omega) hneg⟩
  by_cases hinteger : 0 ≤ d.exponent
  · refine ⟨_, _, ?_, number_large scale negative hds hpos hle hfirst h hinteger (by omega)⟩
    have hpower : (10 : ℚ) ^ d.exponent.toNat = 10 ^ d.exponent := by
      rw [← zpow_natCast, Int.toNat_of_nonneg hinteger]
    rw [Shortest.Decimal.value]
    push_cast
    rw [hpower, zpow_neg_one, mul_assoc, mul_inv_cancel₀ (by norm_num), mul_one]
  · exact ⟨_, _, rfl,
      number_middle scale negative hds hpos hle hfirst h (by omega) (by omega) (by omega)⟩

/-! ### Numbers -/

/-- The numeral of a number that fits 64 bits. -/
theorem number_decimal {n : ℕ} (hlt : n < gatherLimit) {rest : Bytes} (h : Ends rest) :
    number scale negative (Utf8.bytes (Numeral.decimal n).toList ++ rest) =
      plain scale negative n rest := by
  rw [Numeral.decimal, String.toList_ofList, bytes_digits (Numeral.forall_digits_lt n),
    ← afterInteger_of_ends scale negative n h]
  rcases Nat.eq_zero_or_pos n with rfl | hpos
  · rw [Numeral.digits_of_lt (by omega)]
    exact number_zero scale negative h.noDigit
  · obtain ⟨d, ds, hds, hd⟩ := Numeral.digits_eq_cons hpos
    have hvalue := Numeral.extend_digits (by omega : 2 ≤ 10) n
    have hrun := number_run scale negative (Numeral.forall_digits_lt n)
      (by rw [hds]; simpa using hd.ne') (Numeral.digits_ne_nil 10 n) (by rwa [hvalue]) h.noDigit
    rwa [hvalue] at hrun

/-- What is read as a number starts with a digit. -/
theorem digit_of_number {bs : Bytes} {r : Json × Bytes} (h : number scale negative bs = .ok r) :
    ∃ b rest, bs = b :: rest ∧ (digit? b).isSome = true := by
  cases bs with
  | nil => exact absurd h (by simp [number.eq_def, stop])
  | cons b rest =>
    refine ⟨b, rest, rfl, ?_⟩
    rw [number.eq_def] at h
    dsimp only at h
    cases hb : digit? b with
    | none =>
      rw [hb] at h
      exact absurd h (by simp [stop])
    | some d => rfl

/-- Every way to write the value of the decimal of a number makes the number. -/
def Makes (x : Binary64) : Prop :=
  ∀ (n : ℕ) (e : ℤ), (n : ℚ) * 10 ^ e = (if x.isZero then 0 else (Shortest.decimal x).value) →
    scale n e = some { x with negative := false }

/-- **The text of a number is read as the number**, behind its sign. -/
theorem number_shortest {x : Binary64} (hx : x.IsCanonical) (hmakes : Makes scale x) {rest : Bytes}
    (h : Ends rest) : number scale x.negative
      (Utf8.bytes (if x.isZero then "0.0" else (Shortest.decimal x).text).toList ++ rest) =
        .ok (.float x, rest) := by
  rw [Makes] at hmakes
  by_cases hzero : x.isZero = true
  · rw [if_pos hzero] at hmakes
    have hbytes : Utf8.bytes "0.0".toList = [digitByte 0, byte '.', digitByte 0] := by decide
    rw [if_pos hzero, hbytes]
    refine (number_zero scale x.negative (noDigit_cons (by decide) _)).trans
      ((point_run scale x.negative (by simp : ∀ e ∈ [0], e < 10) (List.cons_ne_nil 0 [])
        (by decide) h.noDigit).trans ?_)
    rw [afterDigits_of_ends scale x.negative _ _ h,
      float_eq scale x.negative (hmakes _ _ (by norm_num [extend]))]
  · rw [if_neg hzero] at hmakes ⊢
    have hm := Binary64.mantissa_pos hzero
    obtain ⟨-, hpos, hle, hlow, hhigh⟩ := Shortest.isFor_decimal hx hm
    obtain ⟨n, e, hvalue, hread⟩ := number_text scale x.negative hpos hle hlow hhigh h
    rw [hread, float_eq scale x.negative (hmakes n e hvalue)]

end Json.Reader

/-! ### The nearest number -/

/-- The number nearest to a decimal. -/
def Binary64.ofDecimal? (n : ℕ) (e : ℤ) : Option Binary64 :=
  ofRatio? false (n * Nat.pow 10 e.toNat) (Nat.pow 10 (-e).toNat)

/-- The nearest number to the decimal of a number is the number. -/
theorem Json.Reader.makes_ofDecimal? {x : Binary64} (hx : x.IsCanonical) :
    Makes Binary64.ofDecimal? x := by
  intro n e hvalue
  have hratio : ((n * Nat.pow 10 e.toNat : ℕ) : ℚ) / (Nat.pow 10 (-e).toNat : ℕ) = n * 10 ^ e := by
    rw [zpow_eq_div (by norm_num) e]
    push_cast [cast_pow]
    exact mul_div_assoc _ _ _
  rw [Binary64.ofDecimal?]
  by_cases hzero : x.isZero = true
  · have hm : x.mantissa = 0 := by simpa [Binary64.isZero] using hzero
    rw [if_pos hzero] at hvalue
    have hn : n = 0 := by
      have hpow := (Shortest.ten_zpow_pos e).ne'
      exact_mod_cast (mul_eq_zero.1 hvalue).resolve_right hpow
    have hmin : x.exponent = Binary64.minExponent :=
      hx.normal.resolve_left (by rw [hm]; decide)
    rw [hn, Nat.zero_mul, Binary64.ofRatio?, if_pos rfl, Binary64.zero, hm, hmin]
  · have hm := Binary64.mantissa_pos hzero
    rw [if_neg hzero] at hvalue
    refine Binary64.ofRatio?_eq_some hx hm (Nat.pow_pos (by omega)) ?_
    rw [hratio, hvalue]
    exact (Shortest.isFor_decimal hx hm).near

end Strongbox
