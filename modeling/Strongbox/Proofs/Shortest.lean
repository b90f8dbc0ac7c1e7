/-
The decimal of a number is one that is rounded to the number.

The decimals near a number are those in its interval.  A grid whose step is less than half the last
binary digit of the number has a point in the upper half of the interval.  A mantissa has 53 bits
and 2^54 is less than 10^17, so the search comes to such a grid seventeen places behind the first
digit at the latest, and until then it takes nothing that is not in the interval.

* `holds_iff` — the interval holds the decimals near the number;
* `leading_spec` — the place of the first digit;
* `exists_point`, `point?_spec` — the points of a grid;
* `search_spec`, `trimZeros_spec` — what the search finds, and that zeros at its end do not count;
* `isFor_decimal` — the decimal of a number is near it, and has at most 19 digits.
-/
import Strongbox.Proofs.Numerals
import Strongbox.Proofs.Rounding

namespace Strongbox

/-! ### Lengths of numerals -/

/-- The number of digits tells between which powers a number lies. -/
theorem Numeral.length_digits_bounds {n : ℕ} (hn : 0 < n) :
    10 ^ ((digits 10 n).length - 1) ≤ n ∧ n < 10 ^ (digits 10 n).length := by
  induction n using Nat.strongRecOn with
  | ind n ih =>
    by_cases hlt : n < 10
    · rw [digits_of_lt hlt]
      simpa using ⟨hn, hlt⟩
    · obtain ⟨hlow, hhigh⟩ := ih (n / 10) (by omega) (by omega)
      have hlength : 0 < (digits 10 (n / 10)).length :=
        List.length_pos_iff.2 (digits_ne_nil 10 (n / 10))
      obtain ⟨l, hl⟩ : ∃ l, (digits 10 (n / 10)).length = l + 1 :=
        Nat.exists_eq_succ_of_ne_zero hlength.ne'
      rw [digits_of_le (by omega) (by omega), List.length_append, List.length_singleton, hl]
      rw [hl] at hlow hhigh
      simp only [Nat.add_sub_cancel, pow_succ] at hlow hhigh ⊢
      omega

namespace Shortest

open Binary64 (two_zpow_pos)

theorem ten_zpow_pos (p : ℤ) : (0 : ℚ) < 10 ^ p := zpow_pos (by norm_num) p

theorem ten_zpow_succ (p : ℤ) : (10 : ℚ) ^ (p + 1) = 10 ^ p * 10 := zpow_add_one₀ (by norm_num) p

/-- The value that a decimal stands for. -/
def Decimal.value (d : Decimal) : ℚ := d.digits * 10 ^ d.exponent

variable {x : Binary64}

/-- The magnitude of a number. -/
def magnitude (x : Binary64) : ℚ := x.mantissa * 2 ^ x.exponent

/-! ### The interval -/

/-- A decimal in quarters of the last binary digit of a number, as a fraction. -/
theorem quarters_eq (c : ℕ) (p k : ℤ) :
    4 * ((c : ℚ) * 10 ^ p / 2 ^ k) =
      ((c * Nat.pow 10 p.toNat * (4 * Nat.pow 2 (-k).toNat) : ℕ) : ℚ) /
        ((Nat.pow 2 k.toNat * Nat.pow 10 (-p).toNat : ℕ) : ℚ) := by
  rw [zpow_eq_div (by norm_num) p, zpow_eq_div (by norm_num) k]
  push_cast [cast_pow]
  field_simp

theorem le_quarters_iff (a c : ℕ) (p k : ℤ) :
    a * Nat.pow 2 k.toNat * Nat.pow 10 (-p).toNat ≤
        c * Nat.pow 10 p.toNat * (4 * Nat.pow 2 (-k).toNat) ↔
      (a : ℚ) ≤ 4 * ((c : ℚ) * 10 ^ p / 2 ^ k) := by
  have hpos : 0 < Nat.pow 2 k.toNat * Nat.pow 10 (-p).toNat :=
    Nat.mul_pos (Nat.pow_pos (by omega)) (Nat.pow_pos (by omega))
  rw [quarters_eq, le_div_iff₀ (by exact_mod_cast hpos), Nat.mul_assoc]
  exact_mod_cast Iff.rfl

theorem quarters_le_iff (a c : ℕ) (p k : ℤ) :
    c * Nat.pow 10 p.toNat * (4 * Nat.pow 2 (-k).toNat) ≤
        a * Nat.pow 2 k.toNat * Nat.pow 10 (-p).toNat ↔
      4 * ((c : ℚ) * 10 ^ p / 2 ^ k) ≤ a := by
  have hpos : 0 < Nat.pow 2 k.toNat * Nat.pow 10 (-p).toNat :=
    Nat.mul_pos (Nat.pow_pos (by omega)) (Nat.pow_pos (by omega))
  rw [quarters_eq, div_le_iff₀ (by exact_mod_cast hpos), Nat.mul_assoc a]
  exact_mod_cast Iff.rfl

/-- The interval holds the decimals near the number. -/
theorem holds_iff (hm : 0 < x.mantissa) (c : ℕ) (p : ℤ) :
    (interval x).holds c p = true ↔ x.Near (c * 10 ^ p) := by
  have hgap := x.gap_le
  have hcast : ((4 * x.mantissa - x.gap : ℕ) : ℚ) = 4 * x.mantissa - x.gap := by
    rw [Nat.cast_sub (by omega)]
    push_cast
    rfl
  have hlow := le_quarters_iff (4 * x.mantissa - x.gap) c p x.exponent
  have hlow' := quarters_le_iff (4 * x.mantissa - x.gap) c p x.exponent
  have hhigh := quarters_le_iff (4 * x.mantissa + 2) c p x.exponent
  have hhigh' := le_quarters_iff (4 * x.mantissa + 2) c p x.exponent
  rw [hcast] at hlow hlow'
  push_cast at hhigh hhigh'
  have hinterval : (interval x).low = (4 * x.mantissa - x.gap) * Nat.pow 2 x.exponent.toNat := rfl
  rw [Interval.holds, hinterval, interval]
  dsimp only
  rcases Nat.mod_two_eq_zero_or_one x.mantissa with heven | hodd
  · rw [if_pos (by simpa using heven), Bool.and_eq_true, decide_eq_true_eq, decide_eq_true_eq, hlow,
      hhigh]
    exact ⟨fun h => ⟨h.1, h.2, fun hodd => by omega⟩, fun h => ⟨h.low, h.high⟩⟩
  · rw [if_neg (by simpa using hodd), Bool.and_eq_true, decide_eq_true_eq, decide_eq_true_eq,
      ← not_le, hlow', ← not_le, hhigh', not_le, not_le]
    exact ⟨fun h => ⟨h.1.le, h.2.le, fun _ => h⟩, fun h => h.strict hodd⟩

/-! ### The place of the first digit -/

/-- The place of the first digit of a fraction that is not too small. -/
theorem leading_spec {num den : ℕ} (hden : 0 < den) (hlarge : den ≤ num * Nat.pow 10 340) :
    (10 : ℚ) ^ leading num den ≤ (num : ℚ) / den ∧
      (num : ℚ) / den < 10 ^ (leading num den + 1) := by
  have hdenq : (0 : ℚ) < den := by exact_mod_cast hden
  rw [leading]
  -- the power is not to be computed
  generalize hk : 340 = k at hlarge ⊢
  generalize hs : Nat.pow 10 k = s at hlarge ⊢
  have hsq : (10 : ℚ) ^ (k : ℤ) = s := by rw [← hs, cast_pow, zpow_natCast, Nat.cast_ofNat]
  have hspos : (0 : ℚ) < s := hsq ▸ ten_zpow_pos _
  obtain ⟨t, ht⟩ : ∃ t, num * s / den = t := ⟨_, rfl⟩
  have htpos : 0 < t := ht ▸ Nat.div_pos hlarge hden
  obtain ⟨hlow, hhigh⟩ := Numeral.length_digits_bounds htpos
  have hlength : 0 < (Numeral.digits 10 t).length :=
    List.length_pos_iff.2 (Numeral.digits_ne_nil 10 t)
  obtain ⟨l, hl⟩ : ∃ l, (Numeral.digits 10 t).length = l + 1 :=
    Nat.exists_eq_succ_of_ne_zero hlength.ne'
  have hplace : ((l + 1 : ℕ) : ℤ) - 341 = (l : ℤ) - k := by omega
  have hnext : (l : ℤ) - k + 1 = ((l + 1 : ℕ) : ℤ) - k := by omega
  rw [ht, hl, hplace]
  rw [hl] at hlow hhigh
  -- the quotient lies between powers, and the fraction is as much of it as its places say
  have hfloor : t * den ≤ num * s := ht ▸ Nat.div_mul_le_self _ _
  have hceil : num * s < (t + 1) * den := by
    rw [← Nat.div_lt_iff_lt_mul hden, ht]
    exact Nat.lt_succ_self t
  constructor
  · have h : 10 ^ l * den ≤ num * s := (Nat.mul_le_mul_right den hlow).trans hfloor
    rw [zpow_sub₀ (by norm_num), zpow_natCast, hsq, div_le_div_iff₀ hspos hdenq]
    exact_mod_cast h
  · have h : num * s < 10 ^ (l + 1) * den := hceil.trans_le (Nat.mul_le_mul_right den hhigh)
    rw [hnext, zpow_sub₀ (by norm_num), zpow_natCast, hsq, div_lt_div_iff₀ hdenq hspos]
    exact_mod_cast h

/-! ### The points of a grid -/

theorem ratio_mid (x : Binary64) :
    ((interval x).mid : ℚ) / (interval x).den = magnitude x := by
  rw [magnitude, zpow_eq_div (by norm_num), interval]
  push_cast [cast_pow]
  field_simp

theorem den_pos (x : Binary64) : 0 < (interval x).den :=
  Nat.mul_pos (by omega) (Nat.pow_pos (by omega))

/-- The last point of a grid that is not above the number, and the next one. -/
theorem floor_spec (x : Binary64) (p : ℤ) {c : ℕ}
    (hc : (interval x).mid * Nat.pow 10 (-p).toNat / ((interval x).den * Nat.pow 10 p.toNat) = c) :
    (c : ℚ) * 10 ^ p ≤ magnitude x ∧ magnitude x < (c + 1) * 10 ^ p := by
  have hpow := ten_zpow_pos p
  have hden : 0 < (interval x).den * Nat.pow 10 p.toNat :=
    Nat.mul_pos (den_pos x) (Nat.pow_pos (by omega))
  have hdenq : (0 : ℚ) < ((interval x).den * Nat.pow 10 p.toNat : ℕ) := by exact_mod_cast hden
  have hratio : magnitude x / 10 ^ p = ((interval x).mid * Nat.pow 10 (-p).toNat : ℕ) /
      ((interval x).den * Nat.pow 10 p.toNat : ℕ) := by
    rw [← ratio_mid, zpow_eq_div (by norm_num) p]
    push_cast [cast_pow]
    field_simp
  rw [← le_div_iff₀ hpow, ← div_lt_iff₀ hpow, hratio, le_div_iff₀ hdenq, div_lt_iff₀ hdenq]
  constructor
  · exact_mod_cast hc ▸ Nat.div_mul_le_self _ _
  · have h := Nat.lt_succ_self c
    rw [← hc, Nat.div_lt_iff_lt_mul hden, hc] at h
    exact_mod_cast h

section

variable (hm : 0 < x.mantissa) {p : ℤ}
include hm

/-- A point of a grid that is taken. -/
theorem point?_spec {c : ℕ} (h : (interval x).point? p = some c) :
    x.Near (c * 10 ^ p) ∧ 0 < c ∧ (c : ℚ) * 10 ^ p ≤ magnitude x + 10 ^ p := by
  have hpow := ten_zpow_pos p
  rw [← holds_iff hm]
  rw [Interval.point?] at h
  generalize hc : (interval x).mid * Nat.pow 10 (-p).toNat /
    ((interval x).den * Nat.pow 10 p.toNat) = c₀ at h
  obtain ⟨hlow, -⟩ := floor_spec x p hc
  -- the point is the last one below the number, if that is not zero, or the next one
  have hcases : (c = c₀ ∧ (interval x).holds c₀ p = true ∧ 0 < c₀) ∨
      (c = c₀ + 1 ∧ (interval x).holds (c₀ + 1) p = true) := by
    split at h
    · next hfirst hsecond =>
      rw [Bool.and_eq_true, bne_iff_ne] at hfirst
      have hchoice := Option.some_inj.1 h
      split at hchoice
      · exact Or.inl ⟨hchoice.symm, hfirst.1, Nat.pos_of_ne_zero hfirst.2⟩
      · exact Or.inr ⟨hchoice.symm, hsecond⟩
    · next hfirst _ =>
      rw [Bool.and_eq_true, bne_iff_ne] at hfirst
      exact Or.inl ⟨(Option.some_inj.1 h).symm, hfirst.1, Nat.pos_of_ne_zero hfirst.2⟩
    · next _ hsecond => exact Or.inr ⟨(Option.some_inj.1 h).symm, hsecond⟩
    · exact absurd h (by simp)
  rcases hcases with ⟨rfl, hholds, hpos⟩ | ⟨rfl, hholds⟩
  · exact ⟨hholds, hpos, by linarith⟩
  · refine ⟨hholds, Nat.succ_pos _, ?_⟩
    push_cast
    linarith

/-- A grid whose step is less than half the last binary digit has a point in the interval. -/
theorem exists_point (hstep : 2 * 10 ^ p < (2 : ℚ) ^ x.exponent) :
    ∃ c, (interval x).point? p = some c := by
  rw [Interval.point?]
  generalize hc : (interval x).mid * Nat.pow 10 (-p).toNat /
    ((interval x).den * Nat.pow 10 p.toNat) = c₀
  obtain ⟨hlow, hhigh⟩ := floor_spec x p hc
  have htwo := two_zpow_pos x.exponent
  -- the point above the number is less than half a digit away
  have hnext : (interval x).holds (c₀ + 1) p = true := by
    rw [holds_iff hm]
    obtain ⟨w, hw⟩ : ∃ w, ((c₀ + 1 : ℕ) : ℚ) * 10 ^ p / 2 ^ x.exponent = w := ⟨_, rfl⟩
    have hgap : (0 : ℚ) ≤ x.gap := Nat.cast_nonneg _
    have habove : (x.mantissa : ℚ) < w := by
      rw [← hw, lt_div_iff₀ htwo]
      push_cast
      exact hhigh
    have hbelow : w < x.mantissa + 1 / 2 := by
      rw [← hw, div_lt_iff₀ htwo]
      push_cast
      rw [magnitude] at hlow
      linarith
    exact ⟨by rw [hw]; linarith, by rw [hw]; linarith,
      fun _ => by rw [hw]; exact ⟨by linarith, by linarith⟩⟩
  rw [hnext]
  cases (interval x).holds c₀ p && c₀ != 0 with
  | true => exact ⟨_, rfl⟩
  | false => exact ⟨_, rfl⟩

/-- The search finds a point of the interval, if it comes to a grid that is fine enough. -/
theorem search_spec {n : ℕ} (hfine : ∃ j : ℕ, j < n ∧ 2 * 10 ^ (p - j) < (2 : ℚ) ^ x.exponent)
    {d : Decimal} (hd : (interval x).search n p = d) :
    x.Near d.value ∧ 0 < d.digits ∧ d.value ≤ magnitude x + 10 ^ d.exponent ∧
      p - n < d.exponent ∧ d.exponent ≤ p := by
  induction n generalizing p with
  | zero =>
    obtain ⟨j, hj, -⟩ := hfine
    exact absurd hj (Nat.not_lt_zero j)
  | succ n ih =>
    rw [Interval.search] at hd
    cases hpoint : (interval x).point? p with
    | some c =>
      rw [hpoint] at hd
      subst hd
      obtain ⟨hnear, hpos, hle⟩ := point?_spec hm hpoint
      refine ⟨hnear, hpos, hle, ?_, le_refl p⟩
      dsimp only
      omega
    | none =>
      rw [hpoint] at hd
      obtain ⟨j, hj, hstep⟩ := hfine
      have hrest : ∃ i : ℕ, i < n ∧ 2 * 10 ^ (p - 1 - i) < (2 : ℚ) ^ x.exponent := by
        rcases Nat.eq_zero_or_pos j with rfl | hj'
        · rw [Nat.cast_zero, sub_zero] at hstep
          obtain ⟨c, hc⟩ := exists_point hm hstep
          simp [hpoint] at hc
        · refine ⟨j - 1, by omega, ?_⟩
          convert hstep using 3
          omega
      obtain ⟨hnear, hpos, hle, hlow, hhigh⟩ := ih hrest hd
      exact ⟨hnear, hpos, hle, by omega, by omega⟩

end

/-- Zeros at the end of the digits do not count. -/
theorem trimZeros_spec (n : ℕ) (d : Decimal) (hpos : 0 < d.digits) :
    (d.trimZeros n).value = d.value ∧ 0 < (d.trimZeros n).digits ∧
      (d.trimZeros n).digits ≤ d.digits ∧ d.exponent ≤ (d.trimZeros n).exponent ∧
      (d.trimZeros n).exponent ≤ d.exponent + n := by
  induction n generalizing d with
  | zero =>
    rw [Decimal.trimZeros]
    exact ⟨rfl, hpos, le_refl _, le_refl _, by omega⟩
  | succ n ih =>
    rw [Decimal.trimZeros]
    split
    · next hzero =>
      obtain ⟨hvalue, hdigits, hle, hlow, hhigh⟩ := ih ⟨d.digits / 10, d.exponent + 1⟩ (by
        dsimp only
        omega)
      dsimp only at hle hlow hhigh
      refine ⟨hvalue.trans ?_, hdigits, by omega, by omega, by push_cast; omega⟩
      have hten : d.digits = d.digits / 10 * 10 := by omega
      rw [Decimal.value, Decimal.value, ten_zpow_succ]
      conv_rhs => rw [hten]
      push_cast
      linarith
    · exact ⟨rfl, hpos, le_refl _, le_refl _, by push_cast; omega⟩

/-! ### The decimal of a number -/

/-- The decimal is near the number, has at most 19 digits, and its exponent is not far from zero. -/
structure Decimal.IsFor (d : Decimal) (x : Binary64) : Prop where
  near : x.Near d.value
  pos : 0 < d.digits
  le : d.digits ≤ 10 ^ 18
  low : -400 ≤ d.exponent
  high : d.exponent ≤ 400

theorem two_pow_le_ten_pow (n : ℕ) : 2 ^ (13 * n) ≤ 10 ^ (4 * n) := by
  rw [pow_mul, pow_mul]
  exact Nat.pow_le_pow_left (by norm_num) n

theorem low_leading (num den : ℕ) : -340 ≤ leading num den := by
  have hlength : 0 < (Numeral.digits 10 (num * Nat.pow 10 340 / den)).length :=
    List.length_pos_iff.2 (Numeral.digits_ne_nil 10 _)
  rw [leading]
  generalize (Numeral.digits 10 (num * Nat.pow 10 340 / den)).length = l at hlength ⊢
  omega

/-- Seventeen places behind the first digit of a number the grid is fine enough. -/
theorem fine_grid (hx : x.IsCanonical) {p : ℤ} (hfirst : (10 : ℚ) ^ p ≤ magnitude x) :
    2 * 10 ^ (p - 17) < (2 : ℚ) ^ x.exponent := by
  have htwo := two_zpow_pos x.exponent
  have hmant : (x.mantissa : ℚ) ≤ 2 * Binary64.leastNormal := by
    exact_mod_cast hx.mantissa_lt.le
  have hten : (10 : ℚ) ^ p = 10 ^ (p - 17) * 10 ^ 17 := by
    rw [← zpow_natCast, ← zpow_add₀ (by norm_num)]
    congr 1
    omega
  have hmag : 10 ^ (p - 17) * 10 ^ 17 ≤ 2 * (Binary64.leastNormal : ℚ) * 2 ^ x.exponent := by
    rw [← hten]
    exact hfirst.trans (mul_le_mul_of_nonneg_right hmant htwo.le)
  norm_num [Binary64.leastNormal] at hmag ⊢
  linarith

section

variable (hx : x.IsCanonical) (hm : 0 < x.mantissa)
include hx hm

theorem den_le_mid : (interval x).den ≤ (interval x).mid * Nat.pow 10 340 := by
  -- the powers are compared without computing them
  generalize hk : 340 = k
  obtain ⟨n, hn⟩ : ∃ n, k = 4 * n := ⟨85, hk.symm⟩
  have hmin : (-x.exponent).toNat ≤ 13 * n := by
    have := hx.min_le
    rw [Binary64.minExponent] at this
    omega
  have hmid : 4 ≤ (interval x).mid := by
    have hpow : 0 < Nat.pow 2 x.exponent.toNat := Nat.pow_pos (by omega)
    calc 4 = 4 * 1 * 1 := rfl
      _ ≤ 4 * x.mantissa * Nat.pow 2 x.exponent.toNat :=
        Nat.mul_le_mul (Nat.mul_le_mul_left 4 hm) hpow
  calc (interval x).den = 4 * 2 ^ (-x.exponent).toNat := rfl
    _ ≤ 4 * 2 ^ (13 * n) := Nat.mul_le_mul_left 4 (Nat.pow_le_pow_right (by omega) hmin)
    _ ≤ 4 * 10 ^ (4 * n) := Nat.mul_le_mul_left 4 (two_pow_le_ten_pow n)
    _ ≤ (interval x).mid * Nat.pow 10 k := by
      rw [hn]
      exact Nat.mul_le_mul_right _ hmid

/-- The place of the first digit of a number is not far from the point. -/
theorem high_leading : leading (interval x).mid (interval x).den ≤ 344 := by
  obtain ⟨hlow, -⟩ := leading_spec (den_pos x) (den_le_mid hx hm)
  rw [ratio_mid] at hlow
  generalize leading (interval x).mid (interval x).den = p at hlow ⊢
  obtain ⟨n, hn⟩ : ∃ n : ℕ, 86 = n := ⟨_, rfl⟩
  by_contra hhigh
  have hmant : (x.mantissa : ℚ) < 2 * Binary64.leastNormal := by exact_mod_cast hx.mantissa_lt
  have hmax := hx.le_max
  rw [Binary64.maxExponent] at hmax
  have hbig : magnitude x < 10 ^ p :=
    calc magnitude x < 2 * Binary64.leastNormal * 2 ^ x.exponent :=
          mul_lt_mul_of_pos_right hmant (two_zpow_pos _)
      _ = 2 ^ (x.exponent + 53) := (Binary64.two_zpow_add_53 _).symm
      _ ≤ 2 ^ ((13 * n : ℕ) : ℤ) := Binary64.two_zpow_le (by omega)
      _ ≤ 10 ^ ((4 * n : ℕ) : ℤ) := by
          rw [zpow_natCast, zpow_natCast]
          exact_mod_cast two_pow_le_ten_pow n
      _ ≤ 10 ^ p := zpow_le_zpow_right₀ (by norm_num) (by omega)
  exact absurd hlow (not_le.2 hbig)

/-- **The decimal of a number is near the number.** -/
theorem isFor_decimal : (decimal x).IsFor x := by
  obtain ⟨hfirst, hnext⟩ := leading_spec (den_pos x) (den_le_mid hx hm)
  rw [ratio_mid] at hfirst hnext
  have hplow := low_leading (interval x).mid (interval x).den
  have hphigh := high_leading hx hm
  rw [decimal]
  generalize leading (interval x).mid (interval x).den = p at hfirst hnext hplow hphigh ⊢
  obtain ⟨d, hd⟩ : ∃ d, (interval x).search 18 p = d := ⟨_, rfl⟩
  obtain ⟨hnear, hpos, hle, hlow, hhigh⟩ :=
    search_spec hm ⟨17, by omega, by exact_mod_cast fine_grid hx hfirst⟩ hd
  obtain ⟨hvalue, hpos', hle', hlow', hhigh'⟩ := trimZeros_spec 20 d hpos
  rw [hd]
  refine ⟨hvalue ▸ hnear, hpos', hle'.trans ?_, by omega, by push_cast at hhigh'; omega⟩
  -- the digits are those between the first place and the grid
  have hpow := ten_zpow_pos d.exponent
  have hplaces : (10 : ℚ) ^ (p + 1) ≤ 10 ^ d.exponent * 10 ^ 18 := by
    rw [← zpow_natCast, ← zpow_add₀ (by norm_num)]
    refine zpow_le_zpow_right₀ (by norm_num) ?_
    push_cast at hlow ⊢
    omega
  have hdigits : (d.digits : ℚ) < 10 ^ 18 + 1 := by
    rw [Decimal.value] at hle
    have hless : (d.digits : ℚ) * 10 ^ d.exponent < (10 ^ 18 + 1) * 10 ^ d.exponent := by linarith
    exact lt_of_mul_lt_mul_right hless hpow.le
  have hnat : d.digits < 10 ^ 18 + 1 := by exact_mod_cast hdigits
  omega

end

end Shortest
end Strongbox
