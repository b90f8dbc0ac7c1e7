/-
Rounding finds the number that a fraction is near.

A fraction is compared with powers of two as a rational number.  Its exponent is fixed by its
magnitude: at this exponent it has a mantissa of 53 bits, or the exponent is the least one
(`Binary64.IsExponent`).  A fraction that is not above the middle between a number and the next
one, and not below the middle between it and the one before, has the exponent of the number, unless
the number is a power of two and the fraction is below it; then it is rounded up to that power.

* `ratio_shifted` — the fraction at an exponent;
* `isExponent_exponentFor`, `IsExponent.unique` — the exponent that is computed is the one there is;
* `roundDiv_eq` — what a quotient is rounded to;
* `ofRatio?_eq_some` — a fraction in the interval of a number is rounded to it.
-/
import Strongbox.Number.Shortest
import Mathlib.Algebra.Order.Field.Power
import Mathlib.Data.Rat.Cast.Order
import Mathlib.Tactic.FieldSimp
import Mathlib.Tactic.Linarith
import Mathlib.Tactic.NormNum

namespace Strongbox

/-! ### Powers -/

/-- A power with an exponent of any sign, by the powers that fractions are made of. -/
theorem zpow_eq_div {b : ℚ} (hb : b ≠ 0) (e : ℤ) : b ^ e = b ^ e.toNat / b ^ (-e).toNat := by
  rw [← zpow_natCast, ← zpow_natCast, ← zpow_sub₀ hb]
  congr 1
  omega

theorem cast_pow (b k : ℕ) : ((Nat.pow b k : ℕ) : ℚ) = (b : ℚ) ^ k := Nat.cast_pow b k

namespace Binary64

theorem two_zpow_pos (e : ℤ) : (0 : ℚ) < 2 ^ e := zpow_pos (by norm_num) e

theorem two_zpow_succ (e : ℤ) : (2 : ℚ) ^ (e + 1) = 2 ^ e * 2 := zpow_add_one₀ (by norm_num) e

theorem two_zpow_le {e f : ℤ} (h : e ≤ f) : (2 : ℚ) ^ e ≤ 2 ^ f :=
  zpow_le_zpow_right₀ (by norm_num) h

/-- A number below 2^52, as a multiple of a power. -/
theorem two_zpow_add_52 (e : ℤ) : (2 : ℚ) ^ (e + 52) = leastNormal * 2 ^ e := by
  rw [zpow_add₀ (by norm_num), mul_comm]
  norm_num [leastNormal]

theorem two_zpow_add_53 (e : ℤ) : (2 : ℚ) ^ (e + 53) = 2 * leastNormal * 2 ^ e := by
  rw [zpow_add₀ (by norm_num), mul_comm]
  norm_num [leastNormal]

/-! ### Fractions at an exponent -/

section

variable {n d : ℕ} {e : ℤ}

theorem shifted_snd_pos (hd : 0 < d) (n : ℕ) (e : ℤ) : 0 < (shifted n d e).2 :=
  Nat.mul_pos hd (Nat.pow_pos (by omega))

/-- The fraction at an exponent. -/
theorem ratio_shifted (n d : ℕ) (e : ℤ) :
    ((shifted n d e).1 : ℚ) / (shifted n d e).2 = (n : ℚ) / d / 2 ^ e := by
  rw [shifted, zpow_eq_div (by norm_num) e]
  push_cast [cast_pow]
  field_simp

theorem shifted_lt_iff (hd : 0 < d) (c : ℕ) :
    (shifted n d e).1 < c * (shifted n d e).2 ↔ (n : ℚ) / d < c * 2 ^ e := by
  have hpos : (0 : ℚ) < (shifted n d e).2 := by exact_mod_cast shifted_snd_pos hd n e
  rw [← div_lt_iff₀ (two_zpow_pos e), ← ratio_shifted, div_lt_iff₀ hpos]
  exact_mod_cast Iff.rfl

/-- The exponent of a positive fraction: that of a mantissa of 53 bits, or the least one. -/
structure IsExponent (v : ℚ) (e : ℤ) : Prop where
  min_le : minExponent ≤ e
  lt : v < 2 ^ (e + 53)
  le_or_min : 2 ^ (e + 52) ≤ v ∨ e = minExponent

theorem IsExponent.le {v : ℚ} {e f : ℤ} (he : IsExponent v e) (hf : IsExponent v f) : e ≤ f := by
  by_contra hlt
  rcases he.le_or_min with hle | hmin
  · have hpow : (2 : ℚ) ^ (f + 53) ≤ 2 ^ (e + 52) := two_zpow_le (by omega)
    exact absurd (hle.trans_lt hf.lt) (not_lt.2 hpow)
  · have := hf.min_le
    omega

theorem IsExponent.unique {v : ℚ} {e f : ℤ} (he : IsExponent v e) (hf : IsExponent v f) : e = f :=
  le_antisymm (he.le hf) (hf.le he)

/-- A fraction lies between powers of two that the lengths of its parts tell. -/
theorem ratio_bounds (hn : 0 < n) (hd : 0 < d) :
    (2 : ℚ) ^ ((n.log2 : ℤ) - d.log2 - 1) ≤ (n : ℚ) / d ∧
      (n : ℚ) / d < 2 ^ ((n.log2 : ℤ) - d.log2 + 1) := by
  have hdpos : (0 : ℚ) < d := by exact_mod_cast hd
  have hnlow : (2 : ℚ) ^ (n.log2 : ℤ) ≤ n := by
    rw [zpow_natCast]
    exact_mod_cast Nat.log2_self_le (by omega)
  have hnhigh : (n : ℚ) < 2 ^ ((n.log2 : ℤ) + 1) := by
    exact_mod_cast Nat.lt_log2_self (n := n)
  have hdlow : (2 : ℚ) ^ (d.log2 : ℤ) ≤ d := by
    rw [zpow_natCast]
    exact_mod_cast Nat.log2_self_le (by omega)
  have hdhigh : (d : ℚ) < 2 ^ ((d.log2 : ℤ) + 1) := by
    exact_mod_cast Nat.lt_log2_self (n := d)
  constructor
  · rw [le_div_iff₀ hdpos]
    calc (2 : ℚ) ^ ((n.log2 : ℤ) - d.log2 - 1) * d
        ≤ 2 ^ ((n.log2 : ℤ) - d.log2 - 1) * 2 ^ ((d.log2 : ℤ) + 1) :=
          mul_le_mul_of_nonneg_left hdhigh.le (two_zpow_pos _).le
      _ = 2 ^ (n.log2 : ℤ) := by rw [← zpow_add₀ (by norm_num)]; congr 1; omega
      _ ≤ n := hnlow
  · rw [div_lt_iff₀ hdpos]
    calc (n : ℚ) < 2 ^ ((n.log2 : ℤ) + 1) := hnhigh
      _ = 2 ^ ((n.log2 : ℤ) - d.log2 + 1) * 2 ^ (d.log2 : ℤ) := by
        rw [← zpow_add₀ (by norm_num)]; congr 1; omega
      _ ≤ 2 ^ ((n.log2 : ℤ) - d.log2 + 1) * d :=
          mul_le_mul_of_nonneg_left hdlow (two_zpow_pos _).le

/-- The exponent that is computed is that of the fraction. -/
theorem isExponent_exponentFor (hn : 0 < n) (hd : 0 < d) :
    IsExponent ((n : ℚ) / d) (exponentFor n d) := by
  obtain ⟨hlow, hhigh⟩ := ratio_bounds hn hd
  -- without the least exponent, the exponent of a mantissa of 53 bits
  have hfree : ∃ e : ℤ, exponentFor n d = max e minExponent ∧
      (2 : ℚ) ^ (e + 52) ≤ (n : ℚ) / d ∧ (n : ℚ) / d < 2 ^ (e + 53) := by
    have hiff := shifted_lt_iff (n := n) (e := (n.log2 : ℤ) - d.log2 - 52) hd leastNormal
    rw [← two_zpow_add_52, Int.sub_add_cancel] at hiff
    rw [exponentFor]
    dsimp only
    split
    · next hless =>
      refine ⟨_, rfl, ?_, ?_⟩
      · convert hlow using 2
        omega
      · convert hiff.1 hless using 2
        omega
    · next hless =>
      refine ⟨_, rfl, ?_, ?_⟩
      · rw [Int.sub_add_cancel]
        exact not_lt.1 fun h => hless (hiff.2 h)
      · convert hhigh using 2
        omega
  obtain ⟨e, he, hlow, hhigh⟩ := hfree
  rw [he]
  rcases le_total minExponent e with hmin | hmin
  · rw [max_eq_left hmin]
    exact ⟨hmin, hhigh, Or.inl hlow⟩
  · rw [max_eq_right hmin]
    exact ⟨le_refl _, hhigh.trans_le (two_zpow_le (by omega)), Or.inr rfl⟩

end

/-! ### Rounding a quotient -/

section

variable {n d m : ℕ}

/-- What a quotient is rounded to: the integer that is not farther than one half, and even if it is
that far. -/
theorem roundDiv_eq (hd : 0 < d) (hlow : 2 * m * d ≤ 2 * n + d) (hhigh : 2 * n ≤ 2 * m * d + d)
    (htie : m % 2 = 1 → 2 * m * d < 2 * n + d ∧ 2 * n < 2 * m * d + d) : roundDiv n d = m := by
  have hdiv := Nat.div_add_mod n d
  have hmod := Nat.mod_lt n hd
  rw [roundDiv]
  generalize n / d = q at hdiv ⊢
  generalize n % d = r at hdiv hmod ⊢
  rw [Nat.mul_assoc] at hlow hhigh htie
  -- the integer is the quotient, or the next one
  have hmq : m = q ∨ m = q + 1 := by
    by_contra hne
    rcases Nat.lt_or_ge m q with hlt | hge
    · have hprod : (m + 1) * d ≤ d * q := by
        rw [Nat.mul_comm d q]
        exact Nat.mul_le_mul_right d hlt
      rw [Nat.add_mul] at hprod
      omega
    · have hprod : d * q + 2 * d ≤ m * d := by
        rw [Nat.mul_comm d q, ← Nat.add_mul]
        exact Nat.mul_le_mul_right d (by omega)
      omega
  rcases hmq with rfl | rfl
  · rw [Nat.mul_comm d m] at hdiv
    split
    · rfl
    · split
      · omega
      · rcases Nat.mod_two_eq_zero_or_one m with heven | hodd
        · omega
        · have := htie hodd
          omega
  · rw [Nat.add_mul, Nat.mul_comm q d] at hlow hhigh htie
    split
    · omega
    · split
      · rfl
      · rcases Nat.mod_two_eq_zero_or_one (q + 1) with heven | hodd
        · omega
        · have := htie hodd
          omega

/-- What a fraction at an exponent is rounded to. -/
theorem roundDiv_shifted (hd : 0 < d) (e : ℤ) {w : ℚ} (hw : (n : ℚ) / d / 2 ^ e = w)
    (hlow : (2 * m - 1 : ℚ) ≤ 2 * w) (hhigh : 2 * w ≤ (2 * m + 1 : ℚ))
    (htie : m % 2 = 1 → (2 * m - 1 : ℚ) < 2 * w ∧ 2 * w < (2 * m + 1 : ℚ)) :
    roundDiv (shifted n d e).1 (shifted n d e).2 = m := by
  have hpos := shifted_snd_pos hd n e
  have hden : (0 : ℚ) < (shifted n d e).2 := by exact_mod_cast hpos
  have hnum : ((shifted n d e).1 : ℚ) = w * (shifted n d e).2 := by
    rw [← hw, ← ratio_shifted, div_mul_cancel₀ _ hden.ne']
  generalize (shifted n d e).1 = a at hnum ⊢
  generalize (shifted n d e).2 = b at hpos hden hnum ⊢
  have hscale : ∀ {x y : ℚ}, x ≤ y → x * b ≤ y * b := fun h =>
    mul_le_mul_of_nonneg_right h hden.le
  refine roundDiv_eq hpos ?_ ?_ fun hodd => ⟨?_, ?_⟩
  · have h : (2 * m * b : ℚ) ≤ 2 * a + b := by linarith [hscale hlow]
    exact_mod_cast h
  · have h : (2 * a : ℚ) ≤ 2 * m * b + b := by linarith [hscale hhigh]
    exact_mod_cast h
  · have h : (2 * m * b : ℚ) < 2 * a + b := by
      linarith [mul_lt_mul_of_pos_right (htie hodd).1 hden]
    exact_mod_cast h
  · have h : (2 * a : ℚ) < 2 * m * b + b := by
      linarith [mul_lt_mul_of_pos_right (htie hodd).2 hden]
    exact_mod_cast h

end

/-! ### Rounding a fraction -/

section

variable {n d : ℕ} {e : ℤ} (negative : Bool)

/-- A fraction is rounded at its exponent; a mantissa that has become too long is one of the next
exponent. -/
theorem ofRatio?_eq (hn : 0 < n) (hd : 0 < d) (he : IsExponent ((n : ℚ) / d) e) :
    ofRatio? negative n d =
      let m := roundDiv (shifted n d e).1 (shifted n d e).2
      let r := if m = 2 * leastNormal then (leastNormal, e + 1) else (m, e)
      if r.2 > maxExponent then none else some ⟨negative, r.1, r.2⟩ := by
  rw [ofRatio?, if_neg (by omega), (isExponent_exponentFor hn hd).unique he]

end

/-- The number is one of the format. -/
structure IsCanonical (x : Binary64) : Prop where
  mantissa_lt : x.mantissa < 2 * leastNormal
  min_le : minExponent ≤ x.exponent
  le_max : x.exponent ≤ maxExponent
  normal : leastNormal ≤ x.mantissa ∨ x.exponent = minExponent

/-- How far below a number its interval starts, in quarters of its last binary digit: the numbers
below a power of two are twice as close. -/
def gap (x : Binary64) : ℕ :=
  if x.mantissa = leastNormal ∧ minExponent < x.exponent then 1 else 2

/-- A positive fraction that is nearer to the number than to any other, or as near as to one other,
if the mantissa of the number is even. -/
structure Near (x : Binary64) (v : ℚ) : Prop where
  low : (4 * x.mantissa - x.gap : ℚ) ≤ 4 * (v / 2 ^ x.exponent)
  high : 4 * (v / 2 ^ x.exponent) ≤ 4 * x.mantissa + 2
  strict : x.mantissa % 2 = 1 → (4 * x.mantissa - x.gap : ℚ) < 4 * (v / 2 ^ x.exponent) ∧
    4 * (v / 2 ^ x.exponent) < 4 * x.mantissa + 2

theorem gap_le (x : Binary64) : x.gap ≤ 2 := by
  rw [gap]
  split <;> omega

theorem lt_two_zpow_iff {v : ℚ} (e : ℤ) : v < 2 ^ (e + 53) ↔ v / 2 ^ e < 2 * leastNormal := by
  rw [two_zpow_add_53, div_lt_iff₀ (two_zpow_pos e)]

theorem two_zpow_le_iff {v : ℚ} (e : ℤ) : 2 ^ (e + 52) ≤ v ↔ (leastNormal : ℚ) ≤ v / 2 ^ e := by
  rw [two_zpow_add_52, le_div_iff₀ (two_zpow_pos e)]

section

variable {n d m : ℕ} {k : ℤ} {w : ℚ}

/-- A fraction with the exponent of a number, within one half of its last digit. -/
theorem ofRatio?_eq_of_isExponent (hn : 0 < n) (hd : 0 < d) (he : IsExponent ((n : ℚ) / d) k)
    (hmax : k ≤ maxExponent) (hlt : m < 2 * leastNormal) (hw : (n : ℚ) / d / 2 ^ k = w)
    (hlow : (2 * m - 1 : ℚ) ≤ 2 * w) (hhigh : 2 * w ≤ (2 * m + 1 : ℚ))
    (htie : m % 2 = 1 → (2 * m - 1 : ℚ) < 2 * w ∧ 2 * w < (2 * m + 1 : ℚ)) :
    ofRatio? false n d = some ⟨false, m, k⟩ := by
  rw [ofRatio?_eq false hn hd he, roundDiv_shifted hd k hw hlow hhigh htie]
  dsimp only
  rw [if_neg hlt.ne, if_neg (not_lt.2 hmax)]

/-- A fraction below a power of two, within one half of the last digit of the numbers there: its
mantissa is rounded up to one that is too long. -/
theorem ofRatio?_eq_of_below (hn : 0 < n) (hd : 0 < d) (hmin : minExponent < k)
    (hmax : k ≤ maxExponent) (hw : (n : ℚ) / d / 2 ^ k = w)
    (hlow : (4 * leastNormal - 1 : ℚ) ≤ 4 * w) (hbelow : w < leastNormal) :
    ofRatio? false n d = some ⟨false, leastNormal, k⟩ := by
  have hone : (1 : ℚ) ≤ leastNormal := by exact_mod_cast (by decide : 1 ≤ leastNormal)
  have hdouble : (n : ℚ) / d / 2 ^ (k - 1) = 2 * w := by
    have hpow : (2 : ℚ) ^ k = 2 ^ (k - 1) * 2 := by
      rw [← two_zpow_succ, Int.sub_add_cancel]
    rw [← hw, hpow, div_mul_eq_div_div]
    linarith
  have he : IsExponent ((n : ℚ) / d) (k - 1) := by
    refine ⟨Int.le_sub_one_of_lt hmin, (lt_two_zpow_iff _).2 ?_, Or.inl ((two_zpow_le_iff _).2 ?_)⟩
    · rw [hdouble]
      linarith
    · rw [hdouble]
      linarith
  have hround : roundDiv (shifted n d (k - 1)).1 (shifted n d (k - 1)).2 = 2 * leastNormal := by
    refine roundDiv_shifted hd (k - 1) hdouble ?_ ?_ fun hodd => ?_
    · push_cast
      linarith
    · push_cast
      linarith
    · omega
  rw [ofRatio?_eq false hn hd he, hround]
  dsimp only
  rw [if_pos rfl, Int.sub_add_cancel, if_neg (not_lt.2 hmax)]

end

/-- **A fraction near a number is rounded to it.** -/
theorem ofRatio?_eq_some {x : Binary64} (hx : x.IsCanonical) (hm : 0 < x.mantissa) {n d : ℕ}
    (hd : 0 < d) (h : x.Near ((n : ℚ) / d)) :
    ofRatio? false n d = some { x with negative := false } := by
  obtain ⟨negative, m, k⟩ := x
  have hgap : ((gap ⟨negative, m, k⟩ : ℕ) : ℚ) ≤ 2 := by exact_mod_cast gap_le _
  have hmone : (1 : ℚ) ≤ m := by exact_mod_cast hm
  have hmq : (m : ℚ) + 1 ≤ 2 * leastNormal := by exact_mod_cast Nat.succ_le_of_lt hx.mantissa_lt
  have hlow := h.low
  have hhigh := h.high
  have hstrict := h.strict
  dsimp only at hlow hhigh hstrict ⊢
  obtain ⟨w, hw⟩ : ∃ w, (n : ℚ) / d / 2 ^ k = w := ⟨_, rfl⟩
  rw [hw] at hlow hhigh hstrict
  have hn : 0 < n := by
    rcases Nat.eq_zero_or_pos n with rfl | hn
    · rw [Nat.cast_zero, zero_div, zero_div] at hw
      linarith
    · exact hn
  by_cases hsame : 2 ^ (k + 52) ≤ (n : ℚ) / d ∨ k = minExponent
  · -- the fraction has the exponent of the number
    have he : IsExponent ((n : ℚ) / d) k := by
      refine ⟨hx.min_le, (lt_two_zpow_iff k).2 ?_, hsame⟩
      rw [hw]
      linarith
    refine ofRatio?_eq_of_isExponent hn hd he hx.le_max hx.mantissa_lt hw (by linarith)
      (by linarith) fun hodd => ?_
    obtain ⟨hl, hh⟩ := hstrict hodd
    exact ⟨by linarith, by linarith⟩
  · -- the number is a power of two, and the fraction is below it
    obtain ⟨hbelow, hleast⟩ := not_or.1 hsame
    have hmin : minExponent < k := lt_of_le_of_ne hx.min_le (Ne.symm hleast)
    have hlt : w < leastNormal := by
      rw [two_zpow_le_iff, hw] at hbelow
      exact not_le.1 hbelow
    have hpower : m = leastNormal := by
      have hge : leastNormal ≤ m := hx.normal.resolve_right hleast
      have hle : (m : ℚ) < leastNormal + 1 := by linarith
      have hle' : m < leastNormal + 1 := by exact_mod_cast hle
      omega
    subst hpower
    have hone : gap ⟨negative, leastNormal, k⟩ = 1 := if_pos ⟨rfl, hmin⟩
    rw [hone, Nat.cast_one] at hlow
    exact ofRatio?_eq_of_below hn hd hmin hx.le_max hw hlow hlt

end Binary64
end Strongbox
