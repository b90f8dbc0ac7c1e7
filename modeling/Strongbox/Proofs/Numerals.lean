/-
Decimal numerals are read back.

* `extend_digits` — the digits of a number make that number again;
* `read?_decimal` — so reading its numeral gives the number.
-/
import Strongbox.Text.Numeral
import Mathlib.Tactic.Common
import Mathlib.Tactic.IntervalCases

namespace Strongbox.Numeral

theorem digits_of_lt {base n : Nat} (h : n < base) : digits base n = [n] := by
  rw [digits, dif_pos (Or.inr h)]

theorem digits_of_le {base n : Nat} (hb : 2 ≤ base) (h : base ≤ n) :
    digits base n = digits base (n / base) ++ [n % base] := by
  rw [digits, dif_neg (by omega)]

theorem lt_of_mem_digits {base n d : Nat} (hb : 2 ≤ base) (h : d ∈ digits base n) : d < base := by
  induction n using Nat.strongRecOn with
  | ind n ih =>
    by_cases hn : n < base
    · rw [digits_of_lt hn, List.mem_singleton] at h
      omega
    · rw [digits_of_le hb (by omega), List.mem_append, List.mem_singleton] at h
      rcases h with h | rfl
      · exact ih (n / base) (Nat.div_lt_self (by omega) (by omega)) h
      · exact Nat.mod_lt n (by omega)

theorem digits_ne_nil (base n : Nat) : digits base n ≠ [] := by
  rw [digits]
  split
  · exact List.cons_ne_nil n []
  · exact List.append_ne_nil_of_right_ne_nil _ (List.cons_ne_nil _ _)

theorem extend_digits {base : Nat} (hb : 2 ≤ base) (n : Nat) :
    extend base 0 (digits base n) = n := by
  induction n using Nat.strongRecOn with
  | ind n ih =>
    by_cases hn : n < base
    · rw [digits_of_lt hn]
      show 0 * base + n = n
      omega
    · have hrest := ih (n / base) (Nat.div_lt_self (by omega) (by omega))
      rw [extend] at hrest
      rw [digits_of_le hb (by omega), extend, List.foldl_append, hrest]
      exact Nat.div_add_mod' n base

theorem digitValue?_lowerDigit {d : Nat} (h : d < 10) : digitValue? 10 (lowerDigit d) = some d := by
  interval_cases d <;> decide

/-- **A decimal numeral is read back.** -/
theorem read?_decimal (n : Nat) : read? 10 (decimal n).toList = some n := by
  have hvalues : ∀ ds : List Nat, (∀ d ∈ ds, d < 10) →
      (ds.map lowerDigit).mapM (digitValue? 10) = some ds := by
    intro ds hds
    induction ds with
    | nil => rfl
    | cons d ds ih =>
      rw [List.map_cons, List.mapM_cons, digitValue?_lowerDigit (hds d List.mem_cons_self),
        ih fun e he => hds e (List.mem_cons_of_mem d he)]
      rfl
  have hall : ∀ d ∈ digits 10 n, d < 10 := fun d hd => lt_of_mem_digits (by omega) hd
  obtain ⟨d, ds, hd⟩ := List.exists_cons_of_ne_nil (digits_ne_nil 10 n)
  have hmap := hvalues (digits 10 n) hall
  rw [decimal, String.toList_ofList]
  rw [hd, List.map_cons] at hmap ⊢
  rw [read?, hmap, Option.map_some, ← hd, extend_digits (by omega)]
  exact List.cons_ne_nil _ _

theorem isDigit_of_mem_decimal {n : Nat} {c : Char} (h : c ∈ (decimal n).toList) :
    c.isDigit = true := by
  rw [decimal, String.toList_ofList] at h
  obtain ⟨d, hd, rfl⟩ := List.mem_map.1 h
  have hlt : d < 10 := lt_of_mem_digits (by omega) hd
  interval_cases d <;> decide

end Strongbox.Numeral
