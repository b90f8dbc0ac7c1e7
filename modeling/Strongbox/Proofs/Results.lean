/-
Results of checks that follow one another.

A result that is a success tells that every check before it was one (`bind_eq_ok`,
`map_eq_ok`, `mapError_eq_ok`, `mapM_eq_ok_iff`).  A walk whose steps fail on account of an item
alone fails with the fault of the first item that has one (`foldlM_eq_error_iff`,
`mapM_eq_error_iff`).

Two results are `Related` if they go the same way, with related faults or related values; what is
done with related results is related (`Related.bind`, `Related.foldlM`).
-/
import Mathlib.Data.List.Basic
import Mathlib.Tactic.Common

namespace Strongbox.Results

variable {ε ε' α β : Type}

/-- What follows a check succeeds if the check does, and then what is done with its result. -/
theorem bind_eq_ok {x : Except ε α} {f : α → Except ε β} {b : β} :
    x >>= f = .ok b ↔ ∃ a, x = .ok a ∧ f a = .ok b := by
  cases x with
  | error e => simp [bind, Except.bind]
  | ok a => simp [bind, Except.bind]

theorem map_eq_ok {x : Except ε α} {f : α → β} {b : β} :
    x.map f = .ok b ↔ ∃ a, x = .ok a ∧ f a = b := by
  cases x with
  | error e => simp [Except.map]
  | ok a => simp [Except.map]

theorem map_eq_error {x : Except ε α} {f : α → β} {e : ε} :
    x.map f = .error e ↔ x = .error e := by
  cases x with
  | error e' => simp [Except.map]
  | ok a => simp [Except.map]

theorem mapError_eq_ok {x : Except ε α} {f : ε → ε'} {a : α} :
    x.mapError f = .ok a ↔ x = .ok a := by
  cases x with
  | error e => simp [Except.mapError]
  | ok b => simp [Except.mapError]

/-- A walk that undoes a function item by item succeeds exactly on the items that the function
gives. -/
theorem mapM_eq_ok_iff {f : α → Except ε β} {g : β → α} (hf : ∀ a b, f a = .ok b ↔ a = g b)
    {xs : List α} {ys : List β} : xs.mapM f = .ok ys ↔ xs = ys.map g := by
  induction xs generalizing ys with
  | nil => cases ys <;> simp [pure, Except.pure]
  | cons x xs ih =>
    rw [List.mapM_cons, bind_eq_ok]
    constructor
    · rintro ⟨y, hy, hrest⟩
      obtain ⟨rest, hxs, hys⟩ := bind_eq_ok.1 hrest
      rw [← Except.ok.inj hys, List.map_cons, (hf x y).1 hy, ih.1 hxs]
    · intro h
      cases ys with
      | nil => exact absurd h (List.cons_ne_nil x xs)
      | cons y ys =>
        obtain ⟨hx, hxs⟩ := List.cons.inj h
        exact ⟨y, (hf x y).2 hx, bind_eq_ok.2 ⟨ys, ih.2 hxs, rfl⟩⟩

/-! ### The first fault of a walk -/

section

variable {σ : Type} {fault : α → Option ε}

theorem foldlM_eq_error_iff {f : σ → α → Except ε σ}
    (hf : ∀ s a e, f s a = .error e ↔ fault a = some e) {xs : List α} {s : σ} {e : ε} :
    xs.foldlM f s = .error e ↔ xs.findSome? fault = some e := by
  induction xs generalizing s with
  | nil => simp [pure, Except.pure]
  | cons a xs ih =>
    rw [List.foldlM_cons, List.findSome?_cons]
    cases hstep : f s a with
    | error e' =>
      rw [(hf s a e').1 hstep]
      simp [bind, Except.bind]
    | ok s' =>
      have hnone : fault a = none := by
        cases ha : fault a with
        | none => rfl
        | some e' => exact absurd ((hf s a e').2 ha) (by simp [hstep])
      rw [hnone]
      exact ih

theorem mapM_eq_error_iff {f : α → Except ε β} (hf : ∀ a e, f a = .error e ↔ fault a = some e)
    {xs : List α} {e : ε} : xs.mapM f = .error e ↔ xs.findSome? fault = some e := by
  induction xs with
  | nil => simp [pure, Except.pure]
  | cons a xs ih =>
    rw [List.mapM_cons, List.findSome?_cons]
    cases hstep : f a with
    | error e' =>
      rw [(hf a e').1 hstep]
      simp [bind, Except.bind]
    | ok b =>
      have hnone : fault a = none := by
        cases ha : fault a with
        | none => rfl
        | some e' => exact absurd ((hf a e').2 ha) (by simp [hstep])
      rw [hnone, ← ih]
      cases xs.mapM f <;> simp [bind, Except.bind, pure, Except.pure]

end

/-! ### Two results -/

variable {α' β' : Type} {E : ε → ε' → Prop} {V : α → α' → Prop}

/-- Two results that go the same way: related faults, or related values. -/
inductive Related (E : ε → ε' → Prop) (V : α → α' → Prop) : Except ε α → Except ε' α' → Prop
  | error {e : ε} {e' : ε'} (h : E e e') : Related E V (.error e) (.error e')
  | ok {a : α} {a' : α'} (h : V a a') : Related E V (.ok a) (.ok a')

namespace Related

theorem refl {E : ε → ε → Prop} {V : α → α → Prop} {x : Except ε α} (hE : ∀ e, E e e)
    (hV : ∀ a, V a a) : Related E V x x := by
  cases x with
  | error e => exact .error (hE e)
  | ok a => exact .ok (hV a)

theorem bind {W : β → β' → Prop} {x : Except ε α} {x' : Except ε' α'} (h : Related E V x x')
    {f : α → Except ε β} {f' : α' → Except ε' β'}
    (hf : ∀ a a', V a a' → Related E W (f a) (f' a')) : Related E W (x >>= f) (x' >>= f') := by
  cases h with
  | error h => exact .error h
  | ok h => exact hf _ _ h

theorem map {W : β → β' → Prop} {x : Except ε α} {x' : Except ε' α'} (h : Related E V x x')
    {f : α → β} {f' : α' → β'} (hf : ∀ a a', V a a' → W (f a) (f' a')) :
    Related E W (x.map f) (x'.map f') := by
  cases h with
  | error h => exact .error h
  | ok h => exact .ok (hf _ _ h)

/-- A result goes the same way as what is made of it. -/
theorem of_map {x : Except ε α} {f : α → α'} (h : ∀ a, x = .ok a → V a (f a)) :
    Related Eq V x (x.map f) := by
  cases x with
  | error e => exact .error rfl
  | ok a => exact .ok (h a rfl)

theorem mapError {δ δ' : Type} {E' : δ → δ' → Prop} {x : Except ε α} {x' : Except ε' α'}
    (h : Related E V x x') {f : ε → δ} {f' : ε' → δ'} (hf : ∀ e e', E e e' → E' (f e) (f' e')) :
    Related E' V (x.mapError f) (x'.mapError f') := by
  cases h with
  | error h => exact .error (hf _ _ h)
  | ok h => exact .ok h

theorem mono {E' : ε → ε' → Prop} {V' : α → α' → Prop} {x : Except ε α} {x' : Except ε' α'}
    (h : Related E V x x') (hE : ∀ e e', E e e' → E' e e') (hV : ∀ a a', V a a' → V' a a') :
    Related E' V' x x' := by
  cases h with
  | error h => exact .error (hE _ _ h)
  | ok h => exact .ok (hV _ _ h)

/-- Two walks over related items, of which every step keeps the states related. -/
theorem foldlM {σ σ' : Type} {S : σ → σ' → Prop} {R : α → α' → Prop} {f : σ → α → Except ε σ}
    {f' : σ' → α' → Except ε' σ'} {xs : List α} {xs' : List α'} (hxs : List.Forall₂ R xs xs')
    {s : σ} {s' : σ'} (hs : S s s')
    (hf : ∀ s s' a a', R a a' → S s s' → Related E S (f s a) (f' s' a')) :
    Related E S (xs.foldlM f s) (xs'.foldlM f' s') := by
  induction hxs generalizing s s' with
  | nil => exact .ok hs
  | cons ha _ ih =>
    rw [List.foldlM_cons, List.foldlM_cons]
    exact (hf _ _ _ _ ha hs).bind fun t t' ht => ih ht

end Related
end Strongbox.Results
