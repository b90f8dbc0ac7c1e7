/-
Histories: steps carried out one after another, and the answers they give.

A family of steps `E` says for each step what type its answer has, and a meaning of the steps
says what a step answers in a state and which state it leaves behind.
* `History.run` — the answers of a history, and the last state;
* `History.getElem?_run` — the answer to one of its steps;
* `History.bound_of_run` — a bound in the last state holds in all states before it;
* `History.run_simulation` — two meanings whose states stay related give the same answers, and
  related states in the end.
-/
import Strongbox.Error
import Mathlib.Data.List.Basic
import Mathlib.Tactic.Common

namespace Strongbox

universe u

/-- Steps in the order in which they are carried out, each with the type of its answer. -/
abbrev History (E : Type → Type u) := List (Σ α, E α)

namespace History

variable {E : Type → Type u} {S T : Type}

/-- Carries out the steps of a history: their answers, and the last state. -/
def run (step : {α : Type} → E α → S → Result α × S) :
    History E → S → List (Σ α, Result α) × S
  | [], s => ([], s)
  | e :: rest, s =>
    let (answer, s) := step e.2 s
    let (answers, s) := run step rest s
    (⟨e.1, answer⟩ :: answers, s)

variable (step : {α : Type} → E α → S → Result α × S)

theorem run_cons_fst (e : Σ α, E α) (rest : History E) (s : S) :
    (run step (e :: rest) s).1 = ⟨e.1, (step e.2 s).1⟩ :: (run step rest (step e.2 s).2).1 := rfl

theorem run_cons_snd (e : Σ α, E α) (rest : History E) (s : S) :
    (run step (e :: rest) s).2 = (run step rest (step e.2 s).2).2 := rfl

/-- The answers of a history whose first step is known. -/
theorem run_cons_of_eq {α : Type} {e : E α} {s s' : S} {r : Result α} (h : step e s = (r, s'))
    (rest : History E) : (run step (⟨α, e⟩ :: rest) s).1 = ⟨α, r⟩ :: (run step rest s').1 := by
  rw [run_cons_fst, h]

theorem run_append (h rest : History E) (s : S) :
    (run step (h ++ rest) s).1 = (run step h s).1 ++ (run step rest (run step h s).2).1 := by
  induction h generalizing s with
  | nil => rfl
  | cons e h ih =>
    rw [List.cons_append, run_cons_fst, ih, run_cons_fst, run_cons_snd, List.cons_append]

theorem run_concat_snd (h : History E) (e : Σ α, E α) (s : S) :
    (run step (h ++ [e]) s).2 = (step e.2 (run step h s).2).2 := by
  induction h generalizing s with
  | nil => rfl
  | cons d h ih => rw [List.cons_append, run_cons_snd, ih, run_cons_snd]

theorem length_run (h : History E) (s : S) : (run step h s).1.length = h.length := by
  induction h generalizing s with
  | nil => rfl
  | cons e h ih => rw [run_cons_fst, List.length_cons, ih, List.length_cons]

/-- The answer to a step is what the step answers in the state that the steps before it left. -/
theorem getElem?_run (before rest : History E) (e : Σ α, E α) (s : S) :
    (run step (before ++ e :: rest) s).1[before.length]? =
      some ⟨e.1, (step e.2 (run step before s).2).1⟩ := by
  have hlength := length_run step before s
  rw [run_append, run_cons_fst, List.getElem?_append_right (Nat.le_of_eq hlength), hlength,
    Nat.sub_self, List.getElem?_cons_zero]

/-- A bound that comes back over every step comes back over a history. -/
theorem bound_of_run {bound : S → Prop} {h : History E}
    (hback : ∀ e ∈ h, ∀ s, bound (step e.2 s).2 → bound s) {s : S}
    (hb : bound (run step h s).2) : bound s := by
  induction h generalizing s with
  | nil => exact hb
  | cons e rest ih =>
    rw [run_cons_snd] at hb
    have hnext := ih (fun d hd => hback d (List.mem_cons_of_mem e hd)) hb
    exact hback e List.mem_cons_self s hnext

section

variable (step' : {α : Type} → E α → T → Result α × T) {R : S → T → Prop} {bound : T → Prop}
  {h : History E}

/-- Two meanings of the steps give the same answers, and related states in the end, if their states
stay related.  The relation may need a bound that holds in the last state of the second meaning
and, as `hback` says, in every earlier one. -/
theorem run_simulation (hback : ∀ e ∈ h, ∀ t, bound (step' e.2 t).2 → bound t)
    (hstep : ∀ e ∈ h, ∀ s t, R s t → bound (step' e.2 t).2 →
      (step e.2 s).1 = (step' e.2 t).1 ∧ R (step e.2 s).2 (step' e.2 t).2)
    {s : S} {t : T} (hR : R s t) (hbound : bound (run step' h t).2) :
    (run step h s).1 = (run step' h t).1 ∧ R (run step h s).2 (run step' h t).2 := by
  induction h generalizing s t with
  | nil => exact ⟨rfl, hR⟩
  | cons e rest ih =>
    -- the bound of the last state holds after the first step as well
    have hback' : ∀ d ∈ rest, ∀ t, bound (step' d.2 t).2 → bound t := fun d hd =>
      hback d (List.mem_cons_of_mem e hd)
    rw [run_cons_snd] at hbound
    obtain ⟨hanswer, hnext⟩ := hstep e List.mem_cons_self s t hR (bound_of_run step' hback' hbound)
    obtain ⟨hanswers, hlast⟩ :=
      ih hback' (fun d hd => hstep d (List.mem_cons_of_mem e hd)) hnext hbound
    refine ⟨?_, hlast⟩
    rw [run_cons_fst, run_cons_fst, hanswer, hanswers]

theorem run_eq_of_simulation (hback : ∀ e ∈ h, ∀ t, bound (step' e.2 t).2 → bound t)
    (hstep : ∀ e ∈ h, ∀ s t, R s t → bound (step' e.2 t).2 →
      (step e.2 s).1 = (step' e.2 t).1 ∧ R (step e.2 s).2 (step' e.2 t).2)
    {s : S} {t : T} (hR : R s t) (hbound : bound (run step' h t).2) :
    (run step h s).1 = (run step' h t).1 :=
  (run_simulation step step' hback hstep hR hbound).1

/-- The relation may need no bound at all. -/
theorem run_related (hstep : ∀ e ∈ h, ∀ s t, R s t →
      (step e.2 s).1 = (step' e.2 t).1 ∧ R (step e.2 s).2 (step' e.2 t).2)
    {s : S} {t : T} (hR : R s t) :
    (run step h s).1 = (run step' h t).1 ∧ R (run step h s).2 (run step' h t).2 :=
  @run_simulation E S T step step' R (fun _ => True) h (fun _ _ _ _ => trivial)
    (fun e he s t h _ => hstep e he s t h) s t hR trivial

end

end History
end Strongbox
