/-
Cutting texts into pieces, and finding one text in another.

`Text.pieces` and `Text.join` are inverse to each other on pieces without the separator:
* `pieces_append_cons` — a separator cuts the pieces in two;
* `pieces_join` — pieces without the separator are found again;
* `pieces_flatMap` — an encoding of the characters that leaves the separator alone can be
  done piece by piece.

`Text.after?`, `Text.before?` and `Text.splitOnce?` find a text at the start, at the end and
at its first occurrence (`after?_eq_some_iff`, `before?_eq_some_iff`,
`splitOnce?_eq_some_of_first`, `splitOnce?_eq_none_of_forall`, `splitOnce?_singleton`).

What is left without the characters of a class at one end is that of `dropWhile_eq_iff`,
`exists_eq_trimEnd_append` and `getLast?_trimEnd`.
-/
import Strongbox.Text.Pieces
import Mathlib.Data.List.Basic
import Mathlib.Data.List.DropRight
import Mathlib.Data.List.TakeWhile
import Mathlib.Tactic.Common

namespace Strongbox.Text

variable {sep : Char}

/-! ### Pieces -/

theorem pieces_cons_self (sep : Char) (s : List Char) :
    pieces sep (sep :: s) = [] :: pieces sep s := by
  rw [pieces, if_pos rfl]

theorem pieces_cons_of_ne {c : Char} (h : c ≠ sep) {s p : List Char} {ps : List (List Char)}
    (hs : pieces sep s = p :: ps) : pieces sep (c :: s) = (c :: p) :: ps := by
  rw [pieces, if_neg h, hs]

theorem pieces_of_not_mem {s : List Char} (h : sep ∉ s) : pieces sep s = [s] := by
  induction s with
  | nil => rfl
  | cons c s ih =>
    obtain ⟨hc, hs⟩ := List.ne_and_not_mem_of_not_mem_cons h
    exact pieces_cons_of_ne hc.symm (ih hs)

theorem pieces_append_cons (a b : List Char) :
    pieces sep (a ++ sep :: b) = pieces sep a ++ pieces sep b := by
  induction a with
  | nil => exact pieces_cons_self sep b
  | cons c a ih =>
    by_cases hc : c = sep
    · subst hc
      rw [List.cons_append, pieces_cons_self, pieces_cons_self, ih, List.cons_append]
    · obtain ⟨p, ps, hp⟩ := List.exists_cons_of_ne_nil (pieces_ne_nil sep a)
      rw [hp, List.cons_append] at ih
      rw [List.cons_append, pieces_cons_of_ne hc ih, pieces_cons_of_ne hc hp, List.cons_append]

/-- A text without the separator goes on the last piece. -/
theorem pieces_append_of_not_mem {w : List Char} (hw : sep ∉ w) (s : List Char) :
    ∃ ps p, pieces sep s = ps ++ [p] ∧ pieces sep (s ++ w) = ps ++ [p ++ w] := by
  induction s with
  | nil => exact ⟨[], [], rfl, pieces_of_not_mem hw⟩
  | cons c s ih =>
    obtain ⟨ps, p, hp, hpw⟩ := ih
    by_cases hc : c = sep
    · subst hc
      refine ⟨[] :: ps, p, ?_, ?_⟩
      · rw [pieces_cons_self, hp, List.cons_append]
      · rw [List.cons_append, pieces_cons_self, hpw, List.cons_append]
    · cases ps with
      | nil => exact ⟨[], c :: p, pieces_cons_of_ne hc hp, pieces_cons_of_ne hc hpw⟩
      | cons q qs =>
        exact ⟨(c :: q) :: qs, p, pieces_cons_of_ne hc hp, pieces_cons_of_ne hc hpw⟩

/-- The last piece behind a separator is empty exactly if the text ends in one. -/
theorem last_piece_eq_nil_iff {s p : List Char} {ps : List (List Char)}
    (h : pieces sep s = ps ++ [p]) : p = [] ↔ (sep :: s).getLast? = some sep := by
  have hlast : (pieces sep s).getLast? = some p := by rw [h, List.getLast?_concat]
  rcases List.eq_nil_or_concat s with rfl | ⟨t, d, rfl⟩
  · exact iff_of_true (Option.some_inj.1 hlast).symm rfl
  · rw [List.concat_eq_append] at hlast ⊢
    rw [← List.cons_append, List.getLast?_concat, Option.some_inj]
    by_cases hd : d = sep
    · subst hd
      rw [pieces_append_cons, pieces, List.getLast?_concat, Option.some_inj] at hlast
      exact iff_of_true hlast.symm rfl
    · have hsep : sep ∉ [d] := by simpa using Ne.symm hd
      obtain ⟨qs, q, -, hq⟩ := pieces_append_of_not_mem hsep t
      rw [hq, List.getLast?_concat, Option.some_inj] at hlast
      refine iff_of_false (fun hp => ?_) hd
      rw [hp] at hlast
      exact List.concat_ne_nil d q hlast

theorem not_mem_of_mem_pieces {s p : List Char} (h : p ∈ pieces sep s) : sep ∉ p := by
  induction s generalizing p with
  | nil =>
    rw [pieces, List.mem_singleton] at h
    simp [h]
  | cons c s ih =>
    obtain ⟨q, qs, hq⟩ := List.exists_cons_of_ne_nil (pieces_ne_nil sep s)
    by_cases hc : c = sep
    · subst hc
      rw [pieces_cons_self, List.mem_cons] at h
      rcases h with rfl | h
      · exact List.not_mem_nil
      · exact ih h
    · rw [pieces_cons_of_ne hc hq, List.mem_cons] at h
      rcases h with rfl | h
      · exact List.not_mem_cons_of_ne_of_not_mem (Ne.symm hc) (ih (hq ▸ List.mem_cons_self))
      · exact ih (hq ▸ List.mem_cons_of_mem q h)

theorem join_cons_of_ne_nil (p : List Char) {ps : List (List Char)} (h : ps ≠ []) :
    join sep (p :: ps) = p ++ sep :: join sep ps := by
  obtain ⟨q, qs, rfl⟩ := List.exists_cons_of_ne_nil h
  rfl

theorem pieces_join {ps : List (List Char)} (hne : ps ≠ []) (h : ∀ p ∈ ps, sep ∉ p) :
    pieces sep (join sep ps) = ps := by
  induction ps with
  | nil => exact absurd rfl hne
  | cons p ps ih =>
    have hp : sep ∉ p := h p List.mem_cons_self
    cases ps with
    | nil => exact pieces_of_not_mem hp
    | cons q qs =>
      have hqs : q :: qs ≠ [] := List.cons_ne_nil q qs
      rw [join_cons_of_ne_nil p hqs, pieces_append_cons, pieces_of_not_mem hp,
        ih hqs fun r hr => h r (List.mem_cons_of_mem p hr), List.singleton_append]

theorem mem_join {ps : List (List Char)} {c : Char} (h : c ∈ join sep ps) :
    c = sep ∨ ∃ p ∈ ps, c ∈ p := by
  induction ps with
  | nil => exact absurd h List.not_mem_nil
  | cons p ps ih =>
    cases ps with
    | nil => exact Or.inr ⟨p, List.mem_cons_self, h⟩
    | cons q qs =>
      rw [join_cons_of_ne_nil p (List.cons_ne_nil q qs), List.mem_append, List.mem_cons] at h
      rcases h with h | h | h
      · exact Or.inr ⟨p, List.mem_cons_self, h⟩
      · exact Or.inl h
      · rcases ih h with h | ⟨r, hr, hc⟩
        · exact Or.inl h
        · exact Or.inr ⟨r, List.mem_cons_of_mem p hr, hc⟩

/-- An encoding of the characters that leaves the separator alone, and makes it of no other
character, can be done piece by piece. -/
theorem pieces_flatMap {f : Char → List Char} (hsep : f sep = [sep])
    (hf : ∀ c, c ≠ sep → sep ∉ f c) (s : List Char) :
    pieces sep (s.flatMap f) = (pieces sep s).map (·.flatMap f) := by
  induction s with
  | nil => rfl
  | cons c s ih =>
    obtain ⟨p, ps, hp⟩ := List.exists_cons_of_ne_nil (pieces_ne_nil sep s)
    rw [List.flatMap_cons]
    by_cases hc : c = sep
    · subst hc
      rw [hsep, List.singleton_append, pieces_cons_self, pieces_cons_self, ih, List.map_cons,
        List.flatMap_nil]
    · -- the encoded character goes in front of the first piece as a whole
      have hgen : ∀ a : List Char, sep ∉ a →
          pieces sep (a ++ s.flatMap f) = (a ++ p.flatMap f) :: ps.map (·.flatMap f) := by
        intro a ha
        induction a with
        | nil => rw [List.nil_append, ih, hp, List.map_cons, List.nil_append]
        | cons d a iha =>
          obtain ⟨hd, ha⟩ := List.ne_and_not_mem_of_not_mem_cons ha
          exact pieces_cons_of_ne hd.symm (iha ha)
      rw [hgen (f c) (hf c hc), pieces_cons_of_ne hc hp, List.map_cons, List.flatMap_cons]

/-! ### Finding a text -/

theorem after?_append (p s : List Char) : after? p (p ++ s) = some s := by
  induction p with
  | nil => rfl
  | cons a p ih => rw [List.cons_append, after?, if_pos rfl, ih]

theorem after?_eq_some_iff {p s rest : List Char} : after? p s = some rest ↔ s = p ++ rest := by
  constructor
  · intro h
    induction p generalizing s with
    | nil =>
      rw [after?, Option.some_inj] at h
      exact h
    | cons a p ih =>
      cases s with
      | nil => exact absurd h (by simp [after?])
      | cons b s =>
        rw [after?] at h
        by_cases hab : a = b
        · rw [if_pos hab] at h
          rw [ih h, hab, List.cons_append]
        · rw [if_neg hab] at h
          exact absurd h (by simp)
  · rintro rfl
    exact after?_append p rest

theorem after?_eq_none_of_forall {p s : List Char} (h : ∀ rest, s ≠ p ++ rest) :
    after? p s = none := by
  rw [Option.eq_none_iff_forall_not_mem]
  intro rest hrest
  exact h rest (after?_eq_some_iff.1 hrest)

theorem before?_eq_some_iff {p s front : List Char} :
    before? p s = some front ↔ s = front ++ p := by
  -- the end of a text is the start of the reversed one
  rw [before?, Option.map_eq_some_iff]
  constructor
  · rintro ⟨r, hr, rfl⟩
    rw [after?_eq_some_iff] at hr
    rw [← List.reverse_reverse s, hr, List.reverse_append, List.reverse_reverse]
  · rintro rfl
    exact ⟨front.reverse, by rw [List.reverse_append, after?_append], List.reverse_reverse front⟩

/-- The text is cut at an occurrence before which there is no other one. -/
theorem splitOnce?_eq_some_of_first {p a b : List Char}
    (h : ∀ a' b', a ++ (p ++ b) = a' ++ (p ++ b') → a.length ≤ a'.length) :
    splitOnce? p (a ++ (p ++ b)) = some (a, b) := by
  induction a with
  | nil =>
    rw [List.nil_append]
    cases hp : p ++ b with
    | nil =>
      obtain ⟨rfl, rfl⟩ := List.append_eq_nil_iff.1 hp
      rfl
    | cons c s => rw [splitOnce?, ← hp, after?_append]
  | cons c a ih =>
    -- an occurrence at the start would be an earlier one
    have hnone : after? p (c :: (a ++ (p ++ b))) = none := by
      refine after?_eq_none_of_forall fun rest heq => ?_
      have hle := h [] rest heq
      exact absurd hle (by simp)
    have hrest : splitOnce? p (a ++ (p ++ b)) = some (a, b) :=
      ih fun a' b' hab => by
        have hle := h (c :: a') b' (by rw [List.cons_append, List.cons_append, hab])
        simpa using hle
    rw [List.cons_append, splitOnce?, hnone, hrest]
    rfl

theorem splitOnce?_eq_none_of_forall {p s : List Char} (h : ∀ a b, s ≠ a ++ (p ++ b)) :
    splitOnce? p s = none := by
  induction s with
  | nil =>
    rw [splitOnce?, Option.map_eq_none_iff]
    exact after?_eq_none_of_forall fun rest => h [] rest
  | cons c s ih =>
    have hnone : after? p (c :: s) = none := after?_eq_none_of_forall fun rest => h [] rest
    have hrest : splitOnce? p s = none :=
      ih fun a b hab => h (c :: a) b (by rw [hab, List.cons_append])
    rw [splitOnce?, hnone, hrest]
    rfl

/-- A text is cut at the first occurrence of a character. -/
theorem splitOnce?_singleton {c : Char} {s a b : List Char} :
    splitOnce? [c] s = some (a, b) ↔ s = a ++ c :: b ∧ c ∉ a := by
  constructor
  · intro h
    induction s generalizing a with
    | nil => exact absurd h (by simp [splitOnce?, after?])
    | cons d s ih =>
      rw [splitOnce?, after?] at h
      by_cases hc : c = d
      · rw [if_pos hc, after?] at h
        cases h
        exact ⟨by rw [hc, List.nil_append], List.not_mem_nil⟩
      · rw [if_neg hc] at h
        obtain ⟨⟨a', b'⟩, hrest, heq⟩ := Option.map_eq_some_iff.1 h
        cases heq
        obtain ⟨rfl, hnot⟩ := ih hrest
        exact ⟨rfl, List.not_mem_cons_of_ne_of_not_mem hc hnot⟩
  · rintro ⟨rfl, hnot⟩
    refine splitOnce?_eq_some_of_first fun a' b' heq => ?_
    -- an earlier occurrence would lie in the part before this one
    by_contra hlt
    have hget := congrArg (·[a'.length]?) heq
    rw [List.getElem?_append_left (Nat.not_le.1 hlt), List.getElem?_append_right (Nat.le_refl _),
      Nat.sub_self] at hget
    exact hnot (List.mem_of_getElem? hget)

/-! ### Trimming -/

/-- What is left behind the characters of a class does not start with one of them. -/
theorem head?_dropWhile (p : Char → Bool) (s : List Char) :
    ∀ c ∈ (s.dropWhile p).head?, p c = false := by
  intro c hc
  have hnot := List.head?_dropWhile_not p s
  rw [hc] at hnot
  simpa using hnot

theorem dropWhile_eq_self {p : Char → Bool} {s : List Char}
    (h : ∀ c ∈ s.head?, p c = false) : s.dropWhile p = s := by
  cases s with
  | nil => rfl
  | cons c s => exact List.dropWhile_cons_of_neg (by simp [h c rfl])

/-- Dropping takes all of a class that stands in front, and nothing behind it. -/
theorem dropWhile_eq_iff {p : Char → Bool} {s t : List Char} : s.dropWhile p = t ↔
    (∃ front, s = front ++ t ∧ ∀ c ∈ front, p c = true) ∧ ∀ c ∈ t.head?, p c = false := by
  constructor
  · rintro rfl
    exact ⟨⟨s.takeWhile p, List.takeWhile_append_dropWhile.symm,
      fun c hc => List.mem_takeWhile_imp hc⟩, head?_dropWhile p s⟩
  · rintro ⟨⟨front, rfl, hfront⟩, hhead⟩
    rw [List.dropWhile_append_of_pos hfront, dropWhile_eq_self hhead]

/-- What is trimmed at the end ends before a character outside the class. -/
theorem trimEnd_append_cons {p : Char → Bool} {c : Char} (hc : p c = false) (a b : List Char) :
    trimEnd p (a ++ c :: b) = a ++ c :: trimEnd p b := by
  rw [trimEnd, List.reverse_append, List.reverse_cons, List.append_assoc, List.singleton_append,
    List.dropWhile_append]
  by_cases hb : (b.reverse.dropWhile p).isEmpty
  · rw [if_pos hb, List.dropWhile_cons_of_neg (by simp [hc]), trimEnd, List.isEmpty_iff.1 hb]
    simp
  · rw [if_neg hb, trimEnd]
    simp

/-- A text is its trimmed form and characters of the class behind it. -/
theorem exists_eq_trimEnd_append (p : Char → Bool) (s : List Char) :
    ∃ w, s = trimEnd p s ++ w ∧ ∀ c ∈ w, p c = true := by
  refine ⟨(s.reverse.takeWhile p).reverse, ?_, fun c hc => ?_⟩
  · rw [trimEnd, ← List.reverse_append, List.takeWhile_append_dropWhile, List.reverse_reverse]
  · exact List.mem_takeWhile_imp (List.mem_reverse.1 hc)

/-- A trimmed text does not end in a character of the class. -/
theorem getLast?_trimEnd (p : Char → Bool) (s : List Char) :
    ∀ c ∈ (trimEnd p s).getLast?, p c = false := by
  intro c hc
  rw [trimEnd, List.getLast?_reverse] at hc
  exact head?_dropWhile p s.reverse c hc

end Strongbox.Text
