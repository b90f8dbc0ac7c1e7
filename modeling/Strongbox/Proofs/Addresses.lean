/-
Addresses that a request can be put behind.

An address is kept as text.  The URL of a request is that text, `/v1/` and a path, read anew: what
the address ends in decides where the added text goes.  `Url.EndsInPath` says that the path comes
last in an address, and ends in a segment; then, and only then, requests land below it.

* `Path.normalize_append_cons` — of a path with more behind it remains what is `kept`, and then what
  was added;
* `Path.trimEnd_normalize_iff` — when the path itself is what is kept, slashes at its end apart;
* `Url.extended` — the ways in which an address goes on;
* `Url.exists_goesOn_iff` — it goes on with its path exactly if it ends in that;
* `Transport.lands_iff` — a request lands below the address exactly if that ends in its path.
-/
import Strongbox.Proofs.Placement

namespace Strongbox

namespace Text

variable {c : Char} {s : List Char}

theorem trimEnd_eq_self_iff : trimEnd (· == c) s = s ↔ s.getLast? ≠ some c := by
  rw [trimEnd, List.reverse_eq_iff, ← List.head?_reverse]
  constructor
  · intro h hc
    have hnot := head?_dropWhile (· == c) s.reverse c (by rw [h, hc]; rfl)
    simp at hnot
  · intro h
    refine dropWhile_eq_self fun d hd => ?_
    rw [beq_eq_false_iff_ne]
    rintro rfl
    exact h hd

theorem trimEnd_concat : trimEnd (· == c) (s ++ [c]) = trimEnd (· == c) s := by
  rw [trimEnd, List.reverse_append, List.reverse_singleton, List.singleton_append,
    List.dropWhile_cons_of_pos (p := (· == c)) (beq_self_eq_true c), trimEnd]

theorem length_trimEnd_le (p : Char → Bool) (s : List Char) : (trimEnd p s).length ≤ s.length := by
  obtain ⟨w, hw, -⟩ := exists_eq_trimEnd_append p s
  have hlength := congrArg List.length hw
  rw [List.length_append] at hlength
  omega

theorem pair_suffix_concat_iff : [c, c] <:+ s ++ [c] ↔ s.getLast? = some c := by
  constructor
  · rintro ⟨t, ht⟩
    have hs : t ++ [c] ++ [c] = s ++ [c] := by
      rw [List.append_assoc]
      exact ht
    rw [← List.append_cancel_right hs, List.getLast?_concat]
  · intro h
    obtain ⟨t, rfl⟩ := List.getLast?_eq_some_iff.1 h
    exact ⟨t, by rw [List.append_assoc]; rfl⟩

theorem getLast?_of_pair_suffix (h : [c, c] <:+ s) : s.getLast? = some c := by
  obtain ⟨t, rfl⟩ := h
  rw [List.append_cons, List.getLast?_concat]

end Text

namespace Url.Path

/-! ### Resolving one part after the other -/

/-- Is the segment a dot segment? -/
def isDots (s : List Char) : Bool := isDoubleDot s || isSingleDot s

/-- What remains, the last one first, of the segments so far and one that is not the last. -/
def push (acc : List (List Char)) (s : List Char) : List (List Char) :=
  if isDoubleDot s then parent acc else if isSingleDot s then acc else s :: acc

theorem push_of_not_isDots {s : List Char} (h : isDots s = false) (acc : List (List Char)) :
    push acc s = s :: acc := by
  rw [isDots, Bool.or_eq_false_iff] at h
  rw [push, h.1, h.2]
  rfl

/-- Segments in front of others are resolved first. -/
theorem resolve_append {m : List (List Char)} (hm : m ≠ []) (acc l : List (List Char)) :
    resolve acc (l ++ m) = resolve (l.foldl push acc) m := by
  induction l generalizing acc with
  | nil => rfl
  | cons s l ih =>
    have hne : (l ++ m).isEmpty = false := by simp [hm]
    rw [List.foldl_cons, ← ih, List.cons_append, resolve, hne, push]
    simp only [Bool.false_eq_true, if_false]
    split
    · rfl
    · split <;> rfl

/-- The last segment leaves an empty one behind if it is a dot segment. -/
theorem resolve_concat (acc l : List (List Char)) (s : List Char) :
    resolve acc (l ++ [s]) =
      ((l ++ [s]).foldl push acc).reverse ++ if isDots s then [[]] else [] := by
  rw [resolve_append (List.cons_ne_nil s []), List.foldl_append, List.foldl_cons, List.foldl_nil,
    resolve, isDots, push, List.isEmpty_nil]
  cases isDoubleDot s with
  | true => rw [if_pos rfl, if_pos rfl, if_pos rfl, List.reverse_cons]; rfl
  | false =>
    cases isSingleDot s with
    | true => simp
    | false => simp [resolve]

/-! ### What is kept of a path -/

/-- Segments, each with a slash in front of it. -/
def slashed (l : List (List Char)) : List Char := l.flatMap fun s => '/' :: s

theorem slashed_append (l m : List (List Char)) : slashed (l ++ m) = slashed l ++ slashed m :=
  List.flatMap_append

theorem cons_join {l : List (List Char)} (h : l ≠ []) : '/' :: Text.join '/' l = slashed l := by
  induction l with
  | nil => exact absurd rfl h
  | cons s l ih =>
    cases l with
    | nil => exact (List.append_nil _).symm
    | cons r l =>
      rw [Text.join_cons_of_ne_nil s (List.cons_ne_nil r l), ih (List.cons_ne_nil r l)]
      rfl

/-- What is kept of a path of these segments if something stands behind it. -/
def kept (l : List (List Char)) : List Char := slashed (l.foldl push []).reverse

theorem encoded_ne_nil (s : List Char) : encoded s ≠ [] := by
  rw [encoded, segments, Ne, List.map_eq_nil_iff]
  exact Text.pieces_ne_nil _ _

theorem normalize_eq_slashed (s : List Char) :
    normalize true s = slashed (resolve [] (encoded s)) := by
  rw [normalize, ← encoded, cons_join (resolve_ne_nil (encoded_ne_nil s))]

theorem encoded_append_cons (s t : List Char) :
    encoded (s ++ '/' :: t) = encoded s ++ encoded t := by
  rw [encoded, segments, if_pos rfl, List.map_append, List.map_cons, if_neg (by decide),
    Text.pieces_append_cons, List.map_append]
  rfl

/-- Of a path with more behind it remains what is kept, and then what was added, if that has no dot
segment. -/
theorem normalize_append_cons {t : List Char} (ht : ∀ p ∈ encoded t, isDots p = false)
    (s : List Char) : normalize true (s ++ '/' :: t) = kept (encoded s) ++ normalize true t := by
  have hdots : ∀ p ∈ encoded t, isSingleDot p = false ∧ isDoubleDot p = false := fun p hp =>
    (Bool.or_eq_false_iff.1 (ht p hp)).symm
  rw [normalize_eq_slashed, encoded_append_cons, resolve_append (encoded_ne_nil t),
    resolve_eq_append hdots, slashed_append, normalize_eq_slashed, resolve_eq_append hdots]
  rfl

/-! ### Paths that are kept whole -/

/-- The segments of a path behind a slash, and of the path with a text without slashes behind it. -/
theorem exists_encoded {w : List Char} (hw : ∀ c ∈ w, isSlash c = false) (s : List Char) :
    ∃ l z, encoded s = l ++ [Percent.encode isPathByte z] ∧
      encoded (s ++ w) = l ++ [Percent.encode isPathByte (z ++ w)] ∧ '/' ∉ z ∧
      ∀ c, isSlash c = true → (z = [] ↔ ∃ d ∈ (c :: s).getLast?, isSlash d = true) := by
  have hne : ∀ c ∈ w, c ≠ '/' ∧ c ≠ '\\' := by
    intro c hc
    simpa [isSlash] using hw c hc
  have hself : w.map (fun c => if c = '\\' then '/' else c) = w := by
    refine (List.map_congr_left fun c hc => ?_).trans (List.map_id w)
    rw [if_neg (hne c hc).2, id]
  have hslash : ∀ c : Char, (if c = '\\' then '/' else c) = '/' ↔ isSlash c = true := by
    intro c
    by_cases hc : c = '\\' <;> simp [isSlash, hc]
  obtain ⟨ps, z, hs, hsw⟩ := Text.pieces_append_of_not_mem (fun h => (hne '/' h).1 rfl)
    (s.map fun c => if c = '\\' then '/' else c)
  refine ⟨ps.map (Percent.encode isPathByte), z, ?_, ?_, ?_, fun c hc =>
    (Text.last_piece_eq_nil_iff hs).trans ?_⟩
  · rw [encoded, segments, if_pos rfl, hs, List.map_append, List.map_singleton]
  · rw [encoded, segments, if_pos rfl, List.map_append, hself, hsw, List.map_append,
      List.map_singleton]
  · exact Text.not_mem_of_mem_pieces (hs ▸ List.mem_append_right ps (List.mem_singleton_self z))
  · have hmap : '/' :: s.map (fun c => if c = '\\' then '/' else c) =
        (c :: s).map fun c => if c = '\\' then '/' else c := by
      rw [List.map_cons, (hslash c).2 hc]
    rw [hmap, List.getLast?_map, Option.map_eq_some_iff]
    simp only [hslash, Option.mem_def]

/-- What is kept of a path that ends in a segment. -/
theorem kept_concat {s : List Char} (h : isDots s = false) (l : List (List Char)) :
    kept (l ++ [s]) = kept l ++ '/' :: s := by
  rw [kept, List.foldl_append, List.foldl_cons, List.foldl_nil, push_of_not_isDots h,
    List.reverse_cons, slashed_append, ← kept]
  exact congrArg (kept l ++ '/' :: ·) (List.append_nil s)

/-- The slashes at the end of a path apart, it is what is kept of it exactly if it ends in a
segment, and in no two slashes if that was a dot segment. -/
theorem trimEnd_normalize_iff {c : Char} (hc : isSlash c = true) (s : List Char) :
    Text.trimEnd (· == '/') (normalize true s) = kept (encoded s) ↔
      (∀ d ∈ (c :: s).getLast?, isSlash d = false) ∧ ¬ ['/', '/'] <:+ normalize true s := by
  obtain ⟨l, z, hs, -, hslash, hnil⟩ := exists_encoded (w := []) (by simp) s
  have hlast : (∀ d ∈ (c :: s).getLast?, isSlash d = false) ↔ z ≠ [] := by
    rw [Ne, hnil c hc]
    simp
  rw [hlast, normalize_eq_slashed, hs, resolve_concat, slashed_append, ← kept]
  cases hdots : isDots (Percent.encode isPathByte z) with
  | true =>
    -- the empty segment behind a dot segment is trimmed, and nothing else may be
    have hz : z ≠ [] := by
      rintro rfl
      exact absurd hdots (by decide)
    show Text.trimEnd (· == '/') (kept _ ++ ['/']) = _ ↔ _ ∧ ¬ _ <:+ kept _ ++ ['/']
    rw [Text.trimEnd_concat, Text.trimEnd_eq_self_iff, Text.pair_suffix_concat_iff,
      and_iff_right hz]
  | false =>
    show Text.trimEnd (· == '/') (kept _ ++ []) = _ ↔ _ ∧ ¬ _ <:+ kept _ ++ []
    rw [List.append_nil, Text.trimEnd_eq_self_iff, kept_concat hdots]
    by_cases hz : z = []
    · subst hz
      exact iff_of_false (fun h => h List.getLast?_concat) fun h => h.1 rfl
    · obtain ⟨t, d, hd⟩ := (List.eq_nil_or_concat _).resolve_left (Percent.encode_ne_nil hz)
      rw [List.concat_eq_append] at hd
      have hne : (kept l ++ '/' :: Percent.encode isPathByte z).getLast? ≠ some '/' := by
        rw [hd, ← List.cons_append, ← List.append_assoc, List.getLast?_concat, Ne,
          Option.some_inj]
        rintro rfl
        have hmem : '/' ∈ Percent.encode isPathByte z := by
          rw [hd]
          exact List.mem_append_right t (List.mem_singleton_self _)
        exact hslash (Percent.mem_of_mem_encode (by decide) (by decide) (by decide) hmem)
      exact iff_of_true hne ⟨hz, fun htwo => hne (Text.getLast?_of_pair_suffix htwo)⟩

/-! ### Padding behind a path -/

theorem mem_plainPoints {d : Char} (hd : d ∉ ['%', '2', 'e', 'E']) {s : List Char} (h : d ∈ s) :
    d ∈ plainPoints s := by
  induction s using plainPoints.induct with
  | case1 rest ih =>
    rw [plainPoints]
    exact List.mem_cons_of_mem _ (ih (by simp_all))
  | case2 rest ih =>
    rw [plainPoints]
    exact List.mem_cons_of_mem _ (ih (by simp_all))
  | case3 c rest _ _ ih =>
    rw [plainPoints]
    · rcases List.mem_cons.1 h with rfl | h
      · exact List.mem_cons_self
      · exact List.mem_cons_of_mem c (ih h)
    all_goals assumption
  | case4 => exact absurd h List.not_mem_nil

/-- Padding is escaped, so a segment with padding in it is no dot segment. -/
theorem isDots_append_padding {c : Char} (hc : isPadding c = true) (s w : List Char) :
    isDots (Percent.encode isPathByte (s ++ c :: w)) = false := by
  -- the first digit of the escape is `0` or `1`, or the second one is
  have hdigit : (Percent.encode isPathByte [c]).any
      (fun d => !List.contains ['%', '2', 'e', 'E', '.'] d) = true :=
    forall_isPadding (P := fun c => (Percent.encode isPathByte [c]).any _ = true) (by decide) hc
  obtain ⟨d, hd, hnot⟩ := List.any_eq_true.1 hdigit
  replace hnot : d ∉ ['%', '2', 'e', 'E', '.'] := by simpa using hnot
  have hmem : d ∈ plainPoints (Percent.encode isPathByte (s ++ c :: w)) := by
    refine mem_plainPoints (fun h => hnot (by simp_all)) ?_
    rw [List.append_cons, Percent.encode_append, Percent.encode_append]
    exact List.mem_append_left _ (List.mem_append_right _ hd)
  have hpoint : ∀ t, (∀ e ∈ t, e = '.') →
      plainPoints (Percent.encode isPathByte (s ++ c :: w)) ≠ t := by
    rintro t ht rfl
    obtain rfl := ht d hmem
    exact hnot (by decide)
  rw [isDots, isDoubleDot, isSingleDot, Bool.or_eq_false_iff, beq_eq_false_iff_ne,
    beq_eq_false_iff_ne]
  exact ⟨hpoint _ (by simp), hpoint _ (by simp)⟩

theorem length_slashed_parent_le (acc : List (List Char)) :
    (slashed (parent acc).reverse).length ≤ (slashed acc.reverse).length := by
  cases acc with
  | nil => exact Nat.le_refl _
  | cons s above =>
    rw [parent]
    split
    · exact Nat.le_refl _
    · rw [List.reverse_cons, slashed_append, List.length_append]
      exact Nat.le_add_right _ _

theorem length_normalize_le {s z : List Char} {l : List (List Char)} (h : encoded s = l ++ [z]) :
    (normalize true s).length ≤ (kept l).length + 1 + z.length := by
  rw [normalize_eq_slashed, h, resolve_concat, slashed_append, List.length_append, ← kept]
  cases hdots : isDots z with
  | true =>
    -- a dot segment adds a slash, and it may take a segment away
    have hpush : (kept (l ++ [z])).length ≤ (kept l).length := by
      rw [kept, List.foldl_append, List.foldl_cons, List.foldl_nil, push]
      split
      · exact length_slashed_parent_le _
      · next hdouble =>
        rw [isDots, Bool.eq_false_of_not_eq_true hdouble, Bool.false_or] at hdots
        rw [if_pos hdots]
        exact Nat.le_refl _
    have hone : (slashed (if true then [[]] else [])).length = 1 := rfl
    omega
  | false =>
    have hnone : (slashed (if false then [[]] else [])).length = 0 := rfl
    rw [kept_concat hdots, List.length_append, List.length_cons]
    omega

/-- Behind padding a path is not kept: its last segment has become a longer one. -/
theorem trimEnd_normalize_ne {c : Char} {w : List Char} (hw : ∀ d ∈ c :: w, isPadding d = true)
    (s : List Char) :
    Text.trimEnd (· == '/') (normalize true s) ≠ kept (encoded (s ++ c :: w)) := by
  have hslash : ∀ d ∈ c :: w, isSlash d = false := fun d hd =>
    forall_isPadding (P := fun d => isSlash d = false) (by decide) (hw d hd)
  obtain ⟨l, z, hs, hsw, -, -⟩ := exists_encoded hslash s
  intro heq
  have hlength := congrArg List.length heq
  rw [hsw, kept_concat (isDots_append_padding (hw c List.mem_cons_self) z w), List.length_append,
    List.length_cons, Percent.encode_append, List.length_append] at hlength
  have htrim := Text.length_trimEnd_le (· == '/') (normalize true s)
  have hle := length_normalize_le hs
  have hne : Percent.encode isPathByte (c :: w) ≠ [] :=
    Percent.encode_ne_nil (List.cons_ne_nil c w)
  have hpos := List.length_pos_iff.2 hne
  omega

/-- With padding or without it behind it, a path is what is kept exactly if it ends in a segment,
and in no two slashes if that was a dot segment. -/
theorem trimEnd_normalize_append_iff {c : Char} {s w : List Char} (hc : isSlash c = true)
    (hw : ∀ d ∈ w, isPadding d = true) (hs : ∀ d ∈ (c :: s).getLast?, isPadding d = false) :
    Text.trimEnd (· == '/') (normalize true s) = kept (encoded (s ++ w)) ↔
      (∀ d ∈ (c :: s ++ w).getLast?, isPadding d = false ∧ isSlash d = false) ∧
        ¬ ['/', '/'] <:+ normalize true s := by
  rcases List.eq_nil_or_concat w with rfl | ⟨t, e, rfl⟩
  · rw [List.append_nil, List.append_nil, trimEnd_normalize_iff hc]
    exact and_congr_left fun _ =>
      ⟨fun h d hd => ⟨hs d hd, h d hd⟩, fun h d hd => (h d hd).2⟩
  · rw [List.concat_eq_append] at hw ⊢
    obtain ⟨d, w', heq⟩ := List.exists_cons_of_ne_nil (List.concat_ne_nil e t)
    refine iff_of_false ?_ fun h => ?_
    · rw [heq] at hw ⊢
      exact trimEnd_normalize_ne hw s
    · have hlast := (h.1 e (by rw [← List.append_assoc, List.getLast?_concat]; rfl)).1
      rw [hw e (List.mem_append_right t (List.mem_singleton_self e))] at hlast
      exact absurd hlast (by decide)

end Url.Path

namespace Url

/-! ### Addresses with more behind them -/

/-- The last character of an address that counts, where it stands or at its end. -/
def last? (s : List Char) : Option Char := (s.filter fun c => !isSkipped c).getLast?

/-- How an address goes on when a slash and a text are put behind it: behind its authority, or
behind what has come after that, with the padding at the end of the address in front of the slash.
An authority with padding behind it is refused. -/
inductive Extended (s t : List Char) (u : Url) : Prop
  | bare {scheme : List Char} {a : Authority} (hs : isSpecial scheme = true)
    (hlast : ∀ c ∈ last? s, isPadding c = false ∧ isSlash c = false)
    (hu : u = withAuthority scheme a [])
    (hv : parse (s ++ '/' :: t) = .ok (withAuthority scheme a ('/' :: t)))
  | refused {c : Char} (hlast : last? s = some c) (hc : isPadding c = true)
    (hv : ∀ v, parse (s ++ '/' :: t) ≠ .ok v)
  | behind {scheme : List Char} {a : Authority} {c : Char} {y w : List Char}
    (hs : isSpecial scheme = true) (hc : endsAuthority true c = true)
    (hw : ∀ d ∈ w, isPadding d = true) (hlast : last? s = (c :: y ++ w).getLast?)
    (hplain : ∀ d ∈ (c :: y).getLast?, isPadding d = false)
    (hu : u = withAuthority scheme a (c :: y))
    (hv : parse (s ++ '/' :: t) = .ok (withAuthority scheme a (c :: (y ++ (w ++ '/' :: t)))))

theorem suffix_of_scheme? {s scheme rest : List Char} (h : scheme? s = some (scheme, rest)) :
    rest <:+ s := by
  rw [scheme?.eq_def] at h
  split at h
  · next c s' =>
    split at h
    · split at h
      · next r hr =>
        obtain rfl := (Prod.mk.inj (Option.some_inj.1 h)).2
        exact (List.suffix_cons ':' _).trans (hr ▸ List.dropWhile_suffix _)
      · exact absurd h (by simp)
    · exact absurd h (by simp)
  · exact absurd h (by simp)

/-- A cleaned text does not end in padding. -/
theorem getLast?_clean (s : List Char) : ∀ c ∈ (clean s).getLast?, isPadding c = false := by
  intro c hc
  rw [clean, Text.trimBoth] at hc
  have hlast := Text.getLast?_trimEnd isPadding (s.dropWhile isPadding)
  rcases List.eq_nil_or_concat (Text.trimEnd isPadding (s.dropWhile isPadding)) with
    hnil | ⟨t, d, hd⟩
  · rw [hnil] at hc
    exact absurd hc (by simp)
  · rw [List.concat_eq_append] at hd
    rw [hd, List.getLast?_concat] at hlast
    have hplain : isPadding d = false := hlast d rfl
    have hkeep : [d].filter (fun c => !isSkipped c) = [d] :=
      filter_isSkipped_eq_self fun e he => by rwa [List.mem_singleton.1 he]
    rw [hd, List.filter_append, hkeep, List.getLast?_concat] at hc
    obtain rfl := Option.some_inj.1 hc
    exact hplain

/-- An address goes on in one of these ways. -/
theorem extended {s t : List Char} {u : Url} (hu : parse s = .ok u) (hweb : u.IsWeb)
    (ht : cleanEnd t = t) : Extended s t u := by
  obtain ⟨scheme, rest, a, r, front, w, hscheme, hs, ha, rfl, hw, hfront, hparse⟩ :=
    parse_append hu hweb
  have hv := hparse t
  rw [ht] at hv
  obtain ⟨front', hclean⟩ := (List.dropWhile_suffix isSlash).trans (suffix_of_scheme? hscheme)
  have hne : rest.dropWhile isSlash ≠ [] := by
    intro hnil
    rw [hnil] at ha
    exact authority_nil hs _ ha
  generalize rest.dropWhile isSlash = b at ha hv hclean hne
  -- the address ends as its authority and what follows that do
  have hlast : last? s = (b ++ w).getLast? := by
    rw [last?, hfront, ← hclean, List.append_assoc, ← List.append_assoc,
      List.getLast?_append_of_ne_nil _ (by simp [hne])]
  have hplain : ∀ c ∈ b.getLast?, isPadding c = false := by
    intro c hc
    refine getLast?_clean s c ?_
    rwa [← hclean, List.getLast?_append_of_ne_nil _ hne]
  -- the address ends in its authority, or something has ended that
  by_cases hb : InAuthority b
  · have hnil := authority_append hs hb behindAuthority_nil
    rw [List.append_nil, ha] at hnil
    obtain rfl : r = [] := (Prod.mk.inj (Except.ok.inj hnil)).2
    rcases List.eq_nil_or_concat w with rfl | ⟨w', z, rfl⟩
    · refine .bare hs (fun c hc => ?_) rfl ?_
      · rw [hlast, List.append_nil] at hc
        refine ⟨hplain c hc, ?_⟩
        have hinner := hb c (List.mem_of_getLast? hc)
        simp only [endsAuthority, Bool.or_eq_false_iff, Bool.true_and] at hinner
        rw [isSlash, hinner.1.1.1, hinner.2, Bool.or_false]
      · rw [hv, List.nil_append, authority_append hs hb (behindAuthority_cons rfl t), ha]
        rfl
    · rw [List.concat_eq_append] at hw hlast hv
      rw [← List.append_assoc, List.getLast?_concat] at hlast
      have hpadding := hw z (List.mem_append_right _ (List.mem_singleton_self z))
      refine .refused hlast hpadding fun v hok => ?_
      rw [hv] at hok
      obtain ⟨p, hp, -⟩ := Results.map_eq_ok.1 hok
      exact authority_padding hs hb hw t p hp
  · obtain ⟨x, c, y, rfl, hx, hc⟩ := exists_of_not_inAuthority hb
    rw [authority_append hs hx (behindAuthority_cons hc _)] at ha
    obtain ⟨p, hp, heq⟩ := Results.map_eq_ok.1 ha
    obtain ⟨rfl, rfl⟩ := Prod.mk.inj heq
    refine .behind hs hc hw ?_ (fun d hd => hplain d ?_) rfl ?_
    · rw [hlast, List.append_assoc, List.getLast?_append_of_ne_nil _ (by simp)]
    · rwa [List.getLast?_append_of_ne_nil _ (List.cons_ne_nil c y)]
    · rw [hv, List.append_assoc, List.cons_append,
        authority_append hs hx (behindAuthority_cons hc _), hp]
      rfl

/-- What stands behind a mark is no path. -/
theorem withAuthority_of_mark (scheme : List Char) (a : Authority) {p : List Char} {m : Char}
    (hp : ∀ d ∈ p, endsPath d = false) (hm : endsPath m = true) (q : List Char) :
    (withAuthority scheme a (p ++ m :: q)).path = pathAfterHost (isSpecial scheme) p ∧
      ((withAuthority scheme a (p ++ m :: q)).query ≠ none ∨
        (withAuthority scheme a (p ++ m :: q)).fragment ≠ none) := by
  have hhead : ∀ d ∈ (m :: q).head?, (!endsPath d) = false := by
    intro d hd
    obtain rfl : m = d := Option.some_inj.1 hd
    rw [hm]
    rfl
  have hall : ∀ d ∈ p, (!endsPath d) = true := fun d hd => by rw [hp d hd]; rfl
  have htake : (p ++ m :: q).takeWhile (fun d => !endsPath d) = p := by
    rw [Text.takeWhile_append_of_head hhead, List.takeWhile_eq_self_iff.2 hall]
  have hdrop : (p ++ m :: q).dropWhile (fun d => !endsPath d) = m :: q := by
    rw [Text.dropWhile_append_of_head hhead, List.dropWhile_eq_nil_iff.2 hall, List.nil_append]
  refine ⟨congrArg (pathAfterHost (isSpecial scheme)) htake, ?_⟩
  show (tailParts _ ((p ++ m :: q).dropWhile fun d => !endsPath d)).1 ≠ none ∨
    (tailParts _ ((p ++ m :: q).dropWhile fun d => !endsPath d)).2 ≠ none
  rw [hdrop]
  have hmark : m = '?' ∨ m = '#' := by simpa [endsPath] using hm
  rcases hmark with rfl | rfl
  · refine .inl ?_
    rw [tailParts]
    split <;> simp
  · exact .inr (by simp [tailParts])

/-- The path comes last in an address, and it ends in a segment: nothing but the path is behind the
authority, the last character that counts is one of a segment, and dot segments have left no empty
segment there. -/
structure EndsInPath (s : List Char) (u : Url) : Prop where
  query : u.query = none
  fragment : u.fragment = none
  last : ∀ c ∈ last? s, isPadding c = false ∧ isSlash c = false
  segment : ¬ ['/', '/'] <:+ u.path

/-- A text that stays as it is behind a slash in a path. -/
structure IsKept (text : List Char) : Prop where
  plain : ∀ d ∈ text, isPadding d = false ∧ endsPath d = false
  not_dots : ∀ p ∈ Path.encoded text, Path.isDots p = false
  normalize : Path.normalize true text = '/' :: text
  exists_ne : ∃ d ∈ text, d ≠ '/'

/-- Does a URL go on where another one ends, the slashes there apart, with a slash and this text? -/
def GoesOn (u v : Url) (text : List Char) : Prop :=
  v.query = none ∧ v.path = Text.trimEnd (· == '/') u.path ++ '/' :: text

section GoesOn

variable {scheme s text y w : List Char} {c : Char} {u : Url}

/-- A path with slashes at its end is not one with more than slashes there. -/
theorem IsKept.ne_trimEnd_append (ht : IsKept text) (p : List Char) :
    p ≠ Text.trimEnd (· == '/') p ++ '/' :: text := by
  intro heq
  obtain ⟨w, hw, hall⟩ := Text.exists_eq_trimEnd_append (· == '/') p
  obtain rfl : w = '/' :: text := List.append_cancel_left (hw.symm.trans heq)
  obtain ⟨d, hd, hne⟩ := ht.exists_ne
  exact hne (by simpa using hall d (List.mem_cons_of_mem '/' hd))

/-- Behind the authority a URL goes on. -/
theorem IsKept.goesOn_bare (ht : IsKept text) (hs : isSpecial scheme = true) (a : Authority) :
    (withAuthority scheme a []).path = ['/'] ∧
      GoesOn (withAuthority scheme a []) (withAuthority scheme a ('/' :: text)) text := by
  have hroot : (withAuthority scheme a []).path = ['/'] := by
    show pathAfterHost (isSpecial scheme) [] = ['/']
    rw [pathAfterHost, hs]
    rfl
  obtain ⟨hpath, hquery, -⟩ := path_withAuthority (c := '/') hs rfl a fun d hd => (ht.plain d hd).2
  refine ⟨hroot, hquery, ?_⟩
  rw [hpath, ht.normalize, hroot]
  rfl

/-- Behind a path a URL goes on exactly if that ends in a segment. -/
theorem IsKept.goesOn_path_iff (ht : IsKept text) (hs : isSpecial scheme = true)
    (hc : isSlash c = true) (a : Authority) (hy : ∀ d ∈ y, endsPath d = false)
    (hw : ∀ d ∈ w, isPadding d = true) (hplain : ∀ d ∈ (c :: y).getLast?, isPadding d = false)
    (hlast : last? s = (c :: y ++ w).getLast?) :
    GoesOn (withAuthority scheme a (c :: y))
        (withAuthority scheme a (c :: (y ++ (w ++ '/' :: text)))) text ↔
      EndsInPath s (withAuthority scheme a (c :: y)) := by
  have hall : ∀ d ∈ y ++ (w ++ '/' :: text), endsPath d = false := by
    intro d hd
    simp only [List.mem_append, List.mem_cons] at hd
    rcases hd with hd | hd | rfl | hd
    · exact hy d hd
    · exact forall_isPadding (P := fun d => endsPath d = false) (by decide) (hw d hd)
    · rfl
    · exact (ht.plain d hd).2
  obtain ⟨hupath, huquery, hufragment⟩ := path_withAuthority hs hc a hy
  obtain ⟨hvpath, hvquery, -⟩ := path_withAuthority hs hc a hall
  -- the path goes on with what is kept of it, so nothing of it may be lost
  rw [GoesOn, hvquery, hvpath, ← List.append_assoc, Path.normalize_append_cons ht.not_dots,
    ht.normalize, List.append_left_inj, hupath, eq_comm (a := Path.kept _),
    Path.trimEnd_normalize_append_iff hc hw hplain, ← hlast, ← hupath]
  exact ⟨fun h => ⟨huquery, hufragment, h.2.1, h.2.2⟩, fun h => ⟨rfl, h.last, h.segment⟩⟩

/-- Behind a mark a URL goes on, but not its path. -/
theorem IsKept.not_goesOn_of_mark (ht : IsKept text) (a : Authority)
    (hy : ¬ ∀ d ∈ y, endsPath d = false) :
    ¬ GoesOn (withAuthority scheme a y) (withAuthority scheme a (y ++ (w ++ '/' :: text))) text ∧
      ¬ EndsInPath s (withAuthority scheme a y) := by
  obtain ⟨p, m, q, rfl, hp, hm⟩ := Text.exists_first hy
  obtain ⟨hupath, huparts⟩ := withAuthority_of_mark scheme a hp hm q
  obtain ⟨hvpath, -⟩ := withAuthority_of_mark scheme a hp hm (q ++ (w ++ '/' :: text))
  refine ⟨fun h => ?_, fun h => ?_⟩
  · have hpath := h.2
    rw [List.append_assoc, List.cons_append, hvpath, ← hupath] at hpath
    exact ht.ne_trimEnd_append _ hpath
  · exact huparts.elim (fun hne => hne h.query) fun hne => hne h.fragment

/-- Behind what has come after the authority a URL goes on exactly if that ends in a path. -/
theorem IsKept.goesOn_behind_iff (ht : IsKept text) (hs : isSpecial scheme = true)
    (hc : endsAuthority true c = true) (a : Authority) (hw : ∀ d ∈ w, isPadding d = true)
    (hplain : ∀ d ∈ (c :: y).getLast?, isPadding d = false)
    (hlast : last? s = (c :: y ++ w).getLast?) :
    GoesOn (withAuthority scheme a (c :: y))
        (withAuthority scheme a (c :: (y ++ (w ++ '/' :: text)))) text ↔
      EndsInPath s (withAuthority scheme a (c :: y)) := by
  by_cases hmark : ∀ d ∈ c :: y, endsPath d = false
  · have hplain' := hmark c List.mem_cons_self
    simp only [endsPath, Bool.or_eq_false_iff] at hplain'
    have hslash : isSlash c = true := by
      simpa [endsAuthority, isSlash, hplain'.1, hplain'.2] using hc
    exact ht.goesOn_path_iff hs hslash a (fun d hd => hmark d (List.mem_cons_of_mem c hd)) hw hplain
      hlast
  · obtain ⟨hgoes, hends⟩ := ht.not_goesOn_of_mark a hmark
    exact iff_of_false hgoes hends

end GoesOn

/-- With a slash and a text behind it an address is a URL that goes on where that of the address
ends exactly if the address ends in its path. -/
theorem exists_goesOn_iff {s text : List Char} {u : Url} (hu : parse s = .ok u) (hweb : u.IsWeb)
    (ht : IsKept text) :
    (∃ v, parse (s ++ '/' :: text) = .ok v ∧ GoesOn u v text) ↔ EndsInPath s u := by
  cases extended hu hweb (cleanEnd_eq_self fun d hd => (ht.plain d hd).1) with
  | @bare scheme a hs hlast hu hv =>
    obtain ⟨hroot, hgoes⟩ := ht.goesOn_bare hs a
    rw [hu]
    exact iff_of_true ⟨_, hv, hgoes⟩ ⟨rfl, rfl, hlast, by rw [hroot]; decide⟩
  | refused hlast hpadding hv =>
    refine iff_of_false (fun h => ?_) fun h => ?_
    · obtain ⟨v, hok, -⟩ := h
      exact hv v hok
    · exact absurd (h.last _ hlast).1 (by simp [hpadding])
  | @behind scheme a c y w hs hend hw hlast hplain hu hv =>
    rw [hu, ← ht.goesOn_behind_iff hs hend a hw hplain hlast, hv]
    simp

end Url

/-! ### Requests -/

namespace Endpoint

/-- May the character stand in a plain name? -/
def IsPlainChar (c : Char) : Prop := c.isAlphanum = true ∨ c = '-' ∨ c = '_'

/-- Is the path made of names, between slashes, of letters, digits, hyphens and underscores? -/
def IsPlainPath (path : String) : Prop :=
  ∃ names, names ≠ [] ∧ path.toList = Text.join '/' names ∧
    ∀ name ∈ names, name ≠ [] ∧ ∀ c ∈ name, IsPlainChar c

theorem lt_of_isAlphanum {c : Char} (h : c.isAlphanum = true) : c.toNat < 128 := by
  have hlt : ∀ n : UInt32, n.toNat < 128 → c.val ≤ n → c.toNat < 128 := fun n hn hle =>
    Nat.lt_of_le_of_lt (UInt32.le_iff_toNat_le.1 hle) hn
  rcases Bool.or_eq_true_iff.1 h with halpha | hdigit
  · rcases Bool.or_eq_true_iff.1 halpha with hupper | hlower
    · exact hlt 'Z'.val (by decide) (of_decide_eq_true hupper).2
    · exact hlt 'z'.val (by decide) (of_decide_eq_true (Bool.and_eq_true_iff.1 hlower).2)
  · exact hlt '9'.val (by decide) (of_decide_eq_true (Bool.and_eq_true_iff.1 hdigit).2)

theorem IsPlainChar.facts {c : Char} (h : IsPlainChar c) :
    c.toNat < 128 ∧ isSegmentByte c.toNat.toUInt8 = true ∧ c ≠ '/' ∧ c ≠ '\\' ∧ c ≠ '.' := by
  have hlt : c.toNat < 128 := by
    rcases h with h | rfl | rfl
    · exact lt_of_isAlphanum h
    · decide
    · decide
  have hall : ∀ n < 128, (Char.ofNat n).isAlphanum = true ∨ Char.ofNat n = '-' ∨
      Char.ofNat n = '_' → isSegmentByte n.toUInt8 = true ∧ Char.ofNat n ≠ '/' ∧
        Char.ofNat n ≠ '\\' ∧ Char.ofNat n ≠ '.' := by decide +kernel
  have hfacts := hall c.toNat hlt
  rw [Char.ofNat_toNat] at hfacts
  exact ⟨hlt, hfacts h⟩

/-- A plain path leads to the place of its names. -/
theorem IsPlainPath.leadsTo {path : String} (h : IsPlainPath path) :
    ∃ place, LeadsTo path place ∧ ∀ name ∈ place, '\\' ∉ name := by
  obtain ⟨names, hne, hpath, hplain⟩ := h
  have hfacts : ∀ name ∈ names, ∀ c ∈ name, _ := fun name hname c hc =>
    ((hplain name hname).2 c hc).facts
  have hself : names.map encodeSegment = names := by
    refine (List.map_congr_left fun name hname => ?_).trans (List.map_id names)
    exact Percent.encode_eq_self fun c hc =>
      ⟨(hfacts name hname c hc).1, (hfacts name hname c hc).2.1⟩
  refine ⟨names, ⟨?_, fun name hname => ?_, fun name hname => ?_⟩, fun name hname hmem => ?_⟩
  · rw [hpath, hself]
    exact Text.pieces_join hne fun name hname hmem => (hfacts name hname '/' hmem).2.2.1 rfl
  · -- a name has a character, and no point
    obtain ⟨c, rest, rfl⟩ := List.exists_cons_of_ne_nil (hplain name hname).1
    have hpoint : c ≠ '.' := (hfacts _ hname c List.mem_cons_self).2.2.2.2
    simp [Argument.isDotSegment, hpoint]
  · exact (hplain name (List.mem_of_mem_head? hname)).1
  · exact (hfacts name hname '\\' hmem).2.2.2.1 rfl

namespace LeadsTo

variable {path : String} {place : List (List Char)}

/-- A path without backslashes is read as it stands. -/
theorem isKept (h : LeadsTo path place) (hback : ∀ name ∈ place, '\\' ∉ name) :
    Url.IsKept ("v1/".toList ++ path.toList) := by
  have hback' : ∀ name ∈ "v1".toList :: place, '\\' ∉ name := by
    intro name hname
    rcases List.mem_cons.1 hname with rfl | hname
    · decide
    · exact hback name hname
  have hdot : ∀ p ∈ ("v1".toList :: place).map encodeSegment,
      Url.Path.isSingleDot p = false ∧ Url.Path.isDoubleDot p = false := by
    intro p hp
    obtain ⟨name, hname, rfl⟩ := List.mem_map.1 hp
    refine Url.Path.not_dot_encodeSegment ?_
    rcases List.mem_cons.1 hname with rfl | hname
    · decide
    · exact h.not_dot name hname
  refine ⟨fun d hd => h.plain_of_mem hd, fun p hp => ?_, ?_,
    'v', List.mem_append_left _ (by decide), by decide⟩
  · rw [Url.Path.encoded_eq h.pieces_cons, Url.Path.flatMap_pieces_eq_self hback'] at hp
    obtain ⟨hsingle, hdouble⟩ := hdot p hp
    rw [Url.Path.isDots, hsingle, hdouble]
    rfl
  · rw [Url.Path.normalize_eq h.pieces_cons, Url.Path.flatMap_pieces_eq_self hback',
      Url.Path.resolve_eq_append hdot, List.reverse_nil, List.nil_append, ← h.pieces_cons,
      Text.join_pieces]

end LeadsTo

end Endpoint

namespace Transport

open Url (EndsInPath)
open Wire.Standard (bare)

/-- Does a request with this path land below the address?  Its URL is one, and asks for the path of
the address without slashes at its end, `/v1/` and the path, and for nothing else. -/
def Lands (t : Transport) (u : Url) (path : String) : Prop :=
  ∃ v, Url.parse (t.urlText path) = .ok v ∧ v.query = none ∧
    v.target = Text.trimEnd (· == '/') u.path ++ '/' :: ("v1/".toList ++ path.toList)

variable {settings : Settings} {t : Transport} {u : Url} {path : String}
  {place : List (List Char)}

/-- A request whose path leads to a place without backslashes lands below the address exactly if
that ends in its path. -/
theorem lands_iff_of_leadsTo (hc : settings.toConfig = .ok t.config)
    (hu : Url.parse settings.trimmedAddress = .ok u) (hpath : Endpoint.LeadsTo path place)
    (hback : ∀ name ∈ place, '\\' ∉ name) :
    t.Lands u path ↔ EndsInPath settings.trimmedAddress u := by
  obtain ⟨u', _, _, haddress, hcheck, _⟩ := Settings.toConfig_eq_ok hc
  obtain rfl : u' = u := Except.ok.inj ((Settings.parse_of_parseAddress haddress).symm.trans hu)
  rw [← Url.exists_goesOn_iff hu (Settings.isWeb_of_checkUrl hcheck) (hpath.isKept hback), Lands,
    urlText_eq hc, hpath.dropWhile_slash]
  -- without a query the target is the path
  refine exists_congr fun v => and_congr_right fun _ => and_congr_right fun hquery => ?_
  rw [Url.target, hquery, Url.marked, List.append_nil]

/-- **A request lands below its address exactly if that ends in its path.**  The address is one that
was accepted, and the path is any that is made of plain names. -/
theorem lands_iff (hc : settings.toConfig = .ok t.config) :
    ∃ u, Url.parse settings.trimmedAddress = .ok u ∧
      ∀ path, Endpoint.IsPlainPath path →
        (t.Lands u path ↔ EndsInPath settings.trimmedAddress u) := by
  obtain ⟨u, _, _, haddress, -⟩ := Settings.toConfig_eq_ok hc
  have hu := Settings.parse_of_parseAddress haddress
  refine ⟨u, hu, fun path hplain => ?_⟩
  obtain ⟨place, hleads, hback⟩ := hplain.leadsTo
  exact lands_iff_of_leadsTo hc hu hleads hback

/-- An address whose path ends in a dot segment. -/
def dottedSettings : Settings :=
  (Settings.new "http://127.0.0.1:8200/a/b/..").withCredential (.token "t")

theorem isPlainPath_health : Endpoint.IsPlainPath "sys/health" := by
  refine ⟨["sys".toList, "health".toList], by simp, by decide, ?_⟩
  simp [Endpoint.IsPlainChar]

/-- What is resolved away at the end of an address does no harm. -/
theorem lands_iff_dottedSettings :
    ∃ c, dottedSettings.toConfig = .ok c ∧ Endpoint.IsPlainPath "sys/health" ∧
      ∃ u, Url.parse dottedSettings.trimmedAddress = .ok u ∧ u.path = "/a/".toList ∧
        EndsInPath dottedSettings.trimmedAddress u ∧
          (Transport.mk c bare).Lands u "sys/health" := by
  obtain ⟨c, hc⟩ : ∃ c, dottedSettings.toConfig = .ok c := ⟨_, rfl⟩
  obtain ⟨u, hu, hlands⟩ := lands_iff (t := ⟨c, bare⟩) hc
  have hlast : Url.last? dottedSettings.trimmedAddress = some '.' := by decide
  obtain ⟨v, hv, hpath, hends⟩ : ∃ v, Url.parse dottedSettings.trimmedAddress = .ok v ∧
      v.path = "/a/".toList ∧ EndsInPath dottedSettings.trimmedAddress v := by
    refine ⟨_, rfl, by decide, rfl, rfl, fun c hc => ?_, by decide⟩
    obtain rfl : '.' = c := Option.some_inj.1 (hlast.symm.trans hc)
    decide
  obtain rfl : v = u := Except.ok.inj (hv.symm.trans hu)
  exact ⟨c, hc, isPlainPath_health, v, hu, hpath, hends, (hlands _ isPlainPath_health).2 hends⟩

/-- An address with a query. -/
def queriedSettings : Settings :=
  (Settings.new "https://vault.example?region=eu").withCredential (.token "t")

/-- An address with a query is accepted, and a request becomes a part of that query. -/
theorem not_lands_queriedSettings :
    ∃ c u v, queriedSettings.toConfig = .ok c ∧ Url.parse queriedSettings.trimmedAddress = .ok u ∧
      Endpoint.IsPlainPath "sys/health" ∧
      Url.parse ((Transport.mk c bare).urlText "sys/health") = .ok v ∧
      v.path = "/".toList ∧ v.query = some "region=eu/v1/sys/health".toList ∧
      ¬ (Transport.mk c bare).Lands u "sys/health" := by
  obtain ⟨c, hc⟩ : ∃ c, queriedSettings.toConfig = .ok c := ⟨_, rfl⟩
  obtain ⟨u, hu⟩ : ∃ u, Url.parse queriedSettings.trimmedAddress = .ok u := ⟨_, rfl⟩
  obtain ⟨v, hv, hpath, hquery⟩ : ∃ v,
      Url.parse ((Transport.mk c bare).urlText "sys/health") = .ok v ∧ v.path = "/".toList ∧
        v.query = some "region=eu/v1/sys/health".toList := by
    rw [urlText_eq (t := ⟨c, bare⟩) hc]
    exact ⟨_, rfl, by decide, by decide⟩
  refine ⟨c, u, v, hc, hu, isPlainPath_health, hv, hpath, hquery, fun hlands => ?_⟩
  obtain ⟨v', hv', hnone, -⟩ := hlands
  obtain rfl : v = v' := Except.ok.inj (hv.symm.trans hv')
  rw [hquery] at hnone
  exact absurd hnone (by simp)

end Transport
end Strongbox
