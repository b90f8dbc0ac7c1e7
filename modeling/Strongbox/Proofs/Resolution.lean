/-
What a URL makes of a path of encoded segments.

A special URL takes a backslash for a slash, resolves dot segments, and encodes the rest
(`Path.normalize`).  Encoded segments need no further encoding and hide no points, so two things
are left to happen: segments are cut at backslashes, and what has become a dot segment by that
is resolved.

* `segments_eq_flatMap` — the segments of a path are cut once more at backslashes;
* `pieces_backslash_encodeSegment` — the encoding of segments leaves backslashes alone;
* `resolve_eq_append`, `mem_resolve` — resolving keeps segments, all of them if none is a dot
  segment;
* `decoded_normalize_iff` — the decoded path is the one that was meant exactly if no segment has
  a backslash.
-/
import Strongbox.Proofs.Authority
import Strongbox.Proofs.Paths

namespace Strongbox

namespace Percent

theorem encode_eq_self {keep : UInt8 → Bool} {s : List Char}
    (h : ∀ c ∈ s, c.toNat < 128 ∧ keep c.toNat.toUInt8 = true) : encode keep s = s := by
  induction s with
  | nil => rfl
  | cons c s ih =>
    obtain ⟨hlt, hkeep⟩ := h c List.mem_cons_self
    have hs := ih fun d hd => h d (List.mem_cons_of_mem c hd)
    rw [← List.singleton_append, encode_append, hs, encode_of_lt hlt, encodeByte, if_pos hkeep,
      ofNat_toNat_toUInt8 hlt]

/-- An escaped point is decoded to a point, with either letter. -/
theorem decode_point (s : List Char) :
    decode ('%' :: '2' :: 'e' :: s) = 0x2E :: decode s ∧
      decode ('%' :: '2' :: 'E' :: s) = 0x2E :: decode s := by
  have hsmall : pairValue? 0x32 0x65 = some 0x2E := by decide
  have hlarge : pairValue? 0x32 0x45 = some 0x2E := by decide
  constructor
  · show decodeBytes (0x25 :: 0x32 :: 0x65 :: Utf8.bytes s) = _
    rw [decodeBytes, if_pos rfl, hsmall]
    rfl
  · show decodeBytes (0x25 :: 0x32 :: 0x45 :: Utf8.bytes s) = _
    rw [decodeBytes, if_pos rfl, hlarge]
    rfl

end Percent

namespace Url.Path

open Endpoint (encodeSegment)

/-! ### Dot segments -/

/-- A segment that stands for points is decoded to them. -/
theorem decode_of_plainPoints {p t : List Char} (h : plainPoints p = t) (ht : ∀ c ∈ t, c = '.') :
    Percent.decode p = Utf8.bytes t := by
  -- an escaped point with either letter, any other character, and the end
  induction p using plainPoints.induct generalizing t with
  | case1 rest ih =>
    rw [plainPoints] at h
    subst h
    rw [(Percent.decode_point rest).1, ih rfl fun c hc => ht c (List.mem_cons_of_mem _ hc)]
    rfl
  | case2 rest ih =>
    rw [plainPoints] at h
    subst h
    rw [(Percent.decode_point rest).2, ih rfl fun c hc => ht c (List.mem_cons_of_mem _ hc)]
    rfl
  | case3 c rest _ _ ih =>
    rw [plainPoints] at h
    · subst h
      obtain rfl : c = '.' := ht c List.mem_cons_self
      have hrest := ih rfl fun d hd => ht d (List.mem_cons_of_mem _ hd)
      show Percent.decodeBytes (0x2E :: Utf8.bytes rest) = _
      rw [Percent.decodeBytes_cons_of_ne (by decide)]
      exact congrArg (0x2E :: ·) hrest
    all_goals assumption
  | case4 =>
    subst h
    rfl

/-- An encoded segment is a dot segment to a URL only if the segment is one. -/
theorem not_dot_encodeSegment {s : List Char} (h : Argument.isDotSegment s = false) :
    isSingleDot (encodeSegment s) = false ∧ isDoubleDot (encodeSegment s) = false := by
  -- what the encoded segment stands for, if that is all points, is the segment itself
  have hgen : ∀ t, (∀ c ∈ t, c = '.') → plainPoints (encodeSegment s) = t → s = t := by
    intro t ht hplain
    have hdecode := decode_of_plainPoints hplain ht
    rw [Endpoint.decode_encodeSegment] at hdecode
    exact Utf8.bytes_injective hdecode
  rw [Argument.isDotSegment, Bool.or_eq_false_iff, beq_eq_false_iff_ne, beq_eq_false_iff_ne] at h
  constructor
  · rw [isSingleDot, beq_eq_false_iff_ne]
    exact fun heq => h.1 (hgen ['.'] (by simp) heq)
  · rw [isDoubleDot, beq_eq_false_iff_ne]
    exact fun heq => h.2 (hgen ['.', '.'] (by simp) heq)

/-! ### Resolving -/

/-- Without dot segments there is nothing to resolve. -/
theorem resolve_eq_append {acc l : List (List Char)}
    (h : ∀ p ∈ l, isSingleDot p = false ∧ isDoubleDot p = false) :
    resolve acc l = acc.reverse ++ l := by
  induction l generalizing acc with
  | nil => rw [resolve, List.append_nil]
  | cons p l ih =>
    obtain ⟨hsingle, hdouble⟩ := h p List.mem_cons_self
    rw [resolve, hdouble, hsingle]
    simp only [Bool.false_eq_true, if_false]
    rw [ih fun q hq => h q (List.mem_cons_of_mem p hq), List.reverse_cons, List.append_assoc]
    rfl

theorem mem_parent {acc : List (List Char)} {p : List Char} (h : p ∈ parent acc) : p ∈ acc := by
  cases acc with
  | nil => exact h
  | cons s above =>
    rw [parent] at h
    split at h
    · exact h
    · exact List.mem_cons_of_mem s h

/-- A segment that remains is one of the path, or the empty one that a dot segment leaves at the
end. -/
theorem mem_resolve {acc l : List (List Char)} {p : List Char} (h : p ∈ resolve acc l) :
    p = [] ∨ p ∈ acc ∨ p ∈ l := by
  induction l generalizing acc with
  | nil => exact Or.inr (Or.inl (List.mem_reverse.1 h))
  | cons s rest ih =>
    -- what becomes of the segment, the stack gets no other one
    have hrest : ∀ {acc'}, (∀ q ∈ acc', q ∈ acc ∨ q = s) → p ∈ resolve acc' rest →
        p = [] ∨ p ∈ acc ∨ p ∈ s :: rest := by
      intro acc' hacc hp
      rcases ih hp with hp | hp | hp
      · exact Or.inl hp
      · rcases hacc p hp with hp | rfl
        · exact Or.inr (Or.inl hp)
        · exact Or.inr (Or.inr List.mem_cons_self)
      · exact Or.inr (Or.inr (List.mem_cons_of_mem s hp))
    rw [resolve] at h
    split at h
    · split at h
      · rcases List.mem_cons.1 (List.mem_reverse.1 h) with hp | hp
        · exact Or.inl hp
        · exact Or.inr (Or.inl (mem_parent hp))
      · exact hrest (fun q hq => Or.inl (mem_parent hq)) h
    · split at h
      · split at h
        · rcases List.mem_cons.1 (List.mem_reverse.1 h) with hp | hp
          · exact Or.inl hp
          · exact Or.inr (Or.inl hp)
        · exact hrest (fun q hq => Or.inl hq) h
      · refine hrest (fun q hq => ?_) h
        rcases List.mem_cons.1 hq with rfl | hq
        · exact Or.inr rfl
        · exact Or.inl hq

theorem resolve_ne_nil {acc l : List (List Char)} (h : l ≠ []) : resolve acc l ≠ [] := by
  induction l generalizing acc with
  | nil => exact absurd rfl h
  | cons s rest ih =>
    rw [resolve]
    split
    · split
      · rw [List.reverse_cons]
        exact List.concat_ne_nil [] _
      · next hrest => exact ih (by simpa using hrest)
    · split
      · split
        · rw [List.reverse_cons]
          exact List.concat_ne_nil [] _
        · next hrest => exact ih (by simpa using hrest)
      · by_cases hrest : rest = []
        · rw [hrest, resolve, List.reverse_cons]
          exact List.concat_ne_nil s _
        · exact ih hrest

/-! ### Backslashes -/

/-- The segments of a special path are cut at slashes, and once more at backslashes. -/
theorem segments_eq_flatMap (s : List Char) :
    segments true s = (Text.pieces '/' s).flatMap (Text.pieces '\\') := by
  rw [segments, if_pos rfl]
  induction s with
  | nil => rfl
  | cons c s ih =>
    obtain ⟨p, ps, hp⟩ := List.exists_cons_of_ne_nil (Text.pieces_ne_nil '/' s)
    rw [hp, List.flatMap_cons] at ih
    rw [List.map_cons]
    by_cases hslash : c = '/'
    · rw [hslash, if_neg (by decide), Text.pieces_cons_self, Text.pieces_cons_self, ih, hp]
      rfl
    · rw [Text.pieces_cons_of_ne hslash hp, List.flatMap_cons]
      by_cases hback : c = '\\'
      · rw [if_pos hback, hback, Text.pieces_cons_self, Text.pieces_cons_self, ih]
        rfl
      · -- any other character goes in front of the first piece of the first segment
        obtain ⟨q, qs, hq⟩ := List.exists_cons_of_ne_nil (Text.pieces_ne_nil '\\' p)
        rw [hq, List.cons_append] at ih
        rw [if_neg hback, Text.pieces_cons_of_ne hslash ih, Text.pieces_cons_of_ne hback hq,
          List.cons_append]

/-- A segment is cut at its backslashes before or after it is encoded. -/
theorem pieces_backslash_encodeSegment (s : List Char) :
    Text.pieces '\\' (encodeSegment s) = (Text.pieces '\\' s).map encodeSegment := by
  have hself : encodeSegment ['\\'] = ['\\'] := by decide
  have hother : ∀ c, c ≠ '\\' → '\\' ∉ encodeSegment [c] := by
    intro c hc hmem
    have hself := Percent.mem_of_mem_encode (by decide) (by decide) (by decide) hmem
    exact hc (List.mem_singleton.1 hself).symm
  have hmap : ∀ t, t.flatMap (fun c => encodeSegment [c]) = encodeSegment t := fun t =>
    (Percent.encode_eq_flatMap _ t).symm
  rw [← hmap, Text.pieces_flatMap hself hother]
  exact List.map_congr_left fun t _ => hmap t

theorem encode_encodeSegment (s : List Char) :
    Percent.encode isPathByte (encodeSegment s) = encodeSegment s := by
  have hall : ∀ n < 128, Endpoint.isPathChar (Char.ofNat n) = true →
      isPathByte (UInt8.ofNat n) = true := by decide +kernel
  refine Percent.encode_eq_self fun c hc => ?_
  have hpath := Endpoint.isPathChar_of_mem_encodeSegment hc
  have hlt : c.toNat < 128 := by
    simp only [Endpoint.isPathChar, Bool.and_eq_true, decide_eq_true_eq] at hpath
    omega
  refine ⟨hlt, hall c.toNat hlt ?_⟩
  rwa [Char.ofNat_toNat]

/-! ### Paths -/

variable {s : List Char} {names : List (List Char)}

/-- The segments of a special path, percent-encoded. -/
def encoded (s : List Char) : List (List Char) := (segments true s).map (Percent.encode isPathByte)

/-- Encoded segments are cut at backslashes, and need no further encoding. -/
theorem encoded_eq (h : Text.pieces '/' s = names.map encodeSegment) :
    encoded s = (names.flatMap (Text.pieces '\\')).map encodeSegment := by
  have hsegments : segments true s = (names.flatMap (Text.pieces '\\')).map encodeSegment := by
    rw [segments_eq_flatMap, h, List.flatMap_map, List.map_flatMap]
    exact List.flatMap_congr fun t _ => pieces_backslash_encodeSegment t
  rw [encoded, hsegments, List.map_map]
  exact List.map_congr_left fun t _ => encode_encodeSegment t

/-- Without backslashes nothing is cut. -/
theorem flatMap_pieces_eq_self (h : ∀ t ∈ names, '\\' ∉ t) :
    names.flatMap (Text.pieces '\\') = names := by
  rw [List.flatMap_congr fun t ht => Text.pieces_of_not_mem (h t ht)]
  exact List.flatMap_singleton' names

/-- The path of encoded segments: those are cut at backslashes, and dot segments resolved. -/
theorem normalize_eq (h : Text.pieces '/' s = names.map encodeSegment) :
    normalize true s = '/' :: Text.join '/'
      (resolve [] ((names.flatMap (Text.pieces '\\')).map encodeSegment)) := by
  rw [normalize, ← encoded, encoded_eq h]

theorem isPathChar_or_slash_of_mem_normalize (h : Text.pieces '/' s = names.map encodeSegment)
    {c : Char} (hc : c ∈ normalize true s) : Endpoint.isPathChar c = true ∨ c = '/' := by
  rw [normalize_eq h] at hc
  rcases List.mem_cons.1 hc with hc | hc
  · exact Or.inr hc
  · rcases Text.mem_join hc with hc | ⟨p, hp, hcp⟩
    · exact Or.inr hc
    · rcases mem_resolve hp with rfl | hp | hp
      · exact absurd hcp List.not_mem_nil
      · exact absurd hp List.not_mem_nil
      · obtain ⟨t, _, rfl⟩ := List.mem_map.1 hp
        exact Or.inl (Endpoint.isPathChar_of_mem_encodeSegment hcp)

/-- A path as segments of bytes: it starts with a slash, and its segments are decoded. -/
def decoded (path : List Char) : List (List UInt8) :=
  ((Text.pieces '/' path).drop 1).map Percent.decode

theorem decoded_normalize (h : Text.pieces '/' s = names.map encodeSegment) :
    decoded (normalize true s) =
      (resolve [] ((names.flatMap (Text.pieces '\\')).map encodeSegment)).map Percent.decode := by
  have hne : names ≠ [] := by
    rintro rfl
    exact Text.pieces_ne_nil '/' s h
  have hcut : (names.flatMap (Text.pieces '\\')).map encodeSegment ≠ [] := by
    obtain ⟨n, ns, rfl⟩ := List.exists_cons_of_ne_nil hne
    obtain ⟨p, ps, hp⟩ := List.exists_cons_of_ne_nil (Text.pieces_ne_nil '\\' n)
    rw [List.flatMap_cons, hp]
    exact List.cons_ne_nil _ _
  have hslash : ∀ p ∈ resolve [] ((names.flatMap (Text.pieces '\\')).map encodeSegment),
      '/' ∉ p := by
    intro p hp
    rcases mem_resolve hp with rfl | hp | hp
    · exact List.not_mem_nil
    · exact absurd hp List.not_mem_nil
    · obtain ⟨t, _, rfl⟩ := List.mem_map.1 hp
      exact Endpoint.not_slash_of_encodeSegment t
  rw [decoded, normalize_eq h, Text.pieces_cons_self, Text.pieces_join (resolve_ne_nil hcut) hslash]
  rfl

/-- **The decoded path is the one that was meant exactly if no segment has a backslash.** -/
theorem decoded_normalize_iff (h : Text.pieces '/' s = names.map encodeSegment)
    (hdot : ∀ t ∈ names, Argument.isDotSegment t = false) :
    decoded (normalize true s) = names.map Utf8.bytes ↔ ∀ t ∈ names, '\\' ∉ t := by
  rw [decoded_normalize h]
  constructor
  · intro heq t ht hback
    -- the bytes of the segment would be those of one without backslashes
    have hmem : Utf8.bytes t ∈
        (resolve [] ((names.flatMap (Text.pieces '\\')).map encodeSegment)).map Percent.decode := by
      rw [heq]
      exact List.mem_map_of_mem ht
    obtain ⟨p, hp, hbytes⟩ := List.mem_map.1 hmem
    rcases mem_resolve hp with rfl | hp | hp
    · have hnil : t = [] := Utf8.bytes_injective (hbytes.symm.trans rfl)
      rw [hnil] at hback
      exact absurd hback List.not_mem_nil
    · exact absurd hp List.not_mem_nil
    · obtain ⟨q, hq, rfl⟩ := List.mem_map.1 hp
      obtain ⟨n, _, hq⟩ := List.mem_flatMap.1 hq
      rw [Endpoint.decode_encodeSegment] at hbytes
      exact Text.not_mem_of_mem_pieces hq (Utf8.bytes_injective hbytes ▸ hback)
  · intro hback
    -- without dot segments nothing is resolved
    have hnodot : ∀ p ∈ names.map encodeSegment, isSingleDot p = false ∧ isDoubleDot p = false := by
      intro p hp
      obtain ⟨t, ht, rfl⟩ := List.mem_map.1 hp
      exact not_dot_encodeSegment (hdot t ht)
    rw [flatMap_pieces_eq_self hback, resolve_eq_append hnodot, List.reverse_nil, List.nil_append,
      List.map_map]
    exact List.map_congr_left fun t _ => Endpoint.decode_encodeSegment t

end Url.Path
end Strongbox
