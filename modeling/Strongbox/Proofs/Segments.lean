/-
The path of a name is a code for the segments of the name.

The segments are said here by splitting alone, without the functions that make a path: those of a
name (`Endpoint.nameSegments`) are what stands between its slashes and is not empty.  A path is read
back by splitting it at its slashes and decoding every part.

* `Text.pieces_eq_splitOn` — the pieces of a text are its parts in the sense of the library;
* `splitOn_encodePath` — the parts of a path are the encoded segments of its name;
* `encodePath_append` — two paths with a slash between them are the path of both names;
* `encodePath_code` — what is read back, what a path is made of, and when two names share one.
-/
import Strongbox.Proofs.Paths

namespace Strongbox

namespace Text

/-- The pieces of a text are its parts in the sense of the library. -/
theorem pieces_eq_splitOn (sep : Char) (s : List Char) : pieces sep s = s.splitOn sep := by
  induction s with
  | nil => rfl
  | cons c s ih =>
    rw [List.splitOn_cons_eq_if_modifyHead, ← ih]
    by_cases hc : c = sep
    · rw [if_pos (beq_iff_eq.2 hc), hc, pieces_cons_self]
    · obtain ⟨p, ps, hp⟩ := List.exists_cons_of_ne_nil (pieces_ne_nil sep s)
      rw [if_neg (by simpa using hc), hp, pieces_cons_of_ne hc hp, List.modifyHead_cons]

/-- Pieces that are put together one after the other are put together in two parts. -/
theorem join_append {sep : Char} {ps qs : List (List Char)} (hps : ps ≠ []) (hqs : qs ≠ []) :
    join sep (ps ++ qs) = join sep ps ++ sep :: join sep qs := by
  induction ps with
  | nil => exact absurd rfl hps
  | cons p ps ih =>
    cases ps with
    | nil => exact join_cons_of_ne_nil p hqs
    | cons q ps =>
      have hrest : q :: ps ≠ [] := List.cons_ne_nil q ps
      rw [List.cons_append, join_cons_of_ne_nil p (List.append_ne_nil_of_left_ne_nil hrest qs),
        ih hrest, join_cons_of_ne_nil p hrest, List.append_assoc, List.cons_append]

end Text

namespace Endpoint

/-- The segments of a name: what stands between its slashes and is not empty. -/
def nameSegments (name : String) : List (List Char) :=
  (name.toList.splitOn '/').filter fun segment => !segment.isEmpty

variable {s t : String}

theorem segments_toList (s : String) : segments s.toList = nameSegments s := by
  rw [segments, Text.pieces_eq_splitOn, nameSegments]

/-- The parts of a path are the encoded segments of its name. -/
theorem splitOn_encodePath (h : nameSegments s ≠ []) :
    (encodePath s).toList.splitOn '/' = (nameSegments s).map encodeSegment := by
  rw [← segments_toList] at h
  rw [← Text.pieces_eq_splitOn, pieces_encodePath h, segments_toList]

theorem encodePath_ne_empty_iff : encodePath s ≠ "" ↔ nameSegments s ≠ [] := by
  constructor
  · intro h hnone
    exact h (encodePath_eq_empty ((segments_toList s).trans hnone))
  · intro h hempty
    -- a path that is empty has the one part that is empty, and no segment is encoded so
    have hparts := splitOn_encodePath h
    rw [hempty] at hparts
    have hmem : [] ∈ (nameSegments s).map encodeSegment := hparts ▸ List.mem_singleton_self []
    obtain ⟨seg, hseg, hnil⟩ := List.mem_map.1 hmem
    exact encodeSegment_ne_nil (by simpa using (List.mem_filter.1 hseg).2) hnil

/-- A part of a path, and the segment that it is the code of. -/
theorem exists_of_mem_splitOn (h : encodePath s ≠ "") {p : List Char}
    (hp : p ∈ (encodePath s).toList.splitOn '/') :
    ∃ seg ∈ nameSegments s, seg ≠ [] ∧ p = encodeSegment seg := by
  rw [splitOn_encodePath (encodePath_ne_empty_iff.1 h)] at hp
  obtain ⟨seg, hseg, rfl⟩ := List.mem_map.1 hp
  exact ⟨seg, hseg, by simpa using (List.mem_filter.1 hseg).2, rfl⟩

/-- Every part of a path read back is the segment that it is the code of. -/
theorem map_decode_splitOn_encodePath (h : nameSegments s ≠ []) :
    ((encodePath s).toList.splitOn '/').map (fun p => Utf8.read? (Percent.decode p)) =
      (nameSegments s).map some := by
  rw [splitOn_encodePath h, List.map_map]
  refine List.map_congr_left fun seg _ => ?_
  rw [Function.comp_apply, decode_encodeSegment, Utf8.read?_bytes]

/-- Outside its slashes a path holds printable characters that a URL gives no meaning. -/
theorem isPathChar_of_mem_encodePath {c : Char} (h : c ∈ (encodePath s).toList) :
    c = '/' ∨ isPathChar c = true := by
  rw [toList_encodePath] at h
  rcases Text.mem_join h with h | ⟨p, hp, hc⟩
  · exact Or.inl h
  · obtain ⟨seg, -, rfl⟩ := List.mem_map.1 hp
    exact Or.inr (isPathChar_of_mem_encodeSegment hc)

/-- A part of a path is a dot segment only if it stands in the name as it is. -/
theorem mem_nameSegments_of_dot (h : encodePath s ≠ "") {p : List Char}
    (hp : p ∈ (encodePath s).toList.splitOn '/') (hdot : Argument.isDotSegment p = true) :
    p ∈ nameSegments s := by
  obtain ⟨seg, hseg, -, rfl⟩ := exists_of_mem_splitOn h hp
  rw [isDotSegment_encodeSegment, Argument.isDotSegment, Bool.or_eq_true, beq_iff_eq,
    beq_iff_eq] at hdot
  have hself : encodeSegment seg = seg := by
    rcases hdot with rfl | rfl
    · decide
    · decide
  rwa [hself]

/-- A path neither starts nor ends with a slash. -/
theorem ne_slash_of_ends (s : String) :
    (encodePath s).toList.head? ≠ some '/' ∧ (encodePath s).toList.getLast? ≠ some '/' := by
  have hempty : ∀ p, (encodePath s).toList = p → p ≠ [] → [] ∉ p.splitOn '/' := by
    rintro p rfl hne hmem
    have hpath : encodePath s ≠ "" := fun h => hne (by rw [h]; rfl)
    obtain ⟨seg, -, hseg, hnil⟩ := exists_of_mem_splitOn hpath hmem
    exact encodeSegment_ne_nil hseg hnil.symm
  constructor
  · intro h
    obtain ⟨rest, hrest⟩ := List.head?_eq_some_iff.1 h
    refine hempty _ hrest (List.cons_ne_nil '/' rest) ?_
    rw [← Text.pieces_eq_splitOn, Text.pieces_cons_self]
    exact List.mem_cons_self
  · intro h
    obtain ⟨front, hfront⟩ := List.getLast?_eq_some_iff.1 h
    refine hempty _ hfront (List.concat_ne_nil '/' front) ?_
    rw [← Text.pieces_eq_splitOn, Text.pieces_append_cons]
    exact List.mem_append_right _ List.mem_cons_self

/-- Two names have one path exactly if they have the same segments. -/
theorem encodePath_eq_iff_nameSegments : encodePath s = encodePath t ↔
    nameSegments s = nameSegments t := by
  rw [encodePath_eq_iff, segments_toList, segments_toList]

/-- Two paths with a slash between them are the path of both names. -/
theorem encodePath_append (hs : encodePath s ≠ "") (ht : encodePath t ≠ "") :
    encodePath (s ++ "/" ++ t) = encodePath s ++ "/" ++ encodePath t := by
  rw [encodePath_ne_empty_iff, ← segments_toList] at hs ht
  have hboth : (s ++ "/" ++ t).toList = s.toList ++ '/' :: t.toList := by
    simp only [String.toList_append, List.append_assoc]
    rfl
  refine String.toList_inj.1 ?_
  calc (encodePath (s ++ "/" ++ t)).toList
      = Text.join '/' ((segments s.toList ++ segments t.toList).map encodeSegment) := by
        rw [toList_encodePath, hboth, segments_append_cons]
    _ = (encodePath s).toList ++ '/' :: (encodePath t).toList := by
        rw [List.map_append, Text.join_append (by simpa using hs) (by simpa using ht),
          toList_encodePath, toList_encodePath]
    _ = (encodePath s ++ "/" ++ encodePath t).toList := by
        simp only [String.toList_append, List.append_assoc]
        rfl

/-- **A path is a code for segments.**  Split at its slashes and with every part decoded, the path of
a name gives the segments of the name, and it is empty if there are none.  It is printable ASCII
without the characters that a URL gives a meaning, a percent sign apart that starts an escape; it
has no slash at an end and no empty part, and dot segments only where the name has them.  So two
names have one path exactly if they have the same segments, and paths are put together as names
are. -/
theorem encodePath_code (s : String) :
    (nameSegments s ≠ [] →
      ((encodePath s).toList.splitOn '/').map (fun p => Utf8.read? (Percent.decode p)) =
        (nameSegments s).map some) ∧
    (nameSegments s = [] ↔ encodePath s = "") ∧
    (∀ c ∈ (encodePath s).toList,
      0x20 < c.toNat ∧ c.toNat < 0x7F ∧ c ∉ "\"<>\x60#?\x7b\x7d".toList) ∧
    (encodePath s ≠ "" → ∀ p ∈ (encodePath s).toList.splitOn '/',
      p ≠ [] ∧ Percent.WellEscaped p ∧ (p = ['.'] ∨ p = ['.', '.'] → p ∈ nameSegments s)) ∧
    (encodePath s).toList.head? ≠ some '/' ∧ (encodePath s).toList.getLast? ≠ some '/' ∧
    ∀ t : String, (encodePath s = encodePath t ↔ nameSegments s = nameSegments t) ∧
      (encodePath s ≠ "" → encodePath t ≠ "" →
        encodePath (s ++ "/" ++ t) = encodePath s ++ "/" ++ encodePath t) := by
  have hends := ne_slash_of_ends s
  refine ⟨map_decode_splitOn_encodePath, ?_, fun c hc => ?_, fun hne p hp => ⟨?_, ?_, ?_⟩, hends.1,
    hends.2, fun t => ⟨encodePath_eq_iff_nameSegments, encodePath_append⟩⟩
  · exact (not_iff_not.1 encodePath_ne_empty_iff).symm
  · rcases isPathChar_of_mem_encodePath hc with rfl | h
    · decide
    · simp only [isPathChar, Bool.and_eq_true, decide_eq_true_eq, Bool.not_eq_true'] at h
      obtain ⟨⟨hlow, hhigh⟩, hnot⟩ := h
      refine ⟨hlow, hhigh, fun hmem => ?_⟩
      rw [List.contains_eq_mem, decide_eq_false_iff_not] at hnot
      exact hnot (List.mem_append_left ['/'] hmem)
  · obtain ⟨seg, -, hseg, rfl⟩ := exists_of_mem_splitOn hne hp
    exact encodeSegment_ne_nil hseg
  · obtain ⟨seg, -, -, rfl⟩ := exists_of_mem_splitOn hne hp
    exact Percent.wellEscaped_encode isClear_isSegmentByte seg
  · intro hdot
    refine mem_nameSegments_of_dot hne hp ?_
    rw [Argument.isDotSegment, Bool.or_eq_true, beq_iff_eq, beq_iff_eq]
    exact hdot

/-- A name with a blank and a percent sign, slashes at its start and an empty segment. -/
theorem encodePath_code_oddName :
    ((encodePath "//team//50% off").toList.splitOn '/').map
        (fun p => Utf8.read? (Percent.decode p)) =
      ["team".toList, "50% off".toList].map some ∧
    encodePath ("//team//50% off" ++ "/" ++ "é/") =
      encodePath "//team//50% off" ++ "/" ++ encodePath "é/" := by
  have hodd : nameSegments "//team//50% off" = ["team".toList, "50% off".toList] := by
    rw [← segments_toList]
    decide
  have hletter : nameSegments "é/" = ["é".toList] := by
    rw [← segments_toList]
    decide
  obtain ⟨hread, -, -, -, -, -, happend⟩ := encodePath_code "//team//50% off"
  refine ⟨?_, (happend "é/").2 (encodePath_ne_empty_iff.2 ?_) (encodePath_ne_empty_iff.2 ?_)⟩
  · rw [hread (by rw [hodd]; exact List.cons_ne_nil _ _), hodd]
  · rw [hodd]
    exact List.cons_ne_nil _ _
  · rw [hletter]
    exact List.cons_ne_nil _ _

end Endpoint
end Strongbox
