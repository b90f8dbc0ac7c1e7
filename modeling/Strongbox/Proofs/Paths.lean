/-
Names of places and the paths they are encoded as.

A name counts by its segments between slashes that are not empty (`Endpoint.segments`):
* `segments_trimSlashes` — slashes at its ends do not count;
* `pieces_encodePath` — its path has exactly these segments, each encoded;
* `isPathChar_of_mem_encodeSegment` — an encoded segment holds nothing that a URL treats as
  special, the backslash apart;
* `encodePath_eq_iff` — two names have one path exactly if they have the same segments.

An argument that is accepted is a name with at least one segment and without dot segments
(`Argument.Accepted`), and is accepted again as it stands (`require_of_require`).
-/
import Strongbox.Argument
import Strongbox.Endpoint
import Strongbox.Proofs.Percent
import Strongbox.Proofs.Pieces

namespace Strongbox

namespace Text

/-! ### Trimming slashes -/

theorem trimBoth_trimBoth (p : Char → Bool) (s : List Char) :
    trimBoth p (trimBoth p s) = trimBoth p s := by
  have hend : ∀ u, trimEnd p (trimEnd p u) = trimEnd p u := by
    intro u
    rw [trimEnd, trimEnd, List.reverse_reverse, List.dropWhile_idempotent]
  -- what is left starts outside the class, so only its end could be trimmed again
  have hhead : ∀ c ∈ (trimEnd p (s.dropWhile p)).head?, p c = false := by
    intro c hc
    obtain ⟨w, hw, _⟩ := exists_eq_trimEnd_append p (s.dropWhile p)
    have hfirst : (s.dropWhile p).head? = some c := by
      rw [hw, List.head?_append, hc, Option.some_or]
    exact head?_dropWhile p s c hfirst
  rw [trimBoth, trimBoth, dropWhile_eq_self hhead, hend]

end Text

namespace Endpoint

/-! ### Segments of a name -/

theorem mem_segments {s seg : List Char} :
    seg ∈ segments s ↔ seg ∈ Text.pieces '/' s ∧ seg ≠ [] := by
  rw [segments, List.mem_filter]
  simp

theorem segments_append_cons (a b : List Char) :
    segments (a ++ '/' :: b) = segments a ++ segments b := by
  rw [segments, Text.pieces_append_cons, List.filter_append, segments, segments]

theorem segments_cons_slash (s : List Char) : segments ('/' :: s) = segments s :=
  segments_append_cons [] s

theorem segments_eq_nil_iff {s : List Char} : segments s = [] ↔ ∀ c ∈ s, c = '/' := by
  constructor
  · intro h c hc
    by_contra hne
    -- some piece holds the character, and that piece is a segment
    have hjoin := Text.join_pieces '/' s
    rw [← hjoin] at hc
    rcases Text.mem_join hc with hc | ⟨p, hp, hcp⟩
    · exact hne hc
    · have hseg : p ∈ segments s := mem_segments.2 ⟨hp, List.ne_nil_of_mem hcp⟩
      rw [h] at hseg
      exact List.not_mem_nil hseg
  · intro h
    induction s with
    | nil => rfl
    | cons c s ih =>
      rw [h c List.mem_cons_self, segments_cons_slash]
      exact ih fun d hd => h d (List.mem_cons_of_mem c hd)

theorem segments_trimSlashes (s : List Char) : segments (Text.trimSlashes s) = segments s := by
  have hstart : segments (s.dropWhile (· == '/')) = segments s := by
    induction s with
    | nil => rfl
    | cons c s ih =>
      by_cases hc : c = '/'
      · rw [hc, List.dropWhile_cons_of_pos (by decide), ih, segments_cons_slash]
      · rw [List.dropWhile_cons_of_neg (by simpa using hc)]
  obtain ⟨w, hw, hall⟩ := Text.exists_eq_trimEnd_append (· == '/') (s.dropWhile (· == '/'))
  -- the slashes at the end are a text without segments
  have hend : segments (s.dropWhile (· == '/')) = segments (Text.trimSlashes s) := by
    rw [Text.trimSlashes, Text.trimBoth]
    cases w with
    | nil => rw [List.append_nil] at hw; rw [← hw]
    | cons c w =>
      have hc : c = '/' := by simpa using hall c List.mem_cons_self
      have hslashes : segments w = [] :=
        segments_eq_nil_iff.2 fun d hd => by simpa using hall d (List.mem_cons_of_mem c hd)
      rw [hc] at hw
      rw [congrArg segments hw, segments_append_cons, hslashes, List.append_nil]
  rw [← hend, hstart]

/-! ### Encoded segments -/

/-- May the character stand in a path that is sent?  All printable ASCII characters may, but
the blank and those that a URL gives a meaning. -/
def isPathChar (c : Char) : Bool :=
  0x20 < c.toNat && c.toNat < 0x7F && !"\"<>\x60#?\x7b\x7d/".toList.contains c

theorem isClear_isSegmentByte : Percent.IsClear isSegmentByte :=
  Percent.forall_byte (by decide +kernel)

/-- An encoded segment holds nothing that a URL treats as special. -/
theorem isPathChar_of_mem_encodeSegment {s : List Char} {c : Char} (h : c ∈ encodeSegment s) :
    isPathChar c = true := by
  have hbyte : ∀ n < 128, isSegmentByte (UInt8.ofNat n) = true →
      isPathChar (Char.ofNat n) = true := by decide +kernel
  have hhex : "0123456789ABCDEF".toList.all isPathChar = true := by decide
  rcases Percent.mem_encode h with ⟨b, hb, rfl⟩ | rfl | hc
  · refine hbyte b.toNat (isClear_isSegmentByte b hb).1 ?_
    rwa [UInt8.ofNat_toNat]
  · decide
  · exact List.all_eq_true.1 hhex c (List.contains_iff_mem.1 hc)

theorem ne_slash_of_isPathChar {c : Char} (h : isPathChar c = true) : c ≠ '/' := by
  rintro rfl
  exact absurd h (by decide)

theorem not_slash_of_encodeSegment (s : List Char) : '/' ∉ encodeSegment s := fun h =>
  ne_slash_of_isPathChar (isPathChar_of_mem_encodeSegment h) rfl

theorem decode_encodeSegment (s : List Char) :
    Percent.decode (encodeSegment s) = Utf8.bytes s :=
  Percent.decode_encode isClear_isSegmentByte s

theorem encodeSegment_injective {s t : List Char} (h : encodeSegment s = encodeSegment t) :
    s = t :=
  Percent.encode_injective isClear_isSegmentByte h

theorem encodeSegment_ne_nil {s : List Char} (h : s ≠ []) : encodeSegment s ≠ [] := fun hs =>
  h (encodeSegment_injective (hs.trans rfl))

/-- A segment is encoded as a dot segment only if it is one. -/
theorem isDotSegment_encodeSegment (s : List Char) :
    Argument.isDotSegment (encodeSegment s) = Argument.isDotSegment s := by
  have hone : encodeSegment ['.'] = ['.'] := by decide
  have htwo : encodeSegment ['.', '.'] = ['.', '.'] := by decide
  have hiff : ∀ t, encodeSegment t = t → ((encodeSegment s == t) = (s == t)) := by
    intro t ht
    rw [Bool.eq_iff_iff, beq_iff_eq, beq_iff_eq]
    exact ⟨fun h => encodeSegment_injective (h.trans ht.symm), fun h => by rw [h, ht]⟩
  rw [Argument.isDotSegment, hiff _ hone, hiff _ htwo, Argument.isDotSegment]

/-! ### Paths -/

theorem toList_encodePath (name : String) :
    (encodePath name).toList = Text.join '/' ((segments name.toList).map encodeSegment) := by
  rw [encodePath, String.toList_ofList]

/-- A path has exactly the segments of its name, each encoded. -/
theorem pieces_encodePath {name : String} (h : segments name.toList ≠ []) :
    Text.pieces '/' (encodePath name).toList = (segments name.toList).map encodeSegment := by
  rw [toList_encodePath]
  refine Text.pieces_join (by simpa using h) fun p hp => ?_
  obtain ⟨s, _, rfl⟩ := List.mem_map.1 hp
  exact not_slash_of_encodeSegment s

theorem encodePath_eq_empty {name : String} (h : segments name.toList = []) :
    encodePath name = "" := by
  rw [encodePath, h]
  rfl

theorem segments_encodePath (name : String) :
    segments (encodePath name).toList = (segments name.toList).map encodeSegment := by
  by_cases h : segments name.toList = []
  · rw [encodePath_eq_empty h, h]
    rfl
  · rw [segments, pieces_encodePath h, List.filter_eq_self]
    intro p hp
    obtain ⟨s, hs, rfl⟩ := List.mem_map.1 hp
    simpa using encodeSegment_ne_nil (mem_segments.1 hs).2

/-- Two names have one path exactly if they have the same segments. -/
theorem encodePath_eq_iff {a b : String} :
    encodePath a = encodePath b ↔ segments a.toList = segments b.toList := by
  constructor
  · intro h
    have hmap : (segments a.toList).map encodeSegment = (segments b.toList).map encodeSegment := by
      rw [← segments_encodePath, h, segments_encodePath]
    exact List.map_injective_iff.2 (fun _ _ => encodeSegment_injective) hmap
  · intro h
    rw [encodePath, h, encodePath]

end Endpoint

namespace Argument

/-! ### Accepted arguments -/

/-- A name that can be used as it stands: it has a segment, and no dot segment. -/
structure Accepted (name : String) : Prop where
  segments_ne_nil : Endpoint.segments name.toList ≠ []
  not_dot : hasDotSegment name.toList = false

theorem Accepted.not_dot_of_mem {name : String} (h : Accepted name) {seg : List Char}
    (hs : seg ∈ Endpoint.segments name.toList) : isDotSegment seg = false := by
  have hall := List.any_eq_false.1 h.not_dot seg (Endpoint.mem_segments.1 hs).1
  simpa using hall

/-- The three checks that an accepted argument has passed, and what is returned for it. -/
theorem require_eq_ok {n : ArgumentName} {v t : String} (h : require n v = .ok t) :
    (Text.trimSlashes (Text.trim (Text.trimSlashes v.toList))).isEmpty = false ∧
      Text.trim (Text.trimSlashes v.toList) = Text.trimSlashes v.toList ∧
      hasDotSegment (Text.trimSlashes v.toList) = false ∧
      t.toList = Text.trimSlashes v.toList := by
  simp only [require] at h
  split at h
  · exact absurd h (by simp)
  · next hempty =>
    split at h
    · exact absurd h (by simp)
    · next htrim =>
      split at h
      · exact absurd h (by simp)
      · next hdot =>
        refine ⟨by simpa using hempty, by simpa using htrim, by simpa using hdot, ?_⟩
        rw [← Except.ok.inj h, String.toList_ofList]

theorem segments_of_require {n : ArgumentName} {v t : String} (h : require n v = .ok t) :
    Endpoint.segments t.toList = Endpoint.segments v.toList := by
  obtain ⟨_, _, _, ht⟩ := require_eq_ok h
  rw [ht, Endpoint.segments_trimSlashes]

theorem accepted_of_require {n : ArgumentName} {v t : String} (h : require n v = .ok t) :
    Accepted t := by
  obtain ⟨hempty, htrim, hdot, ht⟩ := require_eq_ok h
  refine ⟨fun hnil => ?_, by rw [ht, hdot]⟩
  · -- a name of slashes alone is trimmed away, and that was excluded
    rw [ht] at hnil
    have hall := Endpoint.segments_eq_nil_iff.1 hnil
    have hdrop : (Text.trimSlashes v.toList).dropWhile (· == '/') = [] :=
      List.dropWhile_eq_nil_iff.2 fun c hc => by simpa using hall c hc
    rw [htrim, Text.trimSlashes, Text.trimBoth, hdrop] at hempty
    exact absurd hempty (by decide)

/-- An argument that is accepted under one name is accepted under any. -/
theorem require_congr {n m : ArgumentName} {v t : String} (h : require n v = .ok t) :
    require m v = .ok t := by
  obtain ⟨hempty, htrim, hdot, ht⟩ := require_eq_ok h
  simp only [require]
  rw [if_neg (by simp [hempty]), if_neg (by simp [htrim]), if_neg (by simp [hdot]), ← ht,
    String.ofList_toList]

/-- An accepted argument is accepted again, as it stands and under any name. -/
theorem require_of_require {n m : ArgumentName} {v t : String} (h : require n v = .ok t) :
    require m t = .ok t := by
  obtain ⟨-, -, -, ht⟩ := require_eq_ok h
  -- the slashes that could be trimmed are gone, so both arguments pass or fail the same checks
  have hidem : Text.trimSlashes t.toList = Text.trimSlashes v.toList := by
    rw [ht, Text.trimSlashes, Text.trimSlashes, Text.trimBoth_trimBoth]
  have hsame : require m t = require m v := by simp only [require, hidem]
  rw [hsame, require_congr h]

end Argument
end Strongbox
