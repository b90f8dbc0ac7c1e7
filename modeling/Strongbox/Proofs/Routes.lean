/-
Where the server in memory takes a request on secrets.

It finds mount and key by searching the path for texts.  Taken apart at slashes, a path of a
mount that the search does not mistake (`Routable`) can be read in one way only:

* `route_secret` — a request for a secret leads to the paths of its mount and key;
* `route_listing` — a listing leads to the path of its mount.
-/
import Strongbox.Backend.Memory
import Strongbox.Handle
import Strongbox.Proofs.Paths

namespace Strongbox.Memory

open Argument (Accepted)
open Endpoint (segments encodeSegment encodePath pieces_encodePath)

/-- The mounts whose secrets the server finds: they do not lie in the mount for encryption where
that has its operations, and no segment but the first one is the mark of secrets. -/
structure Routable (mount : String) : Prop where
  not_encrypt : ¬ ["transit".toList, "encrypt".toList] <+: segments mount.toList
  not_decrypt : ¬ ["transit".toList, "decrypt".toList] <+: segments mount.toList
  not_data : "data".toList ∉ (segments mount.toList).tail

theorem encodeSegment_eq_iff {s word : List Char} (hword : encodeSegment word = word) :
    encodeSegment s = word ↔ s = word := by
  constructor
  · intro h
    exact Endpoint.encodeSegment_injective (h.trans hword.symm)
  · rintro rfl
    exact hword

/-- A path of a mount, with a further segment behind it, does not start like one for encryption. -/
theorem ne_transit {names ps rest : List (List Char)} {word p : List Char} (hnames : names ≠ [])
    (hword : encodeSegment word = word) (hstart : ¬ ["transit".toList, word] <+: names)
    (hp : p ≠ word) : names.map encodeSegment ++ p :: ps ≠ "transit".toList :: word :: rest := by
  intro heq
  obtain ⟨n, ns, rfl⟩ := List.exists_cons_of_ne_nil hnames
  rw [List.map_cons, List.cons_append] at heq
  obtain ⟨hn, hrest⟩ := List.cons.inj heq
  obtain rfl : n = "transit".toList := (encodeSegment_eq_iff (by decide)).1 hn
  cases ns with
  | nil => exact hp (List.cons.inj hrest).1
  | cons n' ns =>
    rw [List.map_cons, List.cons_append] at hrest
    obtain rfl : n' = word := (encodeSegment_eq_iff hword).1 (List.cons.inj hrest).1
    exact hstart ⟨ns, rfl⟩

theorem not_mem_tail_pieces {m : String} (hm : Accepted m) (h : Routable m) :
    "data".toList ∉ (Text.pieces '/' (encodePath m).toList).tail := by
  rw [pieces_encodePath hm.segments_ne_nil, ← List.map_tail]
  intro hmem
  obtain ⟨s, hs, heq⟩ := List.mem_map.1 hmem
  rw [encodeSegment_eq_iff (by decide)] at heq
  exact h.not_data (heq ▸ hs)

theorem toList_secret (m k : String) :
    (Endpoint.secret m k).toList =
      (encodePath m).toList ++ ("/data/".toList ++ (encodePath k).toList) := by
  rw [Endpoint.secret, String.toList_append, String.toList_append, List.append_assoc]

theorem toList_listing (m : String) :
    (Endpoint.listing m "").toList = (encodePath m).toList ++ "/metadata/".toList := by
  have hempty : (encodePath "").isEmpty = true := by decide
  rw [Endpoint.listing, hempty]
  exact String.toList_append

theorem pieces_mark (a b : List Char) :
    Text.pieces '/' (a ++ ("/data/".toList ++ b)) =
      Text.pieces '/' a ++ "data".toList :: Text.pieces '/' b := by
  have hmark : "/data/".toList ++ b = '/' :: ("data".toList ++ '/' :: b) := rfl
  rw [hmark, Text.pieces_append_cons, Text.pieces_append_cons]
  rfl

theorem pieces_listing (a : List Char) :
    Text.pieces '/' (a ++ "/metadata/".toList) =
      Text.pieces '/' a ++ ["metadata".toList, []] := by
  have hmark : "/metadata/".toList = '/' :: ("metadata".toList ++ '/' :: []) := by decide
  rw [hmark, Text.pieces_append_cons, Text.pieces_append_cons]
  rfl

theorem pieces_transit (word rest : List Char) (hword : '/' ∉ word) :
    Text.pieces '/' (("transit/".toList ++ word ++ ['/']) ++ rest) =
      "transit".toList :: word :: Text.pieces '/' rest := by
  have hmark : ("transit/".toList ++ word ++ ['/']) ++ rest =
      "transit".toList ++ '/' :: (word ++ '/' :: rest) := by simp
  rw [hmark, Text.pieces_append_cons, Text.pieces_append_cons, Text.pieces_of_not_mem hword]
  rfl

/-- No path of a mount with further segments is one for encryption, or that of the health. -/
theorem route_of_pieces {path : String} {names ps : List (List Char)} {p : List Char}
    (hpath : Text.pieces '/' path.toList = names.map encodeSegment ++ p :: ps)
    (hnames : names ≠ []) (hps : ps ≠ [])
    (hencrypt : ¬ ["transit".toList, "encrypt".toList] <+: names)
    (hdecrypt : ¬ ["transit".toList, "decrypt".toList] <+: names)
    (hp : p ≠ "encrypt".toList ∧ p ≠ "decrypt".toList) :
    (∀ mount key, Text.splitOnce? "/data/".toList path.toList = some (mount, key) →
        route path = .secret (String.ofList mount) (String.ofList key)) ∧
      ∀ mount, Text.splitOnce? "/data/".toList path.toList = none →
        Text.before? "/metadata/".toList path.toList = some mount →
        route path = .listing (String.ofList mount) := by
  have hhealth : path ≠ "sys/health" := by
    rintro rfl
    -- the path of the health has two segments, and this one has three
    have hlen := congrArg List.length hpath
    have htwo : (Text.pieces '/' "sys/health".toList).length = 2 := by decide
    have hone := List.length_pos_of_ne_nil hnames
    have hrest := List.length_pos_of_ne_nil hps
    rw [htwo, List.length_append, List.length_map, List.length_cons] at hlen
    omega
  have hnone : ∀ word : List Char, '/' ∉ word → encodeSegment word = word → p ≠ word →
      ¬ ["transit".toList, word] <+: names →
      Text.after? ("transit/".toList ++ word ++ ['/']) path.toList = none := by
    intro word hslash hself hne hstart
    refine Text.after?_eq_none_of_forall fun rest heq => ?_
    rw [heq, pieces_transit word rest hslash] at hpath
    exact ne_transit hnames hself hstart hne hpath.symm
  have henc : Text.after? "transit/encrypt/".toList path.toList = none :=
    hnone "encrypt".toList (by decide) (by decide) hp.1 hencrypt
  have hdec : Text.after? "transit/decrypt/".toList path.toList = none :=
    hnone "decrypt".toList (by decide) (by decide) hp.2 hdecrypt
  constructor
  · intro mount key hsplit
    rw [route, if_neg hhealth, henc, hdec, hsplit]
  · intro mount hsplit hbefore
    rw [route, if_neg hhealth, henc, hdec, hsplit, hbefore]

/-- A request for a secret leads to the paths of its mount and key. -/
theorem route_secret {m : String} (hm : Accepted m) (h : Routable m) (k : String) :
    route (Endpoint.secret m k) = .secret (encodePath m) (encodePath k) := by
  have hpath : Text.pieces '/' (Endpoint.secret m k).toList =
      (segments m.toList).map encodeSegment ++
        "data".toList :: Text.pieces '/' (encodePath k).toList := by
    rw [toList_secret, pieces_mark, pieces_encodePath hm.segments_ne_nil]
  -- an earlier mark would make a later segment of the mount the mark of secrets
  have hfirst : ∀ a' b', (encodePath m).toList ++ ("/data/".toList ++ (encodePath k).toList) =
      a' ++ ("/data/".toList ++ b') → (encodePath m).toList.length ≤ a'.length := by
    intro a' b' heq
    by_contra hlt
    obtain ⟨c, hc⟩ : ∃ c, (encodePath m).toList = a' ++ c := by
      rcases List.append_eq_append_iff.1 heq with ⟨c, ha, _⟩ | ⟨c, ha, _⟩
      · rw [ha, List.length_append] at hlt
        omega
      · exact ⟨c, ha⟩
    rw [hc, List.append_assoc, List.append_cancel_left_eq] at heq
    cases c with
    | nil =>
      rw [hc, List.append_nil] at hlt
      exact hlt le_rfl
    | cons d c =>
      have hcons : d :: (c ++ ("/data/".toList ++ (encodePath k).toList)) =
          '/' :: ("data/".toList ++ b') := heq
      obtain ⟨rfl, hrest⟩ := List.cons.inj hcons
      have hpieces := congrArg (Text.pieces '/') hrest
      have hdata : Text.pieces '/' ("data/".toList ++ b') = "data".toList :: Text.pieces '/' b' :=
        Text.pieces_append_cons "data".toList b'
      rw [pieces_mark, hdata] at hpieces
      obtain ⟨q, qs, hq⟩ := List.exists_cons_of_ne_nil (Text.pieces_ne_nil '/' c)
      rw [hq, List.cons_append] at hpieces
      refine not_mem_tail_pieces hm h ?_
      rw [hc, Text.pieces_append_cons, List.tail_append_of_ne_nil (Text.pieces_ne_nil '/' a'), hq,
        (List.cons.inj hpieces).1]
      exact List.mem_append_right _ List.mem_cons_self
  have hsplit := Text.splitOnce?_eq_some_of_first hfirst
  rw [← toList_secret] at hsplit
  rw [(route_of_pieces hpath hm.segments_ne_nil (Text.pieces_ne_nil '/' _) h.not_encrypt
    h.not_decrypt (by decide)).1 _ _ hsplit, String.ofList_toList, String.ofList_toList]

theorem route_listing {m : String} (hm : Accepted m) (h : Routable m) :
    route (Endpoint.listing m "") = .listing (encodePath m) := by
  have hpath : Text.pieces '/' (Endpoint.listing m "").toList =
      (segments m.toList).map encodeSegment ++ "metadata".toList :: [[]] := by
    rw [toList_listing, pieces_listing, pieces_encodePath hm.segments_ne_nil]
  have hnone : Text.splitOnce? "/data/".toList (Endpoint.listing m "").toList = none := by
    refine Text.splitOnce?_eq_none_of_forall fun a b heq => ?_
    -- the mark would be a later segment of the mount, or one of those behind it
    have hpieces := congrArg List.tail (congrArg (Text.pieces '/') heq)
    rw [toList_listing, pieces_listing, pieces_mark,
      List.tail_append_of_ne_nil (Text.pieces_ne_nil '/' _),
      List.tail_append_of_ne_nil (Text.pieces_ne_nil '/' a)] at hpieces
    have hmem : "data".toList ∈ (Text.pieces '/' (encodePath m).toList).tail ++
        ["metadata".toList, []] := by
      rw [hpieces]
      exact List.mem_append_right _ List.mem_cons_self
    rcases List.mem_append.1 hmem with hmem | hmem
    · exact not_mem_tail_pieces hm h hmem
    · exact absurd hmem (by decide)
  have hbefore : Text.before? "/metadata/".toList (Endpoint.listing m "").toList =
      some (encodePath m).toList := Text.before?_eq_some_iff.2 (toList_listing m)
  rw [(route_of_pieces hpath hm.segments_ne_nil (List.cons_ne_nil _ _) h.not_encrypt
    h.not_decrypt (by decide)).2 _ hnone hbefore, String.ofList_toList]

end Strongbox.Memory
