/-
Which arguments are accepted, and what is said of the others.

Of a text only what is left without the slashes at its ends counts (`Text.Core`).  That can be used
as it stands (`Argument.IsUsable`), or there is a fault in it, and of several faults the first one in
their order (`Argument.Faulty`).

* `require_eq_ok_iff`, `require_eq_error_iff` — what is returned in either case;
* `require_pad` — slashes at the ends do not count;
* `accepts_iff` — so exactly the usable arguments are accepted, and they stay accepted.
-/
import Strongbox.Proofs.Configs

namespace Strongbox

namespace Text

variable {p : Char → Bool} {s t : List Char}

/-- A text is its own core exactly if it has no character of the class at an end. -/
theorem core_self_iff :
    Core p t t ↔ (∀ c ∈ t.head?, p c = false) ∧ ∀ c ∈ t.getLast?, p c = false := by
  constructor
  · exact fun h => h.2
  · intro h
    exact ⟨⟨[], [], (List.append_nil t).symm, fun _ hc => absurd hc List.not_mem_nil,
      fun _ hc => absurd hc List.not_mem_nil⟩, h⟩

/-- Nothing is left of exactly those texts that are made of the class. -/
theorem trimBoth_eq_nil_iff : trimBoth p s = [] ↔ ∀ c ∈ s, p c = true := by
  rw [← core_iff]
  constructor
  · rintro ⟨⟨front, back, rfl, hfront, hback⟩, -⟩ c hc
    rcases List.mem_append.1 hc with hc | hc
    · exact hfront c hc
    · exact hback c hc
  · intro h
    exact ⟨⟨s, [], (List.append_nil s).symm, h, fun _ hc => absurd hc List.not_mem_nil⟩,
      fun c hc => absurd hc (by simp), fun c hc => absurd hc (by simp)⟩

/-- What is left of a text does not depend on what of the class stands at its ends. -/
theorem trimBoth_pad {front back : List Char} (hfront : ∀ c ∈ front, p c = true)
    (hback : ∀ c ∈ back, p c = true) : trimBoth p (front ++ (s ++ back)) = trimBoth p s := by
  obtain ⟨⟨a, b, hs, ha, hb⟩, hends⟩ := core_iff.2 (rfl : trimBoth p s = trimBoth p s)
  refine core_iff.1 ⟨⟨front ++ a, b ++ back, ?_, fun c hc => ?_, fun c hc => ?_⟩, hends⟩
  · calc front ++ (s ++ back)
        = front ++ ((a ++ (trimBoth p s ++ b)) ++ back) := by rw [← hs]
      _ = (front ++ a) ++ (trimBoth p s ++ (b ++ back)) := by simp only [List.append_assoc]
  · rcases List.mem_append.1 hc with hc | hc
    · exact hfront c hc
    · exact ha c hc
  · rcases List.mem_append.1 hc with hc | hc
    · exact hb c hc
    · exact hback c hc

theorem trim_eq_self_iff :
    trim t = t ↔ (∀ c ∈ t.head?, isSpace c = false) ∧ ∀ c ∈ t.getLast?, isSpace c = false := by
  rw [← core_self_iff, core_iff, trim]

end Text

namespace Argument

open Settings (hasDotSegment_eq_false_iff)

/-- An argument that can be used as it stands: it is something, has no white space at its ends, and
no segment of it is a dot segment. -/
structure IsUsable (t : List Char) : Prop where
  ne_nil : t ≠ []
  head : ∀ c ∈ t.head?, Text.isSpace c = false
  last : ∀ c ∈ t.getLast?, Text.isSpace c = false
  point : ['.'] ∉ Text.pieces '/' t
  points : ['.', '.'] ∉ Text.pieces '/' t

/-- The fault that is found in an argument: it is nothing but white space around slashes; or it is
more, and has white space at an end; or it has none there, but a dot segment. -/
inductive Faulty (n : ArgumentName) (t : List Char) : ArgumentFault → Prop
  | missing {u : List Char} (hu : Text.Core Text.isSpace t u) (h : ∀ c ∈ u, c = '/') :
    Faulty n t (.missing n)
  | surroundingSpace {u : List Char} (hu : Text.Core Text.isSpace t u) (h : ∃ c ∈ u, c ≠ '/')
    (hends : ∃ c, (c ∈ t.head? ∨ c ∈ t.getLast?) ∧ Text.isSpace c = true) :
    Faulty n t (.surroundingSpace n)
  | dotSegment (hhead : ∀ c ∈ t.head?, Text.isSpace c = false)
    (hlast : ∀ c ∈ t.getLast?, Text.isSpace c = false)
    (h : ['.'] ∈ Text.pieces '/' t ∨ ['.', '.'] ∈ Text.pieces '/' t) :
    Faulty n t (.dotSegment n)

variable {n : ArgumentName} {v w t : String} {s u : List Char} {fault : ArgumentFault}

theorem trimSlashes_isEmpty_iff : (Text.trimSlashes u).isEmpty = true ↔ ∀ c ∈ u, c = '/' := by
  rw [List.isEmpty_iff, Text.trimSlashes, Text.trimBoth_eq_nil_iff]
  simp only [beq_iff_eq]

theorem hasDotSegment_iff :
    hasDotSegment u = true ↔ ['.'] ∈ Text.pieces '/' u ∨ ['.', '.'] ∈ Text.pieces '/' u := by
  rw [← Bool.not_eq_false, hasDotSegment_eq_false_iff, Classical.not_and_iff_not_or_not,
    not_not, not_not]

theorem trim_ne_self_iff :
    Text.trim u ≠ u ↔ ∃ c, (c ∈ u.head? ∨ c ∈ u.getLast?) ∧ Text.isSpace c = true := by
  rw [Ne, Text.trim_eq_self_iff]
  constructor
  · intro h
    by_contra hnone
    have hspace : ∀ c, (c ∈ u.head? ∨ c ∈ u.getLast?) → Text.isSpace c = false := fun c hc =>
      Bool.eq_false_iff.2 fun htrue => hnone ⟨c, hc, htrue⟩
    exact h ⟨fun c hc => hspace c (Or.inl hc), fun c hc => hspace c (Or.inr hc)⟩
  · rintro ⟨c, hc, hspace⟩ ⟨hhead, hlast⟩
    rcases hc with hc | hc
    · exact absurd (hhead c hc) (by simp [hspace])
    · exact absurd (hlast c hc) (by simp [hspace])

/-- A usable argument is returned without the slashes at its ends. -/
theorem require_eq_ok_iff :
    require n v = .ok t ↔ Text.Core (· == '/') v.toList t.toList ∧ IsUsable t.toList := by
  constructor
  · intro h
    obtain ⟨hempty, htrim, hdot, ht⟩ := require_eq_ok h
    have hcore : Text.Core (· == '/') v.toList t.toList := Text.core_iff.2 ht.symm
    rw [htrim, ← ht, Text.trimSlashes, Text.core_iff.1 hcore.self] at hempty
    rw [← ht] at htrim hdot
    obtain ⟨hhead, hlast⟩ := Text.trim_eq_self_iff.1 htrim
    obtain ⟨hpoint, hpoints⟩ := hasDotSegment_eq_false_iff.1 hdot
    exact ⟨hcore, by simpa using hempty, hhead, hlast, hpoint, hpoints⟩
  · rintro ⟨hcore, hne, hhead, hlast, hpoint, hpoints⟩
    have hslashes : Text.trimSlashes v.toList = t.toList := Text.core_iff.1 hcore
    have hself : Text.trimSlashes t.toList = t.toList := Text.core_iff.1 hcore.self
    have htrim : Text.trim t.toList = t.toList := Text.trim_eq_self_iff.2 ⟨hhead, hlast⟩
    have hdot : hasDotSegment t.toList = false := hasDotSegment_eq_false_iff.2 ⟨hpoint, hpoints⟩
    simp only [require]
    rw [hslashes, htrim, hself, if_neg (by simpa using hne), if_neg (not_not_intro rfl), hdot,
      if_neg Bool.false_ne_true, String.ofList_toList]

/-- An argument that is refused has the fault that is told. -/
theorem faulty_of_require (h : require n v = .error fault) :
    Faulty n (Text.trimSlashes v.toList) fault := by
  simp only [require] at h
  split at h
  · next hempty =>
    rw [← Except.error.inj h]
    exact .missing (Text.core_iff.2 rfl) (trimSlashes_isEmpty_iff.1 hempty)
  · next hempty =>
    have hmore : ∃ c ∈ Text.trim (Text.trimSlashes v.toList), c ≠ '/' := by
      rw [trimSlashes_isEmpty_iff] at hempty
      push Not at hempty
      exact hempty
    split at h
    · next htrim =>
      rw [← Except.error.inj h]
      exact .surroundingSpace (Text.core_iff.2 rfl) hmore (trim_ne_self_iff.1 htrim)
    · next htrim =>
      obtain ⟨hhead, hlast⟩ := Text.trim_eq_self_iff.1 (not_not.1 htrim)
      split at h
      · next hdot =>
        rw [← Except.error.inj h]
        exact .dotSegment hhead hlast (hasDotSegment_iff.1 hdot)
      · exact absurd h (by simp)

/-- An argument with a fault is refused for it. -/
theorem require_of_faulty (h : Faulty n (Text.trimSlashes v.toList) fault) :
    require n v = .error fault := by
  simp only [require]
  cases h with
  | missing hu h =>
    have htrim := Text.core_iff.1 hu
    rw [Text.trim, htrim, if_pos (trimSlashes_isEmpty_iff.2 h)]
  | surroundingSpace hu h hends =>
    have htrim := Text.core_iff.1 hu
    rw [if_neg, if_pos (trim_ne_self_iff.2 hends)]
    rw [Text.trim, htrim, trimSlashes_isEmpty_iff]
    simpa using h
  | dotSegment hhead hlast h =>
    have htrim := Text.trim_eq_self_iff.2 ⟨hhead, hlast⟩
    rw [htrim, if_neg, if_neg (not_not_intro rfl), if_pos (hasDotSegment_iff.2 h)]
    -- a dot segment has a point, which is no slash
    rw [trimSlashes_isEmpty_iff]
    intro hall
    have hnone := Endpoint.segments_eq_nil_iff.2 hall
    rcases h with h | h
    · exact absurd (hnone ▸ Endpoint.mem_segments.2 ⟨h, by simp⟩) List.not_mem_nil
    · exact absurd (hnone ▸ Endpoint.mem_segments.2 ⟨h, by simp⟩) List.not_mem_nil

/-- Any other argument is refused for its first fault. -/
theorem require_eq_error_iff :
    require n v = .error fault ↔
      ∃ s, Text.Core (· == '/') v.toList s ∧ Faulty n s fault := by
  constructor
  · exact fun h => ⟨_, Text.core_iff.2 rfl, faulty_of_require h⟩
  · rintro ⟨s, hs, hfault⟩
    obtain rfl : Text.trimSlashes v.toList = s := Text.core_iff.1 hs
    exact require_of_faulty hfault

/-- Slashes at the ends of an argument do not count. -/
theorem require_pad {front back : List Char} (hfront : ∀ c ∈ front, c = '/')
    (hback : ∀ c ∈ back, c = '/') :
    require n (String.ofList (front ++ (s ++ back))) = require n (String.ofList s) := by
  have hsame : Text.trimSlashes (front ++ (s ++ back)) = Text.trimSlashes s :=
    Text.trimBoth_pad (fun c hc => beq_iff_eq.2 (hfront c hc))
      fun c hc => beq_iff_eq.2 (hback c hc)
  simp only [require, String.toList_ofList, hsame]

/-- **The arguments that are accepted.**  An argument is accepted exactly if what is left of it
without the slashes at its ends can be used, and that is then returned; any other is refused as
invalid, for the fault that is in it.  What is returned is accepted again as it stands, under any
name and by the check of segments alone, it has a segment that is not empty, and it is returned for
every text that differs only in the slashes at its ends. -/
theorem accepts_iff (n : ArgumentName) (v : String) :
    (∀ t : String, require n v = .ok t ↔
      Text.Core (· == '/') v.toList t.toList ∧ IsUsable t.toList) ∧
    ((∀ t : String, ¬(Text.Core (· == '/') v.toList t.toList ∧ IsUsable t.toList)) →
      ∃ fault s, Text.Core (· == '/') v.toList s ∧ Faulty n s fault ∧
        (require n v).mapError Error.ofArgument = .error (.invalidArgument fault.message)) ∧
    ∀ t : String, require n v = .ok t →
      (∀ m : ArgumentName, require m t = .ok t ∧ checkSegments m t = .ok ()) ∧
      (∃ seg ∈ Text.pieces '/' t.toList, seg ≠ []) ∧
      ∀ front s back front' back' : List Char, v.toList = front ++ (s ++ back) →
        (∀ c ∈ front ++ back ++ (front' ++ back'), c = '/') →
        require n (String.ofList (front' ++ (s ++ back'))) = .ok t := by
  refine ⟨fun t => require_eq_ok_iff, fun hnone => ?_, fun t ht => ⟨fun m => ⟨?_, ?_⟩, ?_, ?_⟩⟩
  · cases hv : require n v with
    | ok t => exact absurd (require_eq_ok_iff.1 hv) (hnone t)
    | error fault =>
      obtain ⟨s, hs, hfault⟩ := require_eq_error_iff.1 hv
      exact ⟨fault, s, hs, hfault, rfl⟩
  · exact require_of_require ht
  · rw [checkSegments, (accepted_of_require ht).not_dot, if_neg Bool.false_ne_true]
  · obtain ⟨seg, hseg⟩ := List.exists_mem_of_ne_nil _ (accepted_of_require ht).segments_ne_nil
    exact ⟨seg, Endpoint.mem_segments.1 hseg⟩
  · intro front s back front' back' hv hslashes
    simp only [List.forall_mem_append] at hslashes
    obtain ⟨⟨hfront, hback⟩, hfront', hback'⟩ := hslashes
    rw [require_pad hfront' hback', ← require_pad hfront hback, ← hv, String.ofList_toList, ht]

/-- A key with slashes around it and a blank inside. -/
theorem accepts_iff_slashedKey :
    Text.Core (· == '/') "//team/db pass/".toList "team/db pass".toList ∧
      IsUsable "team/db pass".toList ∧
      require .secretKey "team/db pass///" = .ok "team/db pass" ∧
      ∃ fault s, Text.Core (· == '/') "team/../db".toList s ∧ Faulty .mount s fault ∧
        (require .mount "team/../db").mapError Error.ofArgument =
          .error (.invalidArgument fault.message) := by
  have hok : require .secretKey "//team/db pass/" = .ok "team/db pass" := by decide
  obtain ⟨hiff, -, hstable⟩ := accepts_iff .secretKey "//team/db pass/"
  obtain ⟨hcore, husable⟩ := (hiff "team/db pass").1 hok
  obtain ⟨hdots, hrefused, -⟩ := accepts_iff .mount "team/../db"
  refine ⟨hcore, husable, ?_, hrefused fun t ht => ?_⟩
  · exact (hstable _ hok).2.2 ['/', '/'] "team/db pass".toList ['/'] [] ['/', '/', '/'] (by decide)
      (List.forall_iff_forall_mem.1 (by decide))
  · have hno : require .mount "team/../db" = .error (.dotSegment .mount) := by decide
    exact absurd ((hdots t).2 ht) (by simp [hno])

end Argument
end Strongbox
