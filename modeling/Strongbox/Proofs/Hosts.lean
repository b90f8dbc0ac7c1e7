/-
Names that end in a control or a blank are no hosts of special URLs.

Such a character is not an escape, not a letter and not a digit, so it passes unharmed through
every step that brings a name into its ASCII form, up to the one that refuses it:

* `Percent.decodeBytes_concat` — decoding escapes leaves it at the end;
* `Domain.mapAll?_concat`, `Domain.compose_concat` — so do mapping and composing;
* `Domain.Label.ofComposed?_concat` — a label that ends in it is refused, encoded or not;
* `Host.parse_concat` — so there is no host.
-/
import Strongbox.Proofs.Percent
import Strongbox.Proofs.Pieces
import Strongbox.Url.Basic

namespace Strongbox

namespace Url

/-- What holds of every control and of the blank. -/
theorem forall_isPadding {P : Char → Prop} (h : ∀ n < 33, P (Char.ofNat n)) {z : Char}
    (hz : isPadding z = true) : P z := by
  have hle : z.toNat ≤ 0x20 := of_decide_eq_true hz
  rw [← Char.ofNat_toNat z]
  exact h z.toNat (by omega)

theorem ne_of_isPadding {z c : Char} (hz : isPadding z = true) (hc : isPadding c = false) :
    z ≠ c := by
  rintro rfl
  rw [hz] at hc
  exact absurd hc (by decide)

/-- The characters that are left out inside a text are left out at its ends as well, so a text
without these keeps all of its characters. -/
theorem filter_isSkipped_eq_self {s : List Char} (h : ∀ c ∈ s, isPadding c = false) :
    s.filter (fun c => !isSkipped c) = s := by
  rw [List.filter_eq_self]
  intro c hc
  by_contra hskip
  have hpad : isPadding c = true := by
    simp only [isSkipped, Bool.not_eq_true', Bool.not_eq_false, Bool.or_eq_true,
      beq_iff_eq] at hskip
    rcases hskip with (rfl | rfl) | rfl <;> decide
  rw [h c hc] at hpad
  exact absurd hpad (by decide)

theorem lt_of_isPadding {z : Char} (hz : isPadding z = true) : z.toNat < 128 := by
  have hle : z.toNat ≤ 0x20 := of_decide_eq_true hz
  omega

end Url

/-! ### Decoding -/

namespace Percent

/-- A byte that is no digit stays at the end when escapes are decoded. -/
theorem decodeBytes_concat {x : UInt8} (hx : hexValue? x = none) (bs : List UInt8) :
    ∃ bs', decodeBytes (bs ++ [x]) = bs' ++ [x] := by
  have hpair : ∀ b, pairValue? b x = none := by
    intro b
    rw [pairValue?, hx]
    cases hexValue? b with
    | none => rfl
    | some n => rfl
  induction bs using decodeBytes.induct with
  | case1 b c rest v hv ih =>
    obtain ⟨bs', hbs⟩ := ih
    refine ⟨v :: bs', ?_⟩
    rw [List.cons_append, List.cons_append, List.cons_append, decodeBytes, if_pos rfl, hv]
    exact congrArg (v :: ·) hbs
  | case2 b c rest hv ih =>
    obtain ⟨bs', hbs⟩ := ih
    refine ⟨0x25 :: bs', ?_⟩
    rw [List.cons_append, List.cons_append, List.cons_append, decodeBytes, if_pos rfl, hv]
    exact congrArg (0x25 :: ·) hbs
  | case3 a b c rest ha ih =>
    obtain ⟨bs', hbs⟩ := ih
    refine ⟨a :: bs', ?_⟩
    rw [List.cons_append, List.cons_append, List.cons_append, decodeBytes, if_neg ha]
    exact congrArg (a :: ·) hbs
  | case4 bs hshort =>
    -- with at most two bytes before it, only the last byte can be the end of an escape
    rcases bs with _ | ⟨a, _ | ⟨b, _ | ⟨c, rest⟩⟩⟩
    · exact ⟨[], rfl⟩
    · exact ⟨[a], rfl⟩
    · refine ⟨[a, b], ?_⟩
      show decodeBytes [a, b, x] = [a, b, x]
      rw [decodeBytes, hpair]
      split <;> rfl
    · exact absurd rfl (hshort a b c rest)

end Percent

namespace Utf8

/-- Bytes that end in an ASCII character are those of a text that does. -/
theorem eq_concat_of_bytes {s : List Char} {bs : List UInt8} {z : Char} (hz : z.toNat < 128)
    (h : bytes s = bs ++ [z.toNat.toUInt8]) : ∃ s', s = s' ++ [z] := by
  rcases List.eq_nil_or_concat s with rfl | ⟨s', c, rfl⟩
  · exact absurd h (by simp [bytes])
  · rw [List.concat_eq_append, bytes_append, bytes_singleton] at h
    have hbyte : z.toNat.toUInt8.toNat = z.toNat := by
      rw [Nat.toUInt8_eq, UInt8.toNat_ofNat', Nat.mod_eq_of_lt (by omega)]
    by_cases hc : c.toNat < 128
    · rw [encodeChar_of_lt hc] at h
      have hlast := (List.append_inj' h rfl).2
      have hcz : c.toNat = z.toNat := by
        rw [← hbyte, ← (List.cons.inj hlast).1, Nat.toUInt8_eq, UInt8.toNat_ofNat',
          Nat.mod_eq_of_lt (by omega)]
      refine ⟨s', ?_⟩
      rw [List.concat_eq_append, Char.toNat_inj.1 hcz]
    · -- the last byte of any other character is not ASCII
      have hmem : z.toNat.toUInt8 ∈ String.utf8EncodeChar c := by
        have hne : String.utf8EncodeChar c ≠ [] := by simp
        have hlast := congrArg List.getLast? h
        rw [List.getLast?_append_of_ne_nil _ hne, List.getLast?_concat] at hlast
        exact List.mem_of_getLast? hlast
      have hle := le_of_mem_encodeChar (by omega) hmem
      omega

end Utf8

namespace Text

/-- What stands behind a character of a text ends as the text does. -/
theorem exists_concat_of_append_cons {s a b : List Char} {z c : Char} (hz : z ≠ c)
    (h : s ++ [z] = a ++ c :: b) : ∃ b', b = b' ++ [z] ∧ s = a ++ c :: b' := by
  rcases List.eq_nil_or_concat b with rfl | ⟨b', d, rfl⟩
  · exact absurd (List.cons.inj (List.append_inj' h rfl).2).1 hz
  · rw [List.concat_eq_append, ← List.cons_append, ← List.append_assoc] at h
    obtain ⟨hfront, hlast⟩ := List.append_inj' h rfl
    refine ⟨b', ?_, hfront⟩
    rw [List.concat_eq_append, (List.cons.inj hlast).1]

end Text

namespace Url

/-! ### Punycode -/

namespace Punycode

variable {z : Char}

/-- The numbers of a text do not reach its end if that is no digit. -/
theorem number?_concat (hz : value? z = none) {bias k weight n : Nat} {s rest : List Char}
    (h : number? bias k weight (s ++ [z]) = some (n, rest)) : ∃ s', rest = s' ++ [z] := by
  induction s generalizing k weight n with
  | nil =>
    rw [List.nil_append, number?, hz] at h
    exact absurd h (by simp)
  | cons c s ih =>
    rw [List.cons_append, number?] at h
    cases hc : value? c with
    | none =>
      rw [hc] at h
      exact absurd h (by simp)
    | some d =>
      rw [hc] at h
      simp only [Option.bind_eq_bind, Option.bind_some] at h
      split at h
      · rw [Option.some_inj, Prod.mk.injEq] at h
        exact ⟨s, h.2.symm⟩
      · split at h
        · obtain ⟨⟨m, r⟩, hnext, hr⟩ := Option.bind_eq_some_iff.1 h
          rw [Option.some_inj, Prod.mk.injEq] at hr
          obtain ⟨_, rfl⟩ := hr
          exact ih hnext
        · exact absurd h (by simp)

/-- Numbers that are followed by anything else than a digit insert nothing. -/
theorem insertAll_concat (hz : value? z = none) (fuel n i bias : Nat) (out s : List Char) :
    insertAll fuel n i bias out (s ++ [z]) = none := by
  induction fuel generalizing n i bias out s with
  | zero =>
    obtain ⟨c, t, ht⟩ := List.exists_cons_of_ne_nil (List.concat_ne_nil z s)
    rw [ht, insertAll]
  | succ fuel ih =>
    obtain ⟨c, t, ht⟩ := List.exists_cons_of_ne_nil (List.concat_ne_nil z s)
    rw [ht, insertAll, ← ht]
    swap
    · exact List.cons_ne_nil c t
    cases hnum : number? bias 36 1 (s ++ [z]) with
    | none => rfl
    | some p =>
      obtain ⟨delta, rest⟩ := p
      obtain ⟨s', rfl⟩ := number?_concat hz hnum
      rw [Option.bind_eq_bind, Option.bind_some, Option.eq_none_iff_forall_not_mem]
      intro r hr
      -- whatever the first number inserts, the rest ends in the character again
      obtain ⟨_, _, hr⟩ := Option.bind_eq_some_iff.1 hr
      obtain ⟨c, _, hr⟩ := Option.bind_eq_some_iff.1 hr
      rw [ih] at hr
      exact absurd hr (by simp)

/-- A text that ends in anything else than a digit or a hyphen stands for no label. -/
theorem decode?_concat (hz : value? z = none) (hhyphen : z ≠ '-') (s : List Char) :
    decode? (s ++ [z]) = none := by
  rw [decode?]
  split
  · next k hk =>
    -- the last hyphen comes before the last character, which stays in what follows it
    have hlen : k + 2 ≤ s.length := by
      rw [lastHyphen?, List.reverse_append, List.reverse_singleton, List.singleton_append,
        List.findIdx?_cons, if_neg (by simpa using hhyphen)] at hk
      simp only [Option.map_map, Option.map_eq_some_iff, Function.comp_apply,
        List.length_append, List.length_singleton] at hk
      obtain ⟨j, _, hj⟩ := hk
      omega
    rw [List.drop_append_of_le_length hlen]
    exact insertAll_concat hz _ _ _ _ _ _
  · exact insertAll_concat hz _ _ _ _ _ _

end Punycode

/-! ### The ASCII form of a name -/

namespace Domain

variable {z : Char}

theorem mapChar_of_isPadding (hz : isPadding z = true) : mapChar z = some [z] := by
  have hlower : z.toLower = z := forall_isPadding (P := fun z => z.toLower = z) (by decide) hz
  rw [mapChar, if_pos (lt_of_isPadding hz), hlower]

theorem mapAll?_concat (hz : isPadding z = true) {s m : List Char}
    (h : mapAll? (s ++ [z]) = some m) : ∃ m', m = m' ++ [z] := by
  rw [mapAll?, List.mapM_append] at h
  obtain ⟨parts, hparts, rfl⟩ := Option.map_eq_some_iff.1 h
  obtain ⟨front, _, hparts⟩ := Option.bind_eq_some_iff.1 hparts
  obtain ⟨last, hlast, hparts⟩ := Option.bind_eq_some_iff.1 hparts
  rw [List.mapM_cons, mapChar_of_isPadding hz] at hlast
  obtain rfl : [[z]] = last := Option.some_inj.1 hlast
  obtain rfl : front ++ [[z]] = parts := Option.some_inj.1 hparts
  exact ⟨front.flatten, by rw [List.flatten_append]; rfl⟩

theorem placeMark_concat (hz : z.toNat < 128) (c : Char) (s : List Char) :
    placeMark c (s ++ [z]) = placeMark c s ++ [z] := by
  induction s with
  | nil =>
    show placeMark c [z] = [c, z]
    rw [placeMark, if_neg fun h => h.1 (combiningClass_eq_zero hz)]
  | cons d s ih =>
    rw [List.cons_append, placeMark, placeMark, ih]
    split <;> rfl

theorem orderMarks_concat (hz : z.toNat < 128) (s : List Char) :
    orderMarks (s ++ [z]) = orderMarks s ++ [z] := by
  induction s with
  | nil => rfl
  | cons c s ih =>
    show placeMark c (orderMarks (s ++ [z])) = placeMark c (orderMarks s) ++ [z]
    rw [ih, placeMark_concat hz]

theorem composeFrom_concat (hz : z.toNat < 128) (c : Char) (left s : List Char) :
    composeFrom c left (s ++ [z]) = composeFrom c left s ++ [z] := by
  induction s generalizing c left with
  | nil =>
    have hwhole : whole? c z = none := by
      rw [whole?, if_pos (by omega)]
    show composeFrom c left [z] = (c :: left.reverse) ++ [z]
    rw [composeFrom, hwhole, ite_self]
    show (if combiningClass z = 0 then _ else _) = _
    rw [if_pos (combiningClass_eq_zero hz), composeFrom, List.reverse_nil]
  | cons d s ih =>
    rw [List.cons_append, composeFrom, composeFrom]
    split
    · exact ih _ _
    · split
      · rw [ih, ← List.append_assoc]
      · exact ih _ _

theorem compose_concat (hz : z.toNat < 128) (s : List Char) :
    compose (s ++ [z]) = compose s ++ [z] := by
  have hparts : [z].flatMap partsOf = [z] := by
    rw [List.flatMap_singleton, partsOf, if_pos hz]
  have hordered : ∀ t, composeOrdered (t ++ [z]) = composeOrdered t ++ [z] := by
    intro t
    induction t with
    | nil =>
      show composeOrdered [z] = [z]
      rw [composeOrdered, if_pos (combiningClass_eq_zero hz)]
      rfl
    | cons c t ih =>
      rw [List.cons_append, composeOrdered, composeOrdered, composeFrom_concat hz, ih]
      split <;> rfl
  rw [compose, List.flatMap_append, hparts, orderMarks_concat hz, hordered, compose]

/-- A label that ends in the character is refused, encoded or not. -/
theorem Label.ofComposed?_concat (hz : isPadding z = true) (s : List Char) :
    Label.ofComposed? (s ++ [z]) = none := by
  have hvalue : Punycode.value? z = none :=
    forall_isPadding (P := fun z => Punycode.value? z = none) (by decide) hz
  have hchar : isHostChar z = false :=
    forall_isPadding (P := fun z => isHostChar z = false) (by decide) hz
  have hlabel : isLabel (s ++ [z]) = false := by
    rw [isLabel, List.all_append, List.all_cons, hchar, Bool.false_and, Bool.and_false,
      Bool.false_and, Bool.false_and, Bool.false_and]
  rw [Label.ofComposed?]
  split
  · next code hcode =>
    -- what follows the mark is not empty, since the mark does not end in the character
    have heq : s ++ [z] = encodedMark ++ code := Text.after?_eq_some_iff.1 hcode
    have hmark : encodedMark ++ code = ['x', 'n', '-'] ++ '-' :: code := rfl
    have hhyphen : z ≠ '-' := ne_of_isPadding hz (by decide)
    obtain ⟨code', rfl, _⟩ := Text.exists_concat_of_append_cons hhyphen (heq.trans hmark)
    rw [Punycode.decode?_concat hvalue hhyphen]
    split <;> rfl
  · rw [hlabel]
    rfl

theorem toAscii?_concat (hz : isPadding z = true) (s : List Char) :
    toAscii? (s ++ [z]) = none := by
  rw [toAscii?]
  cases hmap : mapAll? (s ++ [z]) with
  | none => rfl
  | some m =>
    obtain ⟨m', rfl⟩ := mapAll?_concat hz hmap
    have hpoint : '.' ∉ [z] := by simpa using (ne_of_isPadding hz (by decide)).symm
    obtain ⟨ps, p, -, hp⟩ := Text.pieces_append_of_not_mem hpoint (compose m')
    have hlabels : (ps ++ [p ++ [z]]).mapM Label.ofComposed? = none := by
      rw [List.mapM_append, List.mapM_cons, Label.ofComposed?_concat hz]
      cases ps.mapM Label.ofComposed? with
      | none => rfl
      | some labels => rfl
    rw [Option.bind_eq_bind, Option.bind_some, compose_concat (lt_of_isPadding hz), hp, hlabels]
    rfl

end Domain
end Url

/-! ### Hosts -/

namespace Host

open Url (isPadding)

/-- A name that ends in a control or a blank is no host. -/
theorem parse_concat {z : Char} (hz : isPadding z = true) (s : List Char) (h : Host) :
    Host.parse (s ++ [z]) ≠ .ok h := by
  intro hparse
  have hhex : Percent.hexValue? z.toNat.toUInt8 = none :=
    Url.forall_isPadding (P := fun z => Percent.hexValue? z.toNat.toUInt8 = none) (by decide) hz
  -- the byte of the character is no digit, so it stays at the end of the decoded name
  have hdomain : (Utf8.read? (Percent.decode (s ++ [z]))).bind Url.Domain.toAscii? = none := by
    rw [Percent.decode, Utf8.bytes_append, Utf8.bytes_singleton,
      Utf8.encodeChar_of_lt (Url.lt_of_isPadding hz)]
    obtain ⟨bs, hbs⟩ := Percent.decodeBytes_concat hhex (Utf8.bytes s)
    rw [hbs, Option.bind_eq_none_iff]
    intro t ht
    obtain ⟨t', rfl⟩ := Utf8.eq_concat_of_bytes (Url.lt_of_isPadding hz) (Utf8.bytes_of_read? ht)
    exact Url.Domain.toAscii?_concat hz t'
  rw [Host.parse.eq_def] at hparse
  split at hparse
  · next rest hrest =>
    -- between brackets the last character has to be the closing one
    have hopen : z ≠ '[' := Url.ne_of_isPadding hz (by decide)
    have hclose : z ≠ ']' := Url.ne_of_isPadding hz (by decide)
    obtain ⟨rest', rfl, _⟩ := Text.exists_concat_of_append_cons (a := []) hopen hrest
    rw [bracketed, List.getLast?_concat] at hparse
    split at hparse
    · next heq => exact hclose (Option.some_inj.1 heq)
    · exact absurd hparse (by simp)
  · rw [hdomain] at hparse
    exact absurd hparse (by simp)

end Host
end Strongbox
