/-
Authorities of special URLs do not depend on what follows them.

A text without a character that ends an authority (`InAuthority`) is read in the same way with
and without a text behind it that starts with such a character (`BehindAuthority`):

* `hostSpan_append`, `readPort_append`, `hostAndPort_append` — the steps;
* `authority_append` — the authority is the same, and all that follows is left over;
* `authority_concat` — an authority that ends in a control or a blank is refused.
-/
import Strongbox.Proofs.Hosts
import Strongbox.Proofs.Paths
import Strongbox.Proofs.Results

namespace Strongbox

namespace Text

variable {p : Char → Bool} {r : List Char}

theorem takeWhile_append_of_head (hr : ∀ c ∈ r.head?, p c = false) (a : List Char) :
    (a ++ r).takeWhile p = a.takeWhile p := by
  induction a with
  | nil =>
    cases r with
    | nil => rfl
    | cons c r => exact List.takeWhile_cons_of_neg (by simp [hr c rfl])
  | cons c a ih =>
    rw [List.cons_append, List.takeWhile_cons, List.takeWhile_cons, ih]

theorem dropWhile_append_of_head (hr : ∀ c ∈ r.head?, p c = false) (a : List Char) :
    (a ++ r).dropWhile p = a.dropWhile p ++ r := by
  induction a with
  | nil => exact dropWhile_eq_self hr
  | cons c a ih =>
    rw [List.cons_append, List.dropWhile_cons, List.dropWhile_cons]
    split
    · exact ih
    · rfl

/-- A text that is not outside a class has a first character in it. -/
theorem exists_first {s : List Char} (h : ¬ ∀ c ∈ s, p c = false) :
    ∃ a c b, s = a ++ c :: b ∧ (∀ d ∈ a, p d = false) ∧ p c = true := by
  cases hd : s.dropWhile (fun c => !p c) with
  | nil =>
    have hall := List.dropWhile_eq_nil_iff.1 hd
    exact absurd (fun c hc => by simpa using hall c hc) h
  | cons c b =>
    refine ⟨s.takeWhile fun c => !p c, c, b, ?_, fun d hmem => ?_, ?_⟩
    · rw [← hd, List.takeWhile_append_dropWhile]
    · simpa using List.mem_takeWhile_imp hmem
    · simpa using head?_dropWhile (fun c => !p c) s c (by rw [hd]; rfl)

end Text

namespace Url

/-- No character of the text ends the authority of a special URL. -/
def InAuthority (x : List Char) : Prop := ∀ c ∈ x, endsAuthority true c = false

/-- The text is empty or starts with a character that ends the authority of a special URL. -/
def BehindAuthority (r : List Char) : Prop := ∀ c ∈ r.head?, endsAuthority true c = true

variable {x r : List Char} {z : Char} {scheme : List Char}

theorem behindAuthority_nil : BehindAuthority [] := fun c hc => absurd hc (by simp)

theorem InAuthority.of_append_right {a b : List Char} (h : InAuthority (a ++ b)) :
    InAuthority b := fun c hc => h c (List.mem_append_right a hc)

theorem behindAuthority_cons {c : Char} (hc : endsAuthority true c = true) (s : List Char) :
    BehindAuthority (c :: s) := by
  intro d hd
  obtain rfl : c = d := Option.some_inj.1 hd
  exact hc

/-- Padding may stand in an authority. -/
theorem InAuthority.append (h : InAuthority x) {w : List Char}
    (hw : ∀ c ∈ w, isPadding c = true) : InAuthority (x ++ w) := by
  intro c hc
  rcases List.mem_append.1 hc with hc | hc
  · exact h c hc
  · exact forall_isPadding (P := fun z => endsAuthority true z = false) (by decide) (hw c hc)

theorem InAuthority.concat (h : InAuthority x) (hz : isPadding z = true) :
    InAuthority (x ++ [z]) :=
  h.append fun c hc => by rwa [List.mem_singleton.1 hc]

/-- A text that goes on behind its authority has a first character that ends the authority. -/
theorem exists_of_not_inAuthority (h : ¬ InAuthority x) :
    ∃ y c s, x = y ++ c :: s ∧ InAuthority y ∧ endsAuthority true c = true :=
  Text.exists_first h

theorem takeWhile_append (h : InAuthority x) (hr : BehindAuthority r) :
    (x ++ r).takeWhile (fun c => !endsAuthority true c) = x := by
  have hhead : ∀ c ∈ r.head?, (!endsAuthority true c) = false := fun c hc => by rw [hr c hc]; rfl
  have hall : ∀ c ∈ x, (!endsAuthority true c) = true := fun c hc => by rw [h c hc]; rfl
  rw [Text.takeWhile_append_of_head hhead, List.takeWhile_eq_self_iff.2 hall]

theorem dropWhile_append (h : InAuthority x) (hr : BehindAuthority r) :
    (x ++ r).dropWhile (fun c => !endsAuthority true c) = r := by
  have hhead : ∀ c ∈ r.head?, (!endsAuthority true c) = false := fun c hc => by rw [hr c hc]; rfl
  have hall : ∀ c ∈ x, (!endsAuthority true c) = true := fun c hc => by rw [h c hc]; rfl
  rw [Text.dropWhile_append_of_head hhead, List.dropWhile_eq_nil_iff.2 hall, List.nil_append]

/-! ### Hosts and ports -/

/-- The host part ends at a colon or with the text. -/
theorem hostSpan_eq (h : InAuthority x) (bracket : Bool) :
    (hostSpan true bracket x).1 ++ (hostSpan true bracket x).2 = x ∧
      ((hostSpan true bracket x).2 = [] ∨ ∃ d, (hostSpan true bracket x).2 = ':' :: d) := by
  induction x generalizing bracket with
  | nil => exact ⟨rfl, Or.inl rfl⟩
  | cons c x ih =>
    have hc := h c List.mem_cons_self
    have hx : InAuthority x := fun d hd => h d (List.mem_cons_of_mem c hd)
    rw [hostSpan, hc, Bool.or_false]
    split
    · next hcolon =>
      have heq : c = ':' := by
        simp only [Bool.and_eq_true, beq_iff_eq] at hcolon
        exact hcolon.1
      exact ⟨rfl, Or.inr ⟨x, by rw [heq]⟩⟩
    · obtain ⟨hjoin, hrest⟩ := ih hx (if c = '[' then true else if c = ']' then false else bracket)
      exact ⟨congrArg (c :: ·) hjoin, hrest⟩

theorem hostSpan_append (h : InAuthority x) (hr : BehindAuthority r) (bracket : Bool) :
    hostSpan true bracket (x ++ r) =
      ((hostSpan true bracket x).1, (hostSpan true bracket x).2 ++ r) := by
  induction x generalizing bracket with
  | nil =>
    cases r with
    | nil => rfl
    | cons c r =>
      show hostSpan true bracket (c :: r) = ([], c :: r)
      rw [hostSpan, hr c rfl, Bool.or_true, if_pos rfl]
  | cons c x ih =>
    have hx : InAuthority x := fun d hd => h d (List.mem_cons_of_mem c hd)
    rw [List.cons_append, hostSpan, hostSpan]
    split
    · rfl
    · simp only
      rw [ih hx]

/-- A port is read up to the end of the authority. -/
theorem readPort_append (h : InAuthority x) (hr : BehindAuthority r) :
    readPort scheme (x ++ r) = (readPort scheme x).map fun p => (p.1, r) := by
  -- what ends an authority ends the digits of a port as well
  have hdigit : ∀ c ∈ r.head?, c.isDigit = false := by
    intro c hc
    have hends := hr c hc
    simp only [endsAuthority, Bool.or_eq_true, Bool.and_eq_true, beq_iff_eq, true_and] at hends
    rcases hends with ((rfl | rfl) | rfl) | rfl <;> rfl
  rw [readPort, readPort, Text.takeWhile_append_of_head hdigit,
    Text.dropWhile_append_of_head hdigit]
  cases portOf scheme (x.takeWhile Char.isDigit) with
  | error f => rfl
  | ok p =>
    cases hd : x.dropWhile Char.isDigit with
    | nil =>
      cases r with
      | nil => rfl
      | cons c r => simp [hr c rfl, bind, Except.bind, Except.map]
    | cons d ds =>
      have hmem : d ∈ x := (List.dropWhile_suffix _).subset (hd ▸ List.mem_cons_self)
      simp [h d hmem, bind, Except.bind, Except.map]

theorem readPort_concat (h : InAuthority x) (hz : isPadding z = true)
    (p : Option Nat × List Char) : readPort scheme (x ++ [z]) ≠ .ok p := by
  intro hport
  have hdigit : z.isDigit = false :=
    forall_isPadding (P := fun z => z.isDigit = false) (by decide) hz
  obtain ⟨q, _, hport⟩ := Results.bind_eq_ok.1 hport
  rw [Text.dropWhile_append_of_head (by simpa using hdigit)] at hport
  obtain ⟨c, rest, hc⟩ := List.exists_cons_of_ne_nil (List.concat_ne_nil z
    (x.dropWhile Char.isDigit))
  have hinner : endsAuthority true c = false := by
    refine h.concat hz c ?_
    have hmem : c ∈ x.dropWhile Char.isDigit ++ [z] := hc ▸ List.mem_cons_self
    rw [List.mem_append] at hmem ⊢
    exact hmem.imp_left fun hd => (List.dropWhile_suffix _).subset hd
  rw [hc] at hport
  simp [hinner] at hport

/-! ### Authorities -/

/-- Nothing in front of the end of the authority is no host. -/
theorem hostAndPort_of_behind (hs : isSpecial scheme = true) (hr : BehindAuthority r)
    (user : String × Option String) : hostAndPort scheme user r = .error .emptyHost := by
  have hspan := hostSpan_append (x := []) (fun c hc => absurd hc List.not_mem_nil) hr false
  rw [List.nil_append] at hspan
  simp [hostAndPort, hs, hspan, hostSpan]

theorem hostAndPort_append (hs : isSpecial scheme = true) (h : InAuthority x)
    (hr : BehindAuthority r) (user : String × Option String) :
    hostAndPort scheme user (x ++ r) = (hostAndPort scheme user x).map fun p => (p.1, r) := by
  obtain ⟨hjoin, hrest⟩ := hostSpan_eq h false
  simp only [hostAndPort, hs, hostSpan_append h hr, Bool.true_and, if_true]
  split
  · rfl
  · cases Host.parse (hostSpan true false x).1 with
    | error f => rfl
    | ok host =>
      rcases hrest with hnil | ⟨d, hd⟩
      · -- no port: what follows the authority does not start with a colon
        rw [hnil, List.nil_append]
        dsimp only [bind, Except.bind]
        split
        · next digits => exact absurd (hr ':' rfl) (by decide)
        · rfl
      · have hinner : InAuthority d := fun c hc =>
          h c (hjoin ▸ List.mem_append_right _ (hd ▸ List.mem_cons_of_mem ':' hc))
        rw [hd, List.cons_append]
        show (if host.isEmpty then _ else _) = _
        split
        · next hempty => simp [hempty, bind, Except.bind, Except.map]
        · next hempty =>
          rw [readPort_append hinner hr]
          cases hport : readPort scheme d with
          | error f => simp [hempty, hport, bind, Except.bind, Except.map]
          | ok q => simp [hempty, hport, bind, Except.bind, Except.map]

theorem hostAndPort_concat (hs : isSpecial scheme = true) (h : InAuthority x)
    (hz : isPadding z = true) (user : String × Option String) (p : Authority × List Char) :
    hostAndPort scheme user (x ++ [z]) ≠ .ok p := by
  intro hp
  obtain ⟨hjoin, hrest⟩ := hostSpan_eq (h.concat hz) false
  simp only [hostAndPort, hs, Bool.true_and, if_true] at hp
  split at hp
  · exact absurd hp (by simp)
  · obtain ⟨host, hhost, hp⟩ := Results.bind_eq_ok.1 hp
    rcases hrest with hnil | ⟨d, hd⟩
    · -- without a port the host ends in the character
      rw [hnil, List.append_nil] at hjoin
      rw [hjoin] at hhost
      exact Host.parse_concat hz x host hhost
    · rw [hd] at hjoin hp
      simp only at hp
      split at hp
      · exact absurd hp (by simp)
      · obtain ⟨q, hport, _⟩ := Results.bind_eq_ok.1 hp
        have hcolon : z ≠ ':' := ne_of_isPadding hz (by decide)
        obtain ⟨d', rfl, hfront⟩ := Text.exists_concat_of_append_cons hcolon hjoin.symm
        refine readPort_concat (fun e he => h e ?_) hz q hport
        exact hfront ▸ List.mem_append_right _ (List.mem_cons_of_mem ':' he)

/-- The two sides of the last at sign. -/
theorem eq_of_splitUser? {info host : List Char} (h : splitUser? x = some (info, host)) :
    x = info ++ '@' :: host := by
  rw [splitUser?] at h
  split at h
  · next c before hbefore =>
    rw [Option.some_inj, Prod.mk.injEq] at h
    obtain ⟨rfl, rfl⟩ := h
    have hc : c = '@' := by
      simpa using Text.head?_dropWhile (· != '@') x.reverse c (by rw [hbefore]; rfl)
    have hsplit := List.takeWhile_append_dropWhile (p := (· != '@')) (l := x.reverse)
    rw [hbefore, hc] at hsplit
    calc x = x.reverse.reverse := (List.reverse_reverse x).symm
      _ = (x.reverse.takeWhile (· != '@') ++ '@' :: before).reverse := by rw [hsplit]
      _ = before.reverse ++ '@' :: (x.reverse.takeWhile (· != '@')).reverse := by simp
  · exact absurd h (by simp)

/-- An authority is found by the first character that ends it.  Without an at sign it is a host
and a port. -/
theorem authority_of_none (hs : isSpecial scheme = true) (h : InAuthority x)
    (hr : BehindAuthority r) (hsplit : splitUser? x = none) :
    authority scheme (x ++ r) = hostAndPort scheme ("", none) (x ++ r) := by
  rw [authority, hs, takeWhile_append h hr, hsplit]

/-- With an at sign, the host and the port stand behind the last one. -/
theorem authority_of_some (hs : isSpecial scheme = true) (h : InAuthority x)
    (hr : BehindAuthority r) {info host : List Char} (hsplit : splitUser? x = some (info, host)) :
    authority scheme (x ++ r) =
      if info.isEmpty then
        if host.isEmpty && !r.isEmpty then .error .emptyHost
        else hostAndPort scheme ("", none) (host ++ r)
      else
        hostAndPort scheme (userParts info) (host ++ r) >>= fun p =>
          if p.1.host.isEmpty && (!(userParts info).1.isEmpty || (userParts info).2.isSome) then
            .error .emptyHost
          else .ok p := by
  rw [authority, hs, takeWhile_append h hr, dropWhile_append h hr, hsplit]

/-- **An authority is the same whatever follows it**, and all of that is left over. -/
theorem authority_append (hs : isSpecial scheme = true) (h : InAuthority x)
    (hr : BehindAuthority r) :
    authority scheme (x ++ r) = (authority scheme x).map fun p => (p.1, r) := by
  cases hsplit : splitUser? x with
  | none =>
    have hnil := authority_of_none hs h behindAuthority_nil hsplit
    rw [List.append_nil] at hnil
    rw [hnil, authority_of_none hs h hr hsplit]
    exact hostAndPort_append hs h hr _
  | some parts =>
    obtain ⟨info, host⟩ := parts
    have hinner : InAuthority host := by
      rw [eq_of_splitUser? hsplit, ← List.singleton_append, ← List.append_assoc] at h
      exact h.of_append_right
    have hnil := authority_of_some hs h behindAuthority_nil hsplit
    rw [List.append_nil, List.append_nil] at hnil
    rw [hnil, authority_of_some hs h hr hsplit]
    split
    · -- without a host both are refused, though not at the same check
      by_cases hhost : host = []
      · subst hhost
        rw [List.nil_append, hostAndPort_of_behind hs behindAuthority_nil,
          hostAndPort_of_behind hs hr]
        cases r <;> rfl
      · have hhost' : host.isEmpty = false := by simpa using hhost
        simp only [hhost', Bool.false_and]
        exact hostAndPort_append hs hinner hr _
    · rw [hostAndPort_append hs hinner hr]
      cases hostAndPort scheme (userParts info) host with
      | error f => rfl
      | ok p =>
        show (if _ then _ else _) = Except.map _ (if _ then _ else _)
        split <;> rfl

/-- An authority that ends in a control or a blank is refused. -/
theorem authority_concat (hs : isSpecial scheme = true) (h : InAuthority x)
    (hz : isPadding z = true) (p : Authority × List Char) :
    authority scheme (x ++ [z]) ≠ .ok p := by
  intro hp
  cases hsplit : splitUser? (x ++ [z]) with
  | none =>
    have hnil := authority_of_none hs (h.concat hz) behindAuthority_nil hsplit
    rw [List.append_nil] at hnil
    rw [hnil] at hp
    exact hostAndPort_concat hs h hz _ _ hp
  | some parts =>
    obtain ⟨info, host⟩ := parts
    have hnil := authority_of_some hs (h.concat hz) behindAuthority_nil hsplit
    rw [List.append_nil, List.append_nil] at hnil
    rw [hnil] at hp
    -- what stands behind the last at sign ends in the character as well
    obtain ⟨host', rfl, hinner⟩ : ∃ host', host = host' ++ [z] ∧ InAuthority host' := by
      have hat : z ≠ '@' := ne_of_isPadding hz (by decide)
      obtain ⟨host', rfl, hfront⟩ :=
        Text.exists_concat_of_append_cons hat (eq_of_splitUser? hsplit)
      refine ⟨host', rfl, fun e he => h e ?_⟩
      exact hfront ▸ List.mem_append_right _ (List.mem_cons_of_mem '@' he)
    split at hp
    · split at hp
      · exact absurd hp (by simp)
      · exact hostAndPort_concat hs hinner hz _ _ hp
    · obtain ⟨q, hq, _⟩ := Results.bind_eq_ok.1 hp
      exact hostAndPort_concat hs hinner hz _ q hq

theorem authority_nil (hs : isSpecial scheme = true) (p : Authority × List Char) :
    authority scheme [] ≠ .ok p := by
  have hempty : InAuthority [] := fun c hc => absurd hc List.not_mem_nil
  have hnil : authority scheme ([] ++ []) = hostAndPort scheme ("", none) ([] ++ []) :=
    authority_of_none hs hempty behindAuthority_nil rfl
  rw [List.append_nil] at hnil
  rw [hnil, hostAndPort_of_behind hs behindAuthority_nil]
  intro heq
  cases heq

end Url
end Strongbox
