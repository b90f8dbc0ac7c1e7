/-
The origin of a URL is that of the address it was made from.

An address that is a URL of the web, with a slash and any text behind it, is either no URL or
one with the same scheme, user, host and port: the authority is found by the first character
that ends it, and where the address has none, that is the added slash.

* `clean_append_cons`, `scheme?_append` — what the added text leaves of the address;
* `parse_append_cons` — the two URLs have one authority;
* `Transport.origin_of_parse` — so no request leaves the server that the settings were checked
  for, and none goes to another machine without encryption.
-/
import Strongbox.Proofs.Authority
import Strongbox.Proofs.Settings
import Strongbox.Wire.Standard
import Strongbox.Wire.Transport

namespace Strongbox

namespace Url

/-! ### Texts of URLs -/

/-- What counts of a text that stands at the end of a longer one. -/
def cleanEnd (t : List Char) : List Char :=
  (Text.trimEnd isPadding t).filter fun c => !isSkipped c

/-- Behind a slash the text is cleaned by itself; in front of it stands what counts of the
address and of the padding at its end. -/
theorem clean_append_cons (s : List Char) :
    ∃ front w, (∀ c ∈ w, isPadding c = true) ∧
      s.filter (fun c => !isSkipped c) = front ++ (clean s ++ w) ∧
      ∀ t, clean (s ++ '/' :: t) = clean s ++ (w ++ '/' :: cleanEnd t) := by
  have hslash : isPadding '/' = false := by decide
  have hkeep : (!isSkipped '/') = true := by decide
  obtain ⟨w, hw, hall⟩ := Text.exists_eq_trimEnd_append isPadding (s.dropWhile isPadding)
  refine ⟨(s.takeWhile isPadding).filter fun c => !isSkipped c, w.filter fun c => !isSkipped c,
    fun c hc => hall c (List.mem_filter.1 hc).1, ?_, fun t => ?_⟩
  · rw [clean, Text.trimBoth, ← List.filter_append, ← hw, ← List.filter_append,
      List.takeWhile_append_dropWhile]
  · -- the slash is no padding, so the text in front of it is trimmed at its start alone
    have hstart : (s ++ '/' :: t).dropWhile isPadding = s.dropWhile isPadding ++ '/' :: t :=
      Text.dropWhile_append_of_head (by simpa using hslash) s
    rw [clean, Text.trimBoth, hstart, Text.trimEnd_append_cons hslash, hw]
    rw [List.filter_append, List.filter_append, List.filter_cons, if_pos hkeep, List.append_assoc,
      clean, Text.trimBoth, cleanEnd]

theorem scheme?_append {s scheme rest : List Char} (h : scheme? s = some (scheme, rest))
    (t : List Char) : scheme? (s ++ t) = some (scheme, rest ++ t) := by
  cases s with
  | nil => exact absurd h (by simp [scheme?])
  | cons c s =>
    rw [scheme?] at h
    split at h
    · next halpha =>
      split at h
      · next r hcolon =>
        rw [Option.some_inj, Prod.mk.injEq] at h
        obtain ⟨rfl, rfl⟩ := h
        have hsplit := List.takeWhile_append_dropWhile (p := isSchemeChar) (l := c :: s)
        rw [hcolon] at hsplit
        have hall : ∀ d ∈ (c :: s).takeWhile isSchemeChar, isSchemeChar d = true := fun d hd =>
          List.mem_takeWhile_imp hd
        have hhead : ∀ d ∈ (':' :: (r ++ t)).head?, isSchemeChar d = false := by
          intro d hd
          obtain rfl : ':' = d := Option.some_inj.1 hd
          decide
        -- both texts are cut at the same colon
        have hlong : c :: (s ++ t) = (c :: s).takeWhile isSchemeChar ++ ':' :: (r ++ t) := by
          rw [← List.cons_append, ← List.cons_append, ← List.append_assoc, hsplit]
        rw [List.cons_append, scheme?, if_pos halpha, hlong,
          Text.takeWhile_append_of_head hhead, Text.dropWhile_append_of_head hhead,
          List.takeWhile_eq_self_iff.2 hall, List.dropWhile_eq_nil_iff.2 hall, List.nil_append]
        rfl
      · exact absurd h (by simp)
    · exact absurd h (by simp)

/-! ### URLs with an authority -/

/-- Is the scheme one of the web? -/
def IsWeb (u : Url) : Prop := u.scheme = "http" ∨ u.scheme = "https"

theorem isSpecial_of_web {scheme : List Char}
    (h : String.ofList scheme = "http" ∨ String.ofList scheme = "https") :
    isSpecial scheme = true ∧ scheme ≠ fileScheme := by
  constructor
  · rw [isSpecial, defaultPort]
    rcases h with h | h <;> rw [h] <;> rfl
  · rintro rfl
    exact absurd h (by decide)

/-- A special URL is made of its authority and what follows that. -/
theorem parse_of_scheme? {s scheme rest : List Char} (h : scheme? (clean s) = some (scheme, rest))
    (hs : isSpecial scheme = true) (hf : scheme ≠ fileScheme) :
    parse s = (authority scheme (rest.dropWhile isSlash)).map fun p =>
      withAuthority scheme p.1 p.2 := by
  rw [parse, h]
  show (if scheme = fileScheme then _ else if isSpecial scheme then _ else _) = _
  rw [if_neg hf, if_pos hs]
  cases authority scheme (rest.dropWhile isSlash) with
  | error f => rfl
  | ok p => rfl

theorem scheme_of_file {s : List Char} {u : Url} (h : file s = .ok u) : u.scheme = "file" := by
  -- all cases end in a URL of the scheme for files
  simp only [file.eq_def] at h
  split at h
  · split at h
    · split at h
      · obtain ⟨p, _, h⟩ := Results.bind_eq_ok.1 h
        rw [← Except.ok.inj h]
        rfl
      · obtain ⟨_, _, h⟩ := Results.bind_eq_ok.1 h
        obtain ⟨p, _, h⟩ := Results.bind_eq_ok.1 h
        rw [← Except.ok.inj h]
        rfl
    · obtain ⟨p, _, h⟩ := Results.bind_eq_ok.1 h
      rw [← Except.ok.inj h]
      rfl
  · obtain ⟨p, _, h⟩ := Results.bind_eq_ok.1 h
    rw [← Except.ok.inj h]
    rfl

theorem exists_authority {s : List Char} {u : Url} (h : parse s = .ok u) (hweb : u.IsWeb) :
    ∃ scheme rest a r, scheme? (clean s) = some (scheme, rest) ∧ isSpecial scheme = true ∧
      scheme ≠ fileScheme ∧ authority scheme (rest.dropWhile isSlash) = .ok (a, r) ∧
      u = withAuthority scheme a r := by
  have hparse := h
  rw [parse] at h
  split at h
  · exact absurd h (by simp)
  · next scheme rest hscheme =>
    by_cases hf : scheme = fileScheme
    · rw [if_pos hf] at h
      rw [IsWeb, scheme_of_file h] at hweb
      exact absurd hweb (by decide)
    · rw [if_neg hf] at h
      -- the scheme of the URL is this one in every case, so it is special
      have hname : u.scheme = String.ofList scheme := by
        split at h
        · obtain ⟨p, _, h⟩ := Results.bind_eq_ok.1 h
          rw [← Except.ok.inj h]
          rfl
        · split at h
          · obtain ⟨p, _, h⟩ := Results.bind_eq_ok.1 h
            rw [← Except.ok.inj h]
            rfl
          · rw [← Except.ok.inj h]
            rfl
      rw [IsWeb, hname] at hweb
      have hs := (isSpecial_of_web hweb).1
      rw [parse_of_scheme? hscheme hs hf] at hparse
      obtain ⟨⟨a, r⟩, ha, hu⟩ := Results.map_eq_ok.1 hparse
      exact ⟨scheme, rest, a, r, hscheme, hs, hf, ha, hu.symm⟩

/-- Padding in front of a slash belongs to the authority, which is refused then. -/
theorem authority_padding {scheme b w : List Char} {z : Char} (hs : isSpecial scheme = true)
    (hb : InAuthority b) (hw : ∀ c ∈ w ++ [z], isPadding c = true) (t : List Char)
    (p : Authority × List Char) : authority scheme (b ++ (w ++ [z] ++ '/' :: t)) ≠ .ok p := by
  have hinner : InAuthority (b ++ w) := hb.append fun c hc => hw c (List.mem_append_left _ hc)
  have hz : isPadding z = true := hw z (List.mem_append_right _ (List.mem_singleton_self z))
  have hshape : b ++ (w ++ [z] ++ '/' :: t) = (b ++ w ++ [z]) ++ '/' :: t := by simp
  rw [hshape, authority_append hs (hinner.concat hz) (behindAuthority_cons rfl t)]
  intro h
  obtain ⟨q, hq, _⟩ := Results.map_eq_ok.1 h
  exact authority_concat hs hinner hz q hq

/-- An authority with padding and a slash behind it is the same one or none. -/
theorem authority_of_append {scheme b w t r r' : List Char} {a a' : Authority}
    (hs : isSpecial scheme = true) (hw : ∀ c ∈ w, isPadding c = true)
    (h : authority scheme b = .ok (a, r))
    (h' : authority scheme (b ++ (w ++ '/' :: t)) = .ok (a', r')) :
    a' = a ∧ (InAuthority b → r' = '/' :: t) := by
  have hslash : BehindAuthority ('/' :: t) := behindAuthority_cons rfl t
  by_cases hb : InAuthority b
  · rcases List.eq_nil_or_concat w with rfl | ⟨w', z, rfl⟩
    · rw [List.nil_append, authority_append hs hb hslash, h] at h'
      obtain ⟨rfl, rfl⟩ := Prod.mk.inj (Except.ok.inj h')
      exact ⟨rfl, fun _ => rfl⟩
    · rw [List.concat_eq_append] at hw h'
      exact absurd h' (authority_padding hs hb hw t _)
  · refine ⟨?_, fun hin => absurd hin hb⟩
    -- both authorities end at the first character of the address that ends one
    obtain ⟨x, c, y, rfl, hx, hc⟩ := exists_of_not_inAuthority hb
    rw [authority_append hs hx (behindAuthority_cons hc _)] at h
    rw [List.append_assoc, List.cons_append,
      authority_append hs hx (behindAuthority_cons hc _)] at h'
    obtain ⟨p, hp, heq⟩ := Results.map_eq_ok.1 h
    obtain ⟨q, hq, heq'⟩ := Results.map_eq_ok.1 h'
    obtain rfl : p = q := Except.ok.inj (hp.symm.trans hq)
    rw [← (Prod.mk.inj heq).1, ← (Prod.mk.inj heq').1]

/-- The text of a URL of the web with a slash and more behind it is read as the URL is, up to where
the authority of that starts. -/
theorem parse_append {s : List Char} {u : Url} (hu : parse s = .ok u) (hweb : u.IsWeb) :
    ∃ scheme rest a r front w, scheme? (clean s) = some (scheme, rest) ∧
      isSpecial scheme = true ∧ authority scheme (rest.dropWhile isSlash) = .ok (a, r) ∧
      u = withAuthority scheme a r ∧ (∀ c ∈ w, isPadding c = true) ∧
      s.filter (fun c => !isSkipped c) = front ++ (clean s ++ w) ∧
      ∀ t, parse (s ++ '/' :: t) =
        (authority scheme (rest.dropWhile isSlash ++ (w ++ '/' :: cleanEnd t))).map fun p =>
          withAuthority scheme p.1 p.2 := by
  obtain ⟨scheme, rest, a, r, hscheme, hs, hf, ha, rfl⟩ := exists_authority hu hweb
  obtain ⟨front, w, hw, hfront, hclean⟩ := clean_append_cons s
  refine ⟨scheme, rest, a, r, front, w, hscheme, hs, ha, rfl, hw, hfront, fun t => ?_⟩
  have hscheme' : scheme? (clean (s ++ '/' :: t)) =
      some (scheme, rest ++ (w ++ '/' :: cleanEnd t)) := by
    rw [hclean, scheme?_append hscheme]
  -- the first text has an authority, so dropping slashes stops inside it
  have hstart : (rest.dropWhile isSlash).isEmpty = false := by
    rw [Bool.eq_false_iff]
    intro hempty
    rw [List.isEmpty_iff.1 hempty] at ha
    exact authority_nil hs _ ha
  rw [parse_of_scheme? hscheme' hs hf, List.dropWhile_append, hstart]
  rfl

/-- A URL of the web, and one whose text has a slash and more behind that of the first, have one
authority.  If the first text ends in its authority, the rest of the second is what was added. -/
theorem parse_append_cons {s t : List Char} {u v : Url} (hu : parse s = .ok u) (hweb : u.IsWeb)
    (hv : parse (s ++ '/' :: t) = .ok v) :
    ∃ scheme rest a r r', scheme? (clean s) = some (scheme, rest) ∧ isSpecial scheme = true ∧
      u = withAuthority scheme a r ∧ v = withAuthority scheme a r' ∧
      (InAuthority (rest.dropWhile isSlash) → r' = '/' :: cleanEnd t) := by
  obtain ⟨scheme, rest, a, r, _, w, hscheme, hs, ha, rfl, hw, -, hparse⟩ := parse_append hu hweb
  rw [hparse] at hv
  obtain ⟨⟨a', r'⟩, ha', rfl⟩ := Results.map_eq_ok.1 hv
  obtain ⟨rfl, hr'⟩ := authority_of_append hs hw ha ha'
  exact ⟨scheme, rest, a', r, r', hscheme, hs, rfl, rfl, hr'⟩

end Url

/-! ### Addresses of settings -/

namespace Settings

theorem checkUrl_eq_ok {u : Url} (h : checkUrl u = .ok ()) :
    u.username = "" ∧ u.password = none ∧
      (u.scheme = "https" ∨ (u.scheme = "http" ∧ u.host.any Host.isLoopback = true)) := by
  rw [checkUrl] at h
  split at h
  · exact absurd h (by simp)
  · next hcred =>
    simp only [Url.hasCredentials, Bool.or_eq_true, Bool.not_eq_true', not_or,
      Bool.not_eq_false, Option.isSome_iff_ne_none, ne_eq, not_not] at hcred
    refine ⟨String.isEmpty_iff.1 hcred.1, hcred.2, ?_⟩
    split at h
    · next hhttps => exact Or.inl hhttps
    · split at h
      · next hhttp =>
        split at h
        · next hlocal => exact Or.inr ⟨hhttp, hlocal⟩
        · exact absurd h (by simp)
      · exact absurd h (by simp)

theorem isWeb_of_checkUrl {u : Url} (h : checkUrl u = .ok ()) : u.IsWeb := by
  rcases (checkUrl_eq_ok h).2.2 with hhttps | ⟨hhttp, _⟩
  · exact Or.inr hhttps
  · exact Or.inl hhttp

theorem trimEnd_trimmedAddress (s : Settings) :
    Text.trimEnd (· == '/') s.trimmedAddress = s.trimmedAddress := by
  rw [trimmedAddress, Text.trimEnd, Text.trimEnd, List.reverse_reverse, List.dropWhile_idempotent]

end Settings

theorem Host.isLoopback_iff {h : Host} :
    h.isLoopback = true ↔ h = .domain "localhost" ∨ (∃ a, h = .ipv4 a ∧ a / 2 ^ 24 = 127) ∨
      h = .ipv6 [0, 0, 0, 0, 0, 0, 0, 1] := by
  cases h with
  | domain name => simp [isLoopback]
  | ipv4 a => simp [isLoopback, Url.Ipv4.isLoopback]
  | ipv6 pieces => simp [isLoopback, Url.Ipv6.isLoopback]

namespace Transport

/-- The text of a URL is the address, a slash and more. -/
theorem urlText_eq {settings : Settings} {t : Transport} (hc : settings.toConfig = .ok t.config)
    (path : String) :
    t.urlText path = settings.trimmedAddress ++
      '/' :: ("v1/".toList ++ path.toList.dropWhile (· == '/')) := by
  obtain ⟨_, _, _, _, _, _, _, hconfig⟩ := Settings.toConfig_eq_ok hc
  rw [urlText, hconfig, Settings.configWith, String.toList_ofList,
    Settings.trimEnd_trimmedAddress, List.append_assoc]
  rfl

/-- **A request stays with the server that was checked.**  If the text of a URL is one at all, its
scheme, host and port are those of the address of the settings, it names no user, and without
encryption its host is the machine itself. -/
theorem origin_of_parse {settings : Settings} {t : Transport}
    (hc : settings.toConfig = .ok t.config) {path : String} {u : Url}
    (hu : Url.parse (t.urlText path) = .ok u) :
    ∃ u₀, Url.parse settings.trimmedAddress = .ok u₀ ∧
      u.scheme = u₀.scheme ∧ u.host = u₀.host ∧ u.port = u₀.port ∧
      u.username = "" ∧ u.password = none ∧
      (u.scheme = "https" ∨
        (u.scheme = "http" ∧
          (u.host = some (.domain "localhost") ∨
            (∃ a, u.host = some (.ipv4 a) ∧ a / 2 ^ 24 = 127) ∨
            u.host = some (.ipv6 [0, 0, 0, 0, 0, 0, 0, 1])))) := by
  obtain ⟨u₀, _, _, hparse, hcheck, _⟩ := Settings.toConfig_eq_ok hc
  have hu₀ := Settings.parse_of_parseAddress hparse
  obtain ⟨huser, hpassword, hscheme⟩ := Settings.checkUrl_eq_ok hcheck
  rw [urlText_eq hc] at hu
  obtain ⟨scheme, _, a, _, _, _, _, rfl, rfl, _⟩ :=
    Url.parse_append_cons hu₀ (Settings.isWeb_of_checkUrl hcheck) hu
  refine ⟨_, hu₀, rfl, rfl, rfl, huser, hpassword, ?_⟩
  rcases hscheme with hhttps | ⟨hhttp, hlocal⟩
  · exact Or.inl hhttps
  · refine Or.inr ⟨hhttp, ?_⟩
    have hhost : a.host.isLoopback = true := hlocal
    rcases Host.isLoopback_iff.1 hhost with hhost | ⟨n, hhost, hn⟩ | hhost
    · exact Or.inl (congrArg some hhost)
    · exact Or.inr (Or.inl ⟨n, congrArg some hhost, hn⟩)
    · exact Or.inr (Or.inr (congrArg some hhost))

open Wire.Standard (bare)

/-- An address of the machine itself in an odd spelling. -/
def oddSettings : Settings :=
  (Settings.new " HTTP:/\\0x7F.1:8200/").withCredential (.token "t")

/-- A path that looks like another server does not lead there. -/
theorem origin_of_parse_oddSettings :
    ∃ c u u₀, oddSettings.toConfig = .ok c ∧
      Url.parse ((Transport.mk c bare).urlText "//@example.com:80/../..") = .ok u ∧
      Url.parse oddSettings.trimmedAddress = .ok u₀ ∧
      u.scheme = u₀.scheme ∧ u.host = u₀.host ∧ u.port = u₀.port ∧
      u.username = "" ∧ u.password = none ∧
      (u.scheme = "https" ∨
        (u.scheme = "http" ∧
          (u.host = some (.domain "localhost") ∨
            (∃ a, u.host = some (.ipv4 a) ∧ a / 2 ^ 24 = 127) ∨
            u.host = some (.ipv6 [0, 0, 0, 0, 0, 0, 0, 1])))) := by
  obtain ⟨c, hc⟩ : ∃ c, oddSettings.toConfig = .ok c := ⟨_, rfl⟩
  obtain ⟨u, hu⟩ :
      ∃ u, Url.parse ((Transport.mk c bare).urlText "//@example.com:80/../..") = .ok u := by
    rw [urlText_eq (t := ⟨c, bare⟩) hc]
    exact ⟨_, rfl⟩
  obtain ⟨u₀, hu₀, hsame⟩ := origin_of_parse (t := ⟨c, bare⟩) hc hu
  exact ⟨c, u, u₀, hc, hu, hu₀, hsame⟩

end Transport
end Strongbox
