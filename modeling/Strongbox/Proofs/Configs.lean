/-
The settings that make a configuration are the safe ones.

A caller makes choices one after another, each of which sets one thing (`Settings.Choice`).  What
settings make is described here without the checks that are carried out: texts are taken apart into
what is trimmed and what is left (`Text.Stem`, `Text.Core`), settings are safe or not
(`Settings.Safe`), and a configuration is made of choices (`Config.MadeOf`).

* `Text.stem_iff`, `Text.core_iff` — trimming leaves exactly what it should;
* `Settings.get_chooseAll` — of all choices of one thing the last one counts;
* `Settings.exists_toConfig_iff` — settings make a configuration if and only if they are safe;
* `Settings.madeOf_toConfig` — the configuration is made of the choices;
* `Settings.toConfig_safe` — both, and that no service works on an engine without versions.
-/
import Strongbox.Proofs.Origin
import Strongbox.Wire.Standard
import Strongbox.Wire.Transport

namespace Strongbox

/-! ### Trimmed texts -/

namespace Text

variable {p : Char → Bool} {s t : List Char}

/-- What is left of a text when the characters of a class at its end are taken away. -/
def Stem (p : Char → Bool) (s t : List Char) : Prop :=
  (∃ back, s = t ++ back ∧ ∀ c ∈ back, p c = true) ∧ ∀ c ∈ t.getLast?, p c = false

/-- What is left of a text when the characters of a class at both ends are taken away. -/
def Core (p : Char → Bool) (s t : List Char) : Prop :=
  (∃ front back, s = front ++ (t ++ back) ∧ (∀ c ∈ front, p c = true) ∧ ∀ c ∈ back, p c = true) ∧
    (∀ c ∈ t.head?, p c = false) ∧ ∀ c ∈ t.getLast?, p c = false

/-- Trimming the end leaves the stem. -/
theorem stem_iff : Stem p s t ↔ trimEnd p s = t := by
  constructor
  · rintro ⟨⟨back, rfl, hback⟩, hlast⟩
    have hall : ∀ c ∈ back.reverse, p c = true := fun c hc => hback c (List.mem_reverse.1 hc)
    rw [trimEnd, List.reverse_append, List.dropWhile_append_of_pos hall, dropWhile_eq_self,
      List.reverse_reverse]
    rwa [List.head?_reverse]
  · rintro rfl
    exact ⟨exists_eq_trimEnd_append p s, getLast?_trimEnd p s⟩

theorem Core.self (h : Core p s t) : Core p t t :=
  ⟨⟨[], [], (List.append_nil t).symm, fun _ hc => absurd hc List.not_mem_nil,
    fun _ hc => absurd hc List.not_mem_nil⟩, h.2⟩

/-- Trimming both ends leaves the core. -/
theorem core_iff : Core p s t ↔ trimBoth p s = t := by
  rw [trimBoth, ← stem_iff]
  constructor
  · rintro ⟨⟨front, back, rfl, hfront, hback⟩, hhead, hlast⟩
    rw [List.dropWhile_append_of_pos hfront]
    refine ⟨?_, hlast⟩
    cases t with
    | nil =>
      refine ⟨[], ?_, fun _ hc => absurd hc List.not_mem_nil⟩
      exact List.dropWhile_eq_nil_iff.2 hback
    | cons c t =>
      refine ⟨back, ?_, hback⟩
      exact List.dropWhile_cons_of_neg (by simpa using hhead c rfl)
  · rintro ⟨⟨back, hs, hback⟩, hlast⟩
    refine ⟨⟨s.takeWhile p, back, ?_, fun c hc => List.mem_takeWhile_imp hc, hback⟩, fun c hc => ?_,
      hlast⟩
    · rw [← hs, List.takeWhile_append_dropWhile]
    · refine head?_dropWhile p s c ?_
      rw [hs, List.head?_append, Option.mem_def.1 hc]
      rfl

end Text

/-! ### Choices -/

/-- One choice of a caller: the thing that is set, and what to. -/
inductive Settings.Choice where
  | credential (c : Credential)
  | nameSpace (n : String)
  | engine (e : Engine)
  | transitMount (m : String)
  | timeoutMillis (n : Nat)
  | userAgentSuffix (u : String)
  | certificate (pem : List UInt8)

namespace Settings

/-- The settings after a choice. -/
def choose (s : Settings) : Choice → Settings
  | .credential c => s.withCredential c
  | .nameSpace n => s.withNamespace n
  | .engine e => s.withEngine e
  | .transitMount m => s.withTransitMount m
  | .timeoutMillis n => s.withTimeoutMillis n
  | .userAgentSuffix u => s.withUserAgentSuffix u
  | .certificate pem => s.withCertificate pem

/-- The settings after choices one after another. -/
def chooseAll (s : Settings) (choices : List Choice) : Settings := choices.foldl choose s

namespace Choice

/-- The last of the values that choices set a thing to, or the one that it had. -/
def last {β : Type} (set? : Choice → Option β) (choices : List Choice) (first : β) : β :=
  (choices.filterMap set?).getLast?.getD first

def credential? : Choice → Option (Option Credential)
  | .credential c => some (some c)
  | _ => none

def nameSpace? : Choice → Option (Option String)
  | .nameSpace n => some (some n)
  | _ => none

def engine? : Choice → Option Engine
  | .engine e => some e
  | _ => none

def transitMount? : Choice → Option String
  | .transitMount m => some m
  | _ => none

def timeoutMillis? : Choice → Option Nat
  | .timeoutMillis n => some n
  | _ => none

def userAgentSuffix? : Choice → Option (Option String)
  | .userAgentSuffix u => some (some u)
  | _ => none

def certificate? : Choice → Option (Option (List UInt8))
  | .certificate pem => some (some pem)
  | _ => none

end Choice

/-- Of the choices of a thing the last one counts. -/
theorem get_chooseAll {β : Type} (get : Settings → β) (set? : Choice → Option β)
    (h : ∀ s c, get (s.choose c) = (set? c).getD (get s)) (s : Settings) (choices : List Choice) :
    get (s.chooseAll choices) = Choice.last set? choices (get s) := by
  induction choices using List.reverseRecOn with
  | nil => rfl
  | append_singleton choices c ih =>
    rw [chooseAll, List.foldl_append, List.foldl_cons, List.foldl_nil, h, ← chooseAll, ih,
      Choice.last, Choice.last, List.filterMap_append, List.filterMap_cons, List.filterMap_nil]
    cases set? c with
    | none => rw [List.append_nil, Option.getD_none]
    | some b => rw [List.getLast?_concat, Option.getD_some, Option.getD_some]

theorem address_chooseAll (s : Settings) (choices : List Choice) :
    (s.chooseAll choices).address = s.address := by
  induction choices using List.reverseRecOn with
  | nil => rfl
  | append_singleton choices c ih =>
    rw [chooseAll, List.foldl_append, List.foldl_cons, List.foldl_nil, ← chooseAll, ← ih]
    cases c <;> rfl

/-! ### Safe settings -/

/-- Settings that may be used: the address, without white space around it and then without slashes
at its end, is a URL that names no user, of the web with encryption or of the machine itself; there
is a credential; and the transit mount, without slashes around it, is something and has no dot
segment. -/
structure Safe (s : Settings) : Prop where
  address : ∃ a b u, Text.Core Text.isSpace s.address.toList a ∧ Text.Stem (· == '/') a b ∧
    Url.parse b = .ok u ∧ u.username = "" ∧ u.password = none ∧
      (u.scheme = "https" ∨
        (u.scheme = "http" ∧
          (u.host = some (.domain "localhost") ∨
            (∃ n, u.host = some (.ipv4 n) ∧ n / 2 ^ 24 = 127) ∨
            u.host = some (.ipv6 [0, 0, 0, 0, 0, 0, 0, 1]))))
  credential : s.credential ≠ none
  transitMount : ∃ m, Text.Core (· == '/') s.transitMount.toList m ∧ m ≠ [] ∧
    ['.'] ∉ Text.pieces '/' m ∧ ['.', '.'] ∉ Text.pieces '/' m

theorem any_isLoopback_iff {host : Option Host} :
    host.any Host.isLoopback = true ↔ host = some (.domain "localhost") ∨
      (∃ n, host = some (.ipv4 n) ∧ n / 2 ^ 24 = 127) ∨
      host = some (.ipv6 [0, 0, 0, 0, 0, 0, 0, 1]) := by
  cases host with
  | none => simp
  | some h => simp [Host.isLoopback_iff]

theorem checkUrl_eq_ok_iff {u : Url} :
    checkUrl u = .ok () ↔ u.username = "" ∧ u.password = none ∧
      (u.scheme = "https" ∨ (u.scheme = "http" ∧ u.host.any Host.isLoopback = true)) := by
  refine ⟨checkUrl_eq_ok, ?_⟩
  rintro ⟨huser, hpassword, hscheme⟩
  have hcred : u.hasCredentials = false := by simp [Url.hasCredentials, huser, hpassword]
  rw [checkUrl, hcred, if_neg Bool.false_ne_true]
  rcases hscheme with hhttps | ⟨hhttp, hlocal⟩
  · rw [if_pos hhttps]
  · rw [hhttp, if_neg (by decide), if_pos rfl, if_pos hlocal]

theorem hasDotSegment_eq_false_iff {m : List Char} :
    Argument.hasDotSegment m = false ↔
      ['.'] ∉ Text.pieces '/' m ∧ ['.', '.'] ∉ Text.pieces '/' m := by
  rw [Argument.hasDotSegment, Argument.segments, List.any_eq_false]
  constructor
  · intro h
    exact ⟨fun hdot => h _ hdot (by decide), fun hdots => h _ hdots (by decide)⟩
  · rintro ⟨hdot, hdots⟩ seg hseg hisDot
    simp only [Argument.isDotSegment, Bool.or_eq_true, beq_iff_eq] at hisDot
    rcases hisDot with rfl | rfl
    · exact hdot hseg
    · exact hdots hseg

/-- The transit mount that is accepted is the core of the one that was set. -/
theorem checkTransitMount_eq_ok_iff {mount t : String} :
    checkTransitMount mount = .ok t ↔ Text.Core (· == '/') mount.toList t.toList ∧
      t.toList ≠ [] ∧ ['.'] ∉ Text.pieces '/' t.toList ∧ ['.', '.'] ∉ Text.pieces '/' t.toList := by
  rw [Text.core_iff, ← hasDotSegment_eq_false_iff]
  exact checkTransitMount_eq_ok

theorem parse_trimmedAddress_iff {s : Settings} {u : Url} :
    Url.parse s.trimmedAddress = .ok u ↔ ∃ a b, Text.Core Text.isSpace s.address.toList a ∧
      Text.Stem (· == '/') a b ∧ Url.parse b = .ok u := by
  constructor
  · intro h
    exact ⟨_, _, Text.core_iff.2 rfl, Text.stem_iff.2 rfl, h⟩
  · rintro ⟨a, b, ha, hb, h⟩
    rw [trimmedAddress, Text.trim, Text.core_iff.1 ha, Text.stem_iff.1 hb, h]

theorem toConfig_of_checks {s : Settings} {u : Url} {credential : Credential} {mount : String}
    (hparse : Url.parse s.trimmedAddress = .ok u) (hcheck : checkUrl u = .ok ())
    (hcredential : s.credential = some credential)
    (hmount : checkTransitMount s.transitMount = .ok mount) :
    s.toConfig = .ok (s.configWith credential mount) := by
  have haddress : parseAddress s.trimmedAddress = .ok u := by rw [parseAddress, hparse]; rfl
  rw [toConfig, haddress]
  show (checkUrl u >>= fun _ => _) = _
  rw [hcheck, hcredential]
  show (checkTransitMount s.transitMount >>= fun _ => _) = _
  rw [hmount]
  rfl

/-- Settings make a configuration if and only if they are safe. -/
theorem exists_toConfig_iff {s : Settings} : (∃ c, s.toConfig = .ok c) ↔ s.Safe := by
  constructor
  · rintro ⟨c, hc⟩
    obtain ⟨u, credential, mount, hparse, hcheck, hcredential, hmount, -⟩ := toConfig_eq_ok hc
    obtain ⟨a, b, ha, hb, hu⟩ := parse_trimmedAddress_iff.1 (parse_of_parseAddress hparse)
    obtain ⟨huser, hpassword, hscheme⟩ := checkUrl_eq_ok hcheck
    rw [any_isLoopback_iff] at hscheme
    exact ⟨⟨a, b, u, ha, hb, hu, huser, hpassword, hscheme⟩, by rw [hcredential]; simp,
      ⟨_, checkTransitMount_eq_ok_iff.1 hmount⟩⟩
  · rintro ⟨⟨a, b, u, ha, hb, hu, huser, hpassword, hscheme⟩, hcredential, m, hm, hne, hdots⟩
    rw [← any_isLoopback_iff] at hscheme
    obtain ⟨credential, hcredential⟩ := Option.ne_none_iff_exists'.1 hcredential
    have hmount : checkTransitMount s.transitMount = .ok (String.ofList m) :=
      checkTransitMount_eq_ok_iff.2 (by rw [String.toList_ofList]; exact ⟨hm, hne, hdots⟩)
    exact ⟨_, toConfig_of_checks (parse_trimmedAddress_iff.2 ⟨a, b, ha, hb, hu⟩)
      (checkUrl_eq_ok_iff.2 ⟨huser, hpassword, hscheme⟩) hcredential hmount⟩

end Settings

/-! ### What a configuration is made of -/

open Settings (Choice)

/-- A configuration is made of an address and choices: of each thing the last choice counts, texts
are trimmed, a namespace that is blank counts as none, and nothing else is switched on. -/
structure Config.MadeOf (start : Settings) (choices : List Choice) (c : Config) : Prop where
  address : ∃ a, Text.Core Text.isSpace start.address.toList a ∧
    Text.Stem (· == '/') a c.address.toList
  credential : Choice.last Choice.credential? choices start.credential = some c.credential
  nameSpace : c.nameSpace = (Choice.last Choice.nameSpace? choices start.nameSpace).filter
    fun n => !Text.isBlank n
  engine : c.engine = Choice.last Choice.engine? choices start.engine
  transitMount : Text.Core (· == '/')
    (Choice.last Choice.transitMount? choices start.transitMount).toList c.transitMount.toList
  timeoutMillis : c.timeoutMillis = Choice.last Choice.timeoutMillis? choices start.timeoutMillis
  userAgentSuffix : c.userAgentSuffix =
    Choice.last Choice.userAgentSuffix? choices start.userAgentSuffix
  certificate : c.certificate = Choice.last Choice.certificate? choices start.certificate
  telemetry : c.telemetry = .off
  allowRemoteHttp : c.allowRemoteHttp = false

namespace Config.MadeOf

variable {start : Settings} {choices : List Choice} {c : Config} (h : c.MadeOf start choices)
include h

theorem nameSpace_not_blank {n : String} (hn : c.nameSpace = some n) : Text.isBlank n = false := by
  rw [h.nameSpace, Option.filter_eq_some_iff] at hn
  simpa using hn.2

theorem address_end : c.address.toList.getLast? ≠ some '/' := by
  obtain ⟨a, -, -, hlast⟩ := h.address
  intro hslash
  exact absurd (hlast '/' hslash) (by decide)

theorem transitMount_ends :
    c.transitMount.toList.head? ≠ some '/' ∧ c.transitMount.toList.getLast? ≠ some '/' := by
  obtain ⟨-, hhead, hlast⟩ := h.transitMount
  exact ⟨fun hslash => absurd (hhead '/' hslash) (by decide),
    fun hslash => absurd (hlast '/' hslash) (by decide)⟩

end Config.MadeOf

namespace Settings

/-- The configuration that settings make is made of the choices. -/
theorem madeOf_toConfig {start : Settings} {choices : List Choice} {c : Config}
    (h : (start.chooseAll choices).toConfig = .ok c) : c.MadeOf start choices := by
  have hlast : ∀ {β : Type} (get : Settings → β) (set? : Choice → Option β),
      (∀ s c, get (s.choose c) = (set? c).getD (get s)) →
        get (start.chooseAll choices) = Choice.last set? choices (get start) :=
    fun get set? hset => get_chooseAll get set? hset start choices
  obtain ⟨u, credential, mount, -, -, hcredential, hmount, rfl⟩ := toConfig_eq_ok h
  constructor
  · refine ⟨_, Text.core_iff.2 rfl, Text.stem_iff.2 ?_⟩
    rw [configWith, String.toList_ofList, trimmedAddress, address_chooseAll, Text.trim]
  · rw [← hlast Settings.credential Choice.credential? fun s c => by cases c <;> rfl]
    exact hcredential
  · rw [← hlast Settings.nameSpace Choice.nameSpace? fun s c => by cases c <;> rfl]
    rfl
  · exact hlast Settings.engine Choice.engine? fun s c => by cases c <;> rfl
  · rw [← hlast Settings.transitMount Choice.transitMount? fun s c => by cases c <;> rfl]
    exact (checkTransitMount_eq_ok_iff.1 hmount).1
  · exact hlast Settings.timeoutMillis Choice.timeoutMillis? fun s c => by cases c <;> rfl
  · exact hlast Settings.userAgentSuffix Choice.userAgentSuffix? fun s c => by cases c <;> rfl
  · exact hlast Settings.certificate Choice.certificate? fun s c => by cases c <;> rfl
  · rfl
  · rfl

/-- A transit mount that was accepted is accepted again, and as it stands. -/
theorem checkTransitMount_transitMount {s : Settings} {c : Config} (h : s.toConfig = .ok c) :
    checkTransitMount c.transitMount = .ok c.transitMount := by
  obtain ⟨u, credential, mount, -, -, -, hmount, rfl⟩ := toConfig_eq_ok h
  obtain ⟨hcore, hrest⟩ := checkTransitMount_eq_ok_iff.1 hmount
  exact checkTransitMount_eq_ok_iff.2 ⟨hcore.self, hrest⟩

end Settings

namespace Service

/-- A configuration whose engine keeps no versions makes no service, over any backend. -/
theorem connect_unversioned {c : Config} (h : c.engine = .unversioned) (client : Wire.Client) :
    new c = .error unsupportedEngine ∧ connect client c = .error unsupportedEngine := by
  have hnew : new c = .error unsupportedEngine := by
    rw [new, dif_neg (by rw [h]; decide)]
  rw [connect, hnew]
  exact ⟨rfl, rfl⟩

theorem new_versioned {c : Config} (h : c.engine = .versioned) : new c = .ok ⟨c, h⟩ := dif_pos h

end Service

/-- **A configuration is accepted exactly if it is safe.**  Whatever choices a caller makes, and
from whatever settings on: the settings make a configuration if and only if they are safe, and
every fault is one of the configuration.
The configuration is made of the last choice of each thing.  Its address does not end in a slash,
nor does its transit mount begin or end in one, which is accepted again as it stands; and its
namespace is not blank.
If its engine keeps no versions, no service is made of it, over a backend or over HTTP and whether
or not a client could be built; if it does, there is a service. -/
theorem Settings.toConfig_safe (start : Settings) (choices : List Choice) :
    ((∃ c, (start.chooseAll choices).toConfig = .ok c) ↔ (start.chooseAll choices).Safe) ∧
    (∀ fault, (start.chooseAll choices).toConfig = .error fault →
      Service.ofSettings (start.chooseAll choices) = .error (.config fault.message)) ∧
    ∀ c, (start.chooseAll choices).toConfig = .ok c →
      c.MadeOf start choices ∧ c.address.toList.getLast? ≠ some '/' ∧
      c.transitMount.toList.head? ≠ some '/' ∧ c.transitMount.toList.getLast? ≠ some '/' ∧
      checkTransitMount c.transitMount = .ok c.transitMount ∧
      (∀ n, c.nameSpace = some n → Text.isBlank n = false) ∧
      (c.engine = .unversioned →
        Service.ofSettings (start.chooseAll choices) = .error Service.unsupportedEngine ∧
        Service.new c = .error Service.unsupportedEngine ∧
        ∀ client, Service.connect client c = .error Service.unsupportedEngine) ∧
      (c.engine = .versioned → ∃ s, Service.new c = .ok s ∧ s.config = c) := by
  refine ⟨exists_toConfig_iff, fun fault h => by rw [Service.ofSettings, h]; rfl, fun c h => ?_⟩
  have hmade := madeOf_toConfig h
  refine ⟨hmade, hmade.address_end, hmade.transitMount_ends.1, hmade.transitMount_ends.2,
    checkTransitMount_transitMount h, fun n hn => hmade.nameSpace_not_blank hn, fun hengine => ?_,
    fun hengine => ⟨_, Service.new_versioned hengine, rfl⟩⟩
  have hservice := Service.connect_unversioned hengine
  have hnew := (hservice Wire.Standard.bare).1
  exact ⟨by rw [Service.ofSettings, h]; exact hnew, hnew, fun client => (hservice client).2⟩

/-- An address and choices, of which some are made twice, some are blank, and the engine keeps no
versions; no client could be built of them. -/
def oddChoices : List Choice :=
  [.credential (.token "old"), .transitMount "..", .nameSpace " ", .engine .unversioned,
    .userAgentSuffix "\n", .credential (.token "new"), .transitMount "//a/b/"]

/-- The choices make a configuration for an address of the machine itself, but no service; an
address that only looks like one of the machine itself makes none. -/
theorem Settings.toConfig_safe_oddChoices :
    ∃ c, ((Settings.new " http://127.1//\t").chooseAll oddChoices).toConfig = .ok c ∧
      ((Settings.new " http://127.1//\t").chooseAll oddChoices).Safe ∧
      c.MadeOf (Settings.new " http://127.1//\t") oddChoices ∧
      Transport.new Wire.Standard.bare c = .error (.unusableClient "builder error") ∧
      Service.connect Wire.Standard.bare c = .error Service.unsupportedEngine ∧
      ((Settings.new "http://localhost.").chooseAll oddChoices).toConfig =
        .error .remoteWithoutTls ∧
      ¬ ((Settings.new "http://localhost.").chooseAll oddChoices).Safe ∧
      Service.ofSettings ((Settings.new "http://localhost.").chooseAll oddChoices) =
        .error (.config ConfigFault.remoteWithoutTls.message) := by
  obtain ⟨c, hc, hclient⟩ : ∃ c,
      ((Settings.new " http://127.1//\t").chooseAll oddChoices).toConfig = .ok c ∧
        Transport.new Wire.Standard.bare c = .error (.unusableClient "builder error") :=
    ⟨_, rfl, rfl⟩
  have hremote : ((Settings.new "http://localhost.").chooseAll oddChoices).toConfig =
      .error .remoteWithoutTls := rfl
  obtain ⟨hsafe, -, hmade⟩ := Settings.toConfig_safe (Settings.new " http://127.1//\t") oddChoices
  obtain ⟨hsafe', hfault, -⟩ := Settings.toConfig_safe (Settings.new "http://localhost.") oddChoices
  obtain ⟨hmadeOf, -, -, -, -, -, hunversioned, -⟩ := hmade c hc
  have hengine : c.engine = .unversioned := by rw [hmadeOf.engine]; rfl
  refine ⟨c, hc, hsafe.1 ⟨c, hc⟩, hmadeOf, hclient, (hunversioned hengine).2.2 _, hremote, ?_,
    hfault _ hremote⟩
  intro hsafe''
  obtain ⟨c', hc'⟩ := hsafe'.2 hsafe''
  exact absurd (hremote.symm.trans hc') (by simp)

end Strongbox
