/-
Settings from the environment and from properties are the same.

The seven settings have a name in each source (`SettingNames.nameOf`).  If both sources give the
same texts, each under the names of its own, then both make the same settings, or none of them
makes any; what they say in that case may differ in the names of the settings.  The variables of an
environment are bytes: where one of them is no text there is nothing to compare, since the program
stops.

* `Environment.texts?_eq_some_iff` — the texts of an environment are those that its bytes spell;
* `Environment.Give.settings` — among them each setting has the value that it was given;
* `ofVariables_eq`, `ofProperties_eq` — what the sources make of the texts that count: the parts
  that can fail are the same, in another order;
* `loaders_agree` — so both make the same settings, or both fail, with texts that are equal up to
  the names of the settings, unless the address is missing or two texts are wrong;
* `not_upToNames_missing` — of a missing address they speak in different words.
-/
import Strongbox.Config.Sources
import Strongbox.Proofs.Percent
import Strongbox.Proofs.Results
import Mathlib.Data.Set.List

namespace Strongbox

/-! ### What the sources are given -/

/-- The settings that a source can give. -/
inductive SettingNames.Role where
  | address
  | token
  | nameSpace
  | engine
  | transitMount
  | timeout
  | certificate

/-- The name of a setting. -/
def SettingNames.nameOf (names : SettingNames) : Role → String
  | .address => names.address
  | .token => names.token
  | .nameSpace => names.nameSpace
  | .engine => names.engine
  | .transitMount => names.transitMount
  | .timeout => names.timeout
  | .certificate => names.certificate

open SettingNames (Role)

/-- The texts of a source give these values to the settings, whatever else they hold. -/
def SettingTexts.Give (texts : SettingTexts) (names : SettingNames)
    (values : Role → Option String) : Prop :=
  ∀ role, (texts.find? (·.1 == names.nameOf role)).map (·.2) = values role

namespace Environment

/-- The variables of an environment are the texts' bytes. -/
def bytesOf (t : String × String) : List UInt8 × List UInt8 :=
  (Utf8.ofString t.1, Utf8.ofString t.2)

/-- Are the names and the values of all variables texts? -/
def IsText (env : Environment) : Prop := ∀ v ∈ env, ∃ t, bytesOf t = v

/-- The last variables of the names of the settings have these values, whatever others there are. -/
def Give (env : Environment) (values : Role → Option String) : Prop :=
  ∀ role, (env.reverse.find? (·.1 == Utf8.ofString (SettingNames.environment.nameOf role))).map
    (·.2) = (values role).map Utf8.ofString

theorem ofString_injective {s t : String} (h : Utf8.ofString s = Utf8.ofString t) : s = t :=
  String.toList_injective (Utf8.bytes_injective h)

theorem text?_eq_some_iff {bytes : List UInt8} {s : String} :
    text? bytes = some s ↔ Utf8.ofString s = bytes := by
  rw [text?, Option.map_eq_some_iff]
  constructor
  · rintro ⟨cs, hread, rfl⟩
    rw [Utf8.ofString, String.toList_ofList]
    exact Utf8.read?_eq_some_iff.1 hread
  · intro h
    exact ⟨s.toList, Utf8.read?_eq_some_iff.2 h, String.ofList_toList⟩

/-- The texts of an environment are those whose bytes the variables are. -/
theorem texts?_eq_some_iff {env : Environment} {texts : SettingTexts} :
    env.texts? = some texts ↔ texts.map bytesOf = env := by
  induction env generalizing texts with
  | nil => simp [texts?, eq_comm]
  | cons v env ih =>
    have hcons : texts? (v :: env) = some texts ↔ ∃ name value rest, text? v.1 = some name ∧
        text? v.2 = some value ∧ texts? env = some rest ∧ (name, value) :: rest = texts := by
      simp only [texts?, List.mapM_cons, bind, pure, Option.bind_eq_some_iff, Option.some_inj]
      constructor
      · rintro ⟨t, ⟨name, hname, value, hvalue, rfl⟩, rest, hrest, h⟩
        exact ⟨name, value, rest, hname, hvalue, hrest, h⟩
      · rintro ⟨name, value, rest, hname, hvalue, hrest, h⟩
        exact ⟨_, ⟨name, hname, value, hvalue, rfl⟩, rest, hrest, h⟩
    rw [hcons]
    constructor
    · rintro ⟨name, value, rest, hname, hvalue, hrest, rfl⟩
      rw [List.map_cons, ih.1 hrest, bytesOf, text?_eq_some_iff.1 hname,
        text?_eq_some_iff.1 hvalue]
    · intro h
      obtain ⟨⟨name, value⟩, rest, rfl, rfl, hrest⟩ := List.map_eq_cons_iff.1 h
      exact ⟨name, value, rest, text?_eq_some_iff.2 rfl, text?_eq_some_iff.2 rfl, ih.2 hrest, rfl⟩

theorem exists_texts_iff {env : Environment} : (∃ texts, env.texts? = some texts) ↔ env.IsText := by
  constructor
  · rintro ⟨texts, h⟩ v hv
    rw [← texts?_eq_some_iff.1 h] at hv
    obtain ⟨t, -, ht⟩ := List.mem_map.1 hv
    exact ⟨t, ht⟩
  · intro h
    obtain ⟨texts, htexts⟩ : env ∈ Set.range (List.map bytesOf) := by
      rw [Set.range_list_map]
      exact h
    exact ⟨texts, texts?_eq_some_iff.2 htexts⟩

/-- The settings among the texts have the values that the environment gives. -/
theorem Give.settings {env : Environment} {values : Role → Option String} (h : env.Give values)
    {texts : SettingTexts} (htexts : env.texts? = some texts) :
    (settings texts).Give .environment values := by
  intro role
  have hmark : ∀ t : String × String, (t.1 == SettingNames.environment.nameOf role) = true →
      mark.toList.isPrefixOf t.1.toList = true := by
    intro t ht
    rw [beq_iff_eq.1 ht]
    cases role <;> decide
  have hsame : ∀ t : String × String,
      (Utf8.ofString t.1 == Utf8.ofString (SettingNames.environment.nameOf role)) =
        (t.1 == SettingNames.environment.nameOf role) := by
    intro t
    rw [Bool.eq_iff_iff, beq_iff_eq, beq_iff_eq]
    exact ⟨ofString_injective, fun heq => by rw [heq]⟩
  have hrole := h role
  rw [← texts?_eq_some_iff.1 htexts, ← List.map_reverse, List.find?_map] at hrole
  simp only [Function.comp_def, bytesOf, hsame, Option.map_map] at hrole
  -- what is left out has the name of no setting
  have hfilter : (Environment.settings texts).find?
        (·.1 == SettingNames.environment.nameOf role) =
      texts.reverse.find? (·.1 == SettingNames.environment.nameOf role) := by
    rw [Environment.settings, ← List.filter_reverse, List.find?_filter]
    congr 1
    funext t
    cases ht : t.1 == SettingNames.environment.nameOf role with
    | false => simp
    | true => simp [hmark t ht]
  rw [hfilter]
  refine Option.map_injective (fun _ _ => ofString_injective) ?_
  rw [Option.map_map]
  exact hrole

end Environment

/-- The values that count: those that are there and not blank. -/
def SettingNames.seen (values : Role → Option String) (role : Role) : Option String :=
  (values role).filter fun v => !Text.isBlank v

open SettingNames (seen)

theorem SettingNames.seen_seen (values : Role → Option String) :
    seen (seen values) = seen values := by
  funext role
  rw [seen, seen, Option.filter_filter]
  simp only [Bool.and_self]

theorem SettingTexts.Give.get? {texts : SettingTexts} {names : SettingNames}
    {values : Role → Option String} (h : texts.Give names values) (role : Role) :
    texts.get? (names.nameOf role) = seen values role := by
  rw [SettingTexts.get?, h, seen]

namespace Settings

/-! ### The parts that can fail -/

/-- The engine that the values ask for. -/
def engineOf (given : Role → Option String) : Except ConfigFault Engine :=
  match given .engine with
  | none => .ok .versioned
  | some v => readEngine v

/-- The timeout that the values ask for; a fault speaks of a name. -/
def timeoutOf (name : String) (given : Role → Option String) : Except ConfigFault Nat :=
  match given .timeout with
  | none => .ok defaultTimeoutMillis
  | some v => readMillis name v

/-- The certificate that the values ask for. -/
def certificateOf (files : Files) (given : Role → Option String) :
    Except ConfigFault (Option (List UInt8)) :=
  match given .certificate with
  | none => .ok none
  | some v =>
    match files (Text.trimString v) with
    | .ok pem => .ok (some pem)
    | .error cause => .error (.unreadableCertificate (Text.trimString v) cause)

/-- The settings that the values make, when the parts that can fail are known. -/
def ofParts (given : Role → Option String) (address : String) (engine : Engine)
    (timeout : Nat) (certificate : Option (List UInt8)) : Settings where
  address := Text.trimString address
  credential := (given .token).map fun v => .token (Text.trimString v)
  nameSpace := (given .nameSpace).map Text.trimString
  engine := engine
  transitMount := ((given .transitMount).map Text.trimString).getD defaultTransitMount
  timeoutMillis := timeout
  userAgentSuffix := none
  certificate := certificate

section

variable {names : SettingNames} {texts : SettingTexts} {given : Role → Option String}
  (h : ∀ role, texts.get? (names.nameOf role) = given role)
include h

/-- A setting that cannot fail is set if its text is there. -/
theorem apply_ok (role : Role) (set : Settings → String → Settings) (s : Settings) :
    apply texts (names.nameOf role) (fun s v => .ok (set s v)) s =
      .ok ((given role).elim s (set s)) := by
  rw [apply, h]
  cases given role <;> rfl

theorem commonPart_none (haddress : given .address = none) (missing : ConfigFault) :
    commonPart names missing texts = .error missing := by
  have hget : texts.get? names.address = none := (h .address).trans haddress
  rw [commonPart, hget]

theorem commonPart_some {address : String} (haddress : given .address = some address)
    (missing : ConfigFault) :
    commonPart names missing texts = (engineOf given).map fun engine =>
      ofParts given address engine defaultTimeoutMillis none := by
  have hget : texts.get? names.address = some address := (h .address).trans haddress
  have htoken : ∀ s, apply texts names.token
      (fun s v => .ok (s.withCredential (.token (Text.trimString v)))) s = _ :=
    apply_ok h .token fun s v => s.withCredential (.token (Text.trimString v))
  have hnameSpace : ∀ s, apply texts names.nameSpace
      (fun s v => .ok (s.withNamespace (Text.trimString v))) s = _ :=
    apply_ok h .nameSpace fun s v => s.withNamespace (Text.trimString v)
  have hmount : ∀ s, apply texts names.transitMount
      (fun s v => .ok (s.withTransitMount (Text.trimString v))) s = _ :=
    apply_ok h .transitMount fun s v => s.withTransitMount (Text.trimString v)
  have hengine : ∀ s : Settings, s.engine = .versioned →
      apply texts names.engine (fun s v => (readEngine v).map s.withEngine) s =
        (engineOf given).map s.withEngine := by
    intro s hs
    have hgetEngine : texts.get? names.engine = given .engine := h .engine
    rw [apply, hgetEngine, engineOf]
    cases given .engine with
    | none =>
      show Except.ok s = .ok { s with engine := .versioned }
      rw [← hs]
    | some v => rfl
  rw [commonPart, hget]
  simp only [htoken, hnameSpace, hmount, bind, Except.bind, ofParts]
  -- each of the other settings is there or not
  cases given .token <;> cases given .nameSpace <;> cases given .transitMount <;>
    rw [hengine _ rfl] <;> cases engineOf given <;> rfl

theorem timeoutPart_eq (s : Settings) (hs : s.timeoutMillis = defaultTimeoutMillis) :
    timeoutPart names texts s = (timeoutOf names.timeout given).map s.withTimeoutMillis := by
  have hget : texts.get? names.timeout = given .timeout := h .timeout
  rw [timeoutPart, apply, hget, timeoutOf]
  cases given .timeout with
  | none =>
    show Except.ok s = .ok { s with timeoutMillis := defaultTimeoutMillis }
    rw [← hs]
  | some v => rfl

theorem certificatePart_eq (files : Files) (s : Settings) (hs : s.certificate = none) :
    certificatePart names files texts s =
      (certificateOf files given).map fun pem => { s with certificate := pem } := by
  have hget : texts.get? names.certificate = given .certificate := h .certificate
  rw [certificatePart, apply, hget, certificateOf]
  cases given .certificate with
  | none =>
    show Except.ok s = .ok { s with certificate := none }
    rw [← hs]
  | some v =>
    dsimp only
    cases files (Text.trimString v) <;> rfl

end

/-! ### What the sources make -/

/-- What the environment makes of its values: the certificate is read before the timeout. -/
def fromEnvironment (files : Files) (given : Role → Option String) :
    Except ConfigFault Settings :=
  match given .address with
  | none => .error (.variableUnset SettingNames.environment.address)
  | some address => do
    let engine ← engineOf given
    let certificate ← certificateOf files given
    let timeout ← timeoutOf SettingNames.environment.timeout given
    .ok (ofParts given address engine timeout certificate)

/-- What properties make of their values: the timeout is read before the certificate. -/
def fromProperties (files : Files) (given : Role → Option String) :
    Except ConfigFault Settings :=
  match given .address with
  | none => .error (.propertyMissing SettingNames.properties.address)
  | some address => do
    let engine ← engineOf given
    let timeout ← timeoutOf SettingNames.properties.timeout given
    let certificate ← certificateOf files given
    .ok (ofParts given address engine timeout certificate)

section

variable {files : Files} {texts : SettingTexts} {env : Environment}
  {values : Role → Option String}

theorem ofVariables_eq (h : texts.Give .environment values) :
    ofVariables files texts = fromEnvironment files (seen values) := by
  rw [ofVariables, fromEnvironment]
  cases haddress : seen values .address with
  | none =>
    dsimp only
    rw [commonPart_none h.get? haddress]
    rfl
  | some address =>
    dsimp only
    rw [commonPart_some h.get? haddress]
    cases engineOf (seen values) with
    | error fault => rfl
    | ok engine =>
      show (certificatePart _ _ _ _ >>= _) = (certificateOf _ _ >>= _)
      rw [certificatePart_eq h.get? files _ rfl]
      cases certificateOf files (seen values) with
      | error fault => rfl
      | ok certificate =>
        show timeoutPart _ _ _ = (timeoutOf _ _ >>= _)
        rw [timeoutPart_eq h.get? _ rfl]
        cases timeoutOf SettingNames.environment.timeout (seen values) <;> rfl

theorem ofEnvironment_eq (h : env.Give values) (htext : env.IsText) :
    ofEnvironment files env = some (fromEnvironment files (seen values)) := by
  obtain ⟨texts, htexts⟩ := Environment.exists_texts_iff.2 htext
  rw [ofEnvironment, htexts, Option.map_some, ofVariables_eq (h.settings htexts)]

theorem ofEnvironment_eq_none (h : ¬ env.IsText) : ofEnvironment files env = none := by
  rw [ofEnvironment, Option.map_eq_none_iff, Option.eq_none_iff_forall_ne_some]
  exact fun texts htexts => h (Environment.exists_texts_iff.1 ⟨texts, htexts⟩)

theorem ofProperties_eq (h : texts.Give .properties values) :
    ofProperties files texts = fromProperties files (seen values) := by
  rw [ofProperties, fromProperties]
  cases haddress : seen values .address with
  | none =>
    dsimp only
    rw [commonPart_none h.get? haddress]
    rfl
  | some address =>
    dsimp only
    rw [commonPart_some h.get? haddress]
    cases engineOf (seen values) with
    | error fault => rfl
    | ok engine =>
      show (timeoutPart _ _ _ >>= _) = (timeoutOf _ _ >>= _)
      rw [timeoutPart_eq h.get? _ rfl]
      cases timeoutOf SettingNames.properties.timeout (seen values) with
      | error fault => rfl
      | ok timeout =>
        dsimp only [Except.map, bind, Except.bind]
        rw [certificatePart_eq h.get? files _ rfl]
        cases certificateOf files (seen values) <;> rfl

end

/-! ### Texts up to names -/

/-- A text with places for the names of settings, filled with the names of a source. -/
def fill (names : SettingNames) (pattern : List (Char ⊕ Role)) : List Char :=
  pattern.flatMap (Sum.elim (fun c => [c]) fun role => (names.nameOf role).toList)

/-- A text of the environment and one of properties are equal up to the names of the settings. -/
def UpToNames (text text' : String) : Prop :=
  ∃ pattern, fill .environment pattern = text.toList ∧ fill .properties pattern = text'.toList

theorem fill_inl (names : SettingNames) (s : List Char) : fill names (s.map .inl) = s := by
  rw [fill, List.flatMap_map]
  exact List.flatMap_singleton' s

theorem UpToNames.refl (text : String) : UpToNames text text :=
  ⟨text.toList.map .inl, fill_inl _ _, fill_inl _ _⟩

theorem fill_inr (names : SettingNames) (role : Role) (s : List Char) :
    fill names (.inr role :: s.map .inl) = (names.nameOf role).toList ++ s := by
  rw [fill, List.flatMap_cons, ← fill, fill_inl, Sum.elim_inr]

theorem upToNames_notMillis :
    UpToNames (ConfigFault.notMillis SettingNames.environment.timeout).message
      (ConfigFault.notMillis SettingNames.properties.timeout).message := by
  have hmessage : ∀ name, (ConfigFault.notMillis name).message.toList =
      name.toList ++ " must be a number of milliseconds".toList := fun _ => String.toList_append
  refine ⟨.inr .timeout :: " must be a number of milliseconds".toList.map .inl, ?_, ?_⟩
  · rw [fill_inr, hmessage, SettingNames.nameOf]
  · rw [fill_inr, hmessage, SettingNames.nameOf]

/-! ### Faults -/

/-- A timeout that is there and is no number of milliseconds. -/
def BadTimeout (values : Role → Option String) : Prop :=
  ∃ v, seen values .timeout = some v ∧ nat64? (Text.trim v.toList) = none

/-- A certificate that is there and whose file cannot be read. -/
def BadCertificate (files : Files) (values : Role → Option String) : Prop :=
  ∃ v cause, seen values .certificate = some v ∧ files (Text.trimString v) = .error cause

variable {files : Files} {values : Role → Option String}

theorem timeoutOf_cases : (∃ timeout, ∀ name, timeoutOf name (seen values) = .ok timeout) ∨
    (BadTimeout values ∧ ∀ name, timeoutOf name (seen values) = .error (.notMillis name)) := by
  cases h : seen values .timeout with
  | none => exact .inl ⟨defaultTimeoutMillis, fun name => by rw [timeoutOf, h]⟩
  | some v =>
    cases hv : nat64? (Text.trim v.toList) with
    | none => exact .inr ⟨⟨v, h, hv⟩, fun name => by
        rw [timeoutOf, h]
        dsimp only
        rw [readMillis, hv]⟩
    | some n =>
      exact .inl ⟨n, fun name => by
        rw [timeoutOf, h]
        dsimp only
        rw [readMillis, hv]⟩

theorem certificateOf_cases : (∃ certificate, certificateOf files (seen values) = .ok certificate) ∨
    (BadCertificate files values ∧ ∃ fault, certificateOf files (seen values) = .error fault) := by
  cases h : seen values .certificate with
  | none => exact .inl ⟨none, by rw [certificateOf, h]⟩
  | some v =>
    cases hv : files (Text.trimString v) with
    | error cause =>
      exact .inr ⟨⟨v, cause, h, hv⟩, _, by
        rw [certificateOf, h]
        dsimp only
        rw [hv]⟩
    | ok pem =>
      exact .inl ⟨some pem, by
        rw [certificateOf, h]
        dsimp only
        rw [hv]⟩

/-! ### The sources agree -/

/-- The faults of both sources when the address is there, one after the other in the order of each;
their texts are equal up to names unless both the timeout and the certificate are bad. -/
theorem fromEnvironment_fromProperties {address : String}
    (haddress : seen values .address = some address) :
    (∃ s, fromEnvironment files (seen values) = .ok s ∧
        fromProperties files (seen values) = .ok s) ∨
      ∃ f g, fromEnvironment files (seen values) = .error f ∧
        fromProperties files (seen values) = .error g ∧
        (¬ (BadTimeout values ∧ BadCertificate files values) → UpToNames f.message g.message) := by
  rw [fromEnvironment, fromProperties, haddress]
  dsimp only
  cases engineOf (seen values) with
  | error fault => exact .inr ⟨fault, fault, rfl, rfl, fun _ => UpToNames.refl _⟩
  | ok engine =>
    rcases timeoutOf_cases with ⟨timeout, htimeout⟩ | ⟨hbad, htimeout⟩
    · rw [htimeout, htimeout]
      rcases certificateOf_cases with ⟨certificate, hcertificate⟩ | ⟨-, fault, hcertificate⟩
      · rw [hcertificate]
        exact .inl ⟨_, rfl, rfl⟩
      · rw [hcertificate]
        exact .inr ⟨fault, fault, rfl, rfl, fun _ => UpToNames.refl _⟩
    · rw [htimeout, htimeout]
      rcases certificateOf_cases with ⟨certificate, hcertificate⟩ | ⟨hbad', fault, hcertificate⟩
      · rw [hcertificate]
        exact .inr ⟨_, _, rfl, rfl, fun _ => upToNames_notMillis⟩
      · rw [hcertificate]
        exact .inr ⟨_, _, rfl, rfl, fun hnot => absurd ⟨hbad, hbad'⟩ hnot⟩

/-- **The environment and properties say the same.**  Both sources give the same values to the
settings, each under its own names and whatever else it holds, and files are the same.  The program
stops if there is a variable that is no text.  Otherwise, without an address, or with a blank one,
both sources fail, each in its own words.  With an address both make the same settings, or both
fail; and unless the timeout and the certificate are both bad, the texts of the two faults are equal
up to the names of the settings.  A value that is blank counts as none in both. -/
theorem loaders_agree {env : Environment} {props : SettingTexts} (henv : env.Give values)
    (hprops : props.Give .properties values) (files : Files) :
    (¬ env.IsText → ofEnvironment files env = none) ∧
    (env.IsText →
      (seen values .address = none →
        ∃ f g, ofEnvironment files env = some (.error f) ∧ ofProperties files props = .error g ∧
          f.message = "VAULT_ADDR is not set" ∧ g.message = "vault.uri must be specified") ∧
      (seen values .address ≠ none →
        (∃ s, ofEnvironment files env = some (.ok s) ∧ ofProperties files props = .ok s) ∨
          ∃ f g, ofEnvironment files env = some (.error f) ∧ ofProperties files props = .error g ∧
            (¬ (BadTimeout values ∧ BadCertificate files values) →
              UpToNames f.message g.message)) ∧
      ∀ (env' : Environment) (props' : SettingTexts), env'.IsText → env'.Give (seen values) →
        props'.Give .properties (seen values) →
          ofEnvironment files env' = ofEnvironment files env ∧
            ofProperties files props' = ofProperties files props) := by
  refine ⟨ofEnvironment_eq_none, fun htext => ?_⟩
  rw [ofEnvironment_eq henv htext, ofProperties_eq hprops]
  refine ⟨fun hnone => ?_, fun hsome => ?_, fun env' props' htext' henv' hprops' => ?_⟩
  · rw [fromEnvironment, fromProperties, hnone]
    exact ⟨_, _, rfl, rfl, rfl, rfl⟩
  · obtain ⟨address, haddress⟩ := Option.ne_none_iff_exists'.1 hsome
    simp only [Option.some_inj]
    exact fromEnvironment_fromProperties haddress
  · rw [ofEnvironment_eq henv' htext', ofProperties_eq hprops', SettingNames.seen_seen]
    exact ⟨rfl, rfl⟩

/-- A system that has one file. -/
def oneFile : Files := fun path =>
  if path = "/etc/ssl/ca.pem" then .ok [1, 2, 3] else .error "No such file or directory"

/-- An address, a blank token, a certificate, and a timeout if there is one. -/
def valuesWith (timeout : Option String) : Role → Option String
  | .address => some " https://vault.example.com "
  | .token => some " "
  | .certificate => some "/etc/ssl/ca.pem"
  | .timeout => timeout
  | _ => none

def environmentWith (timeout : Option String) : Environment :=
  ([("VAULT_TOKEN", " "), ("VAULT_ADDR", " https://vault.example.com "), ("HOME", "/root"),
    ("VAULT_CACERT", "/etc/ssl/ca.pem")] ++
      timeout.toList.map fun v => ("VAULT_CLIENT_TIMEOUT", v)).map Environment.bytesOf

def propertiesWith (timeout : Option String) : SettingTexts :=
  (timeout.toList.map fun v => ("vault.read.timeout", v)) ++
    [("vault.ssl.trust-store-pem", "/etc/ssl/ca.pem"),
      ("vault.uri", " https://vault.example.com "), ("vault.token", " ")]

/-- A timeout that is no number is a fault in both sources.  Without it both make the same settings,
with the certificate. -/
theorem loaders_agree_hasty :
    ((environmentWith (some "soon")).IsText ∧
      (environmentWith (some "soon")).Give (valuesWith (some "soon")) ∧
      (propertiesWith (some "soon")).Give .properties (valuesWith (some "soon")) ∧
      seen (valuesWith (some "soon")) .address ≠ none ∧
      ¬ (BadTimeout (valuesWith (some "soon")) ∧
        BadCertificate oneFile (valuesWith (some "soon"))) ∧
      ∃ f g, ofEnvironment oneFile (environmentWith (some "soon")) = some (.error f) ∧
        ofProperties oneFile (propertiesWith (some "soon")) = .error g ∧
        UpToNames f.message g.message) ∧
    ∃ s, ofEnvironment oneFile (environmentWith none) = some (.ok s) ∧
      ofProperties oneFile (propertiesWith none) = .ok s ∧ s.certificate = some [1, 2, 3] := by
  have htext : ∀ timeout, (environmentWith timeout).IsText := by
    intro timeout v hv
    obtain ⟨t, -, ht⟩ := List.mem_map.1 hv
    exact ⟨t, ht⟩
  have haddress : ∀ timeout, seen (valuesWith timeout) .address ≠ none := by
    intro timeout
    have hkept : (some " https://vault.example.com ").filter (fun v => !Text.isBlank v) ≠ none := by
      decide
    exact hkept
  constructor
  · have henv : (environmentWith (some "soon")).Give (valuesWith (some "soon")) :=
      fun role => by cases role <;> rfl
    have hprops : (propertiesWith (some "soon")).Give .properties (valuesWith (some "soon")) :=
      fun role => by cases role <;> rfl
    have hfault : ofEnvironment oneFile (environmentWith (some "soon")) =
        some (.error (.notMillis "VAULT_CLIENT_TIMEOUT")) := rfl
    have hbad : ¬ (BadTimeout (valuesWith (some "soon")) ∧
        BadCertificate oneFile (valuesWith (some "soon"))) := by
      rintro ⟨-, v, cause, hv, hread⟩
      obtain rfl : "/etc/ssl/ca.pem" = v := Option.some_inj.1 hv
      exact absurd hread nofun
    refine ⟨htext _, henv, hprops, haddress _, hbad, ?_⟩
    rcases ((loaders_agree henv hprops oneFile).2 (htext _)).2.1 (haddress _) with
      ⟨s, hs, -⟩ | ⟨f, g, hf, hg, hnames⟩
    · exact absurd (hfault.symm.trans hs) (by simp)
    · exact ⟨f, g, hf, hg, hnames hbad⟩
  · have henv : (environmentWith none).Give (valuesWith none) := fun role => by cases role <;> rfl
    have hprops : (propertiesWith none).Give .properties (valuesWith none) :=
      fun role => by cases role <;> rfl
    obtain ⟨s, hs, hcertificate⟩ : ∃ s, ofEnvironment oneFile (environmentWith none) =
        some (.ok s) ∧ s.certificate = some [1, 2, 3] := ⟨_, rfl, rfl⟩
    rcases ((loaders_agree henv hprops oneFile).2 (htext _)).2.1 (haddress _) with
      ⟨s', hs', hprops'⟩ | ⟨f, g, hf, -, -⟩
    · obtain rfl : s = s' := Except.ok.inj (Option.some_inj.1 (hs.symm.trans hs'))
      exact ⟨s, hs, hprops', hcertificate⟩
    · exact absurd (hs.symm.trans hf) (by simp)

/-- A variable that is no text, whatever it is for, stops the program. -/
example : ofEnvironment oneFile (environmentWith none ++ [([0x4C], [0xFF])]) = none := rfl

/-! ### A missing address -/

/-- A token alone. -/
def tokenOnly : Role → Option String
  | .token => some "t"
  | _ => none

theorem getLast?_nameOf_environment (role : Role) :
    ∃ c, (SettingNames.environment.nameOf role).toList.getLast? = some c ∧ c ≠ 't' := by
  cases role <;> exact ⟨_, rfl, by decide⟩

theorem getLast?_fill_concat (names : SettingNames) (front : List (Char ⊕ Role))
    (last : Char ⊕ Role) {c : Char}
    (h : (last.elim (fun c => [c]) fun role => (names.nameOf role).toList).getLast? = some c) :
    (fill names (front ++ [last])).getLast? = some c := by
  rw [fill, List.flatMap_append, List.flatMap_singleton, List.getLast?_append, h, Option.some_or]

/-- Without an address the two sources use different words. -/
theorem not_upToNames_missing :
    Environment.IsText [Environment.bytesOf ("VAULT_TOKEN", "t")] ∧
      Environment.Give [Environment.bytesOf ("VAULT_TOKEN", "t")] tokenOnly ∧
      SettingTexts.Give [("vault.token", "t")] .properties tokenOnly ∧
      ¬ (BadTimeout tokenOnly ∧ BadCertificate oneFile tokenOnly) ∧
      ∃ f g, ofEnvironment oneFile [Environment.bytesOf ("VAULT_TOKEN", "t")] = some (.error f) ∧
        ofProperties oneFile [("vault.token", "t")] = .error g ∧
        ¬ UpToNames f.message g.message := by
  refine ⟨fun v hv => ⟨_, (List.mem_singleton.1 hv).symm⟩, fun role => by cases role <;> rfl,
    fun role => by cases role <;> rfl, ?_, _, _, rfl, rfl, ?_⟩
  · have htimeout : seen tokenOnly .timeout = none := rfl
    rintro ⟨⟨v, hv, -⟩, -⟩
    exact absurd (htimeout.symm.trans hv) (by simp)
  · rintro ⟨pattern, henv, hprops⟩
    have hlast : (fill .environment pattern).getLast? = some 't' := by rw [henv]; rfl
    have hlast' : (fill .properties pattern).getLast? = some 'd' := by rw [hprops]; rfl
    -- what the pattern ends in would have to end in both letters
    rcases List.eq_nil_or_concat pattern with rfl | ⟨front, last, rfl⟩
    · exact absurd hlast (by decide)
    · rw [List.concat_eq_append] at hlast hlast'
      cases last with
      | inl c =>
        obtain rfl : c = 't' := Option.some_inj.1
          ((getLast?_fill_concat .environment front (.inl c) rfl).symm.trans hlast)
        have hd := (getLast?_fill_concat .properties front (.inl 't') rfl).symm.trans hlast'
        exact absurd hd (by decide)
      | inr role =>
        obtain ⟨c, hc, hne⟩ := getLast?_nameOf_environment role
        have ht := (getLast?_fill_concat .environment front (.inr role) hc).symm.trans hlast
        exact hne (Option.some_inj.1 ht)

end Settings
end Strongbox
