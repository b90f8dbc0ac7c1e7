/-
Settings from environment variables and from properties.

Both sources give texts by name, the same seven settings under names of their own.  A text
that is blank counts as absent; the others count without white space at their ends, but for
the engine's generation, which is read as it stands.  The address has to be there.  The two
sources differ in which of the last two settings is read first, which shows when both are
wrong.

Variables of an environment are bytes.  All of them have to be texts, also those that are no
settings: or else the program stops, and there is no result at all.
-/
import Strongbox.Config.Basic
import Strongbox.Text.Utf8
namespace Strongbox

/-- The files of a system: the content of the one at a path, or why it cannot be read. -/
abbrev Files := String → Except String (List UInt8)

/-- The names of the settings in a source. -/
structure SettingNames where
  address : String
  token : String
  nameSpace : String
  engine : String
  transitMount : String
  timeout : String
  certificate : String

def SettingNames.environment : SettingNames where
  address := "VAULT_ADDR"
  token := "VAULT_TOKEN"
  nameSpace := "VAULT_NAMESPACE"
  engine := "VAULT_KV_VERSION"
  transitMount := "VAULT_TRANSIT_MOUNT"
  timeout := "VAULT_CLIENT_TIMEOUT"
  certificate := "VAULT_CACERT"

def SettingNames.properties : SettingNames where
  address := "vault.uri"
  token := "vault.token"
  nameSpace := "vault.namespace"
  engine := "vault.kv.version"
  transitMount := "vault.transit.path"
  timeout := "vault.read.timeout"
  certificate := "vault.ssl.trust-store-pem"

/-- Texts by name. -/
abbrev SettingTexts := List (String × String)

/-- The text of a name, if it is there and not blank. -/
def SettingTexts.get? (texts : SettingTexts) (name : String) : Option String :=
  ((texts.find? (·.1 == name)).map (·.2)).filter fun v => !Text.isBlank v

/-- The variables of an environment: their names and their values, as bytes. -/
abbrev Environment := List (List UInt8 × List UInt8)

namespace Environment

/-- The text that bytes are. -/
def text? (bytes : List UInt8) : Option String := (Utf8.read? bytes).map String.ofList

/-- The variables as texts, unless one of them is none. -/
def texts? (env : Environment) : Option SettingTexts :=
  env.mapM fun v => do
    let name ← text? v.1
    let value ← text? v.2
    some (name, value)

/-- How the names of settings start. -/
def mark : String := "VAULT_"

/-- The texts of a name that may be that of a setting.  If a name is there twice, the last one of
its texts counts. -/
def settings (texts : SettingTexts) : SettingTexts :=
  (texts.filter fun t => mark.toList.isPrefixOf t.1.toList).reverse

end Environment

namespace Settings

/-- The generation of the engine that a setting means. -/
def readEngine (setting : String) : Except ConfigFault Engine :=
  match Engine.parse? setting with
  | some e => .ok e
  | none => .error (.unknownEngine setting)

/-- A natural number of 64 bits with an optional plus sign. -/
def nat64? (s : List Char) : Option Nat :=
  let digits := match s with | '+' :: rest => rest | s => s
  (Numeral.read? 10 digits).filter (· < UInt64.size)

def readMillis (name value : String) : Except ConfigFault Nat :=
  match nat64? (Text.trim value.toList) with
  | some n => .ok n
  | none => .error (.notMillis name)

/-- Applies a setting if its text is there. -/
def apply (texts : SettingTexts) (name : String)
    (set : Settings → String → Except ConfigFault Settings) (s : Settings) :
    Except ConfigFault Settings :=
  match texts.get? name with
  | some v => set s v
  | none => .ok s

/-- The settings but for the timeout and the certificate. -/
def commonPart (names : SettingNames) (missing : ConfigFault) (texts : SettingTexts) :
    Except ConfigFault Settings := do
  match texts.get? names.address with
  | none => .error missing
  | some address =>
    let s := Settings.new (Text.trimString address)
    let s ← apply texts names.token
      (fun s v => .ok (s.withCredential (.token (Text.trimString v)))) s
    let s ← apply texts names.nameSpace (fun s v => .ok (s.withNamespace (Text.trimString v))) s
    let s ← apply texts names.engine (fun s v => (readEngine v).map s.withEngine) s
    apply texts names.transitMount (fun s v => .ok (s.withTransitMount (Text.trimString v))) s

def timeoutPart (names : SettingNames) (texts : SettingTexts) :
    Settings → Except ConfigFault Settings :=
  apply texts names.timeout fun s v => (readMillis names.timeout v).map s.withTimeoutMillis

/-- The certificate of a source, read from its file. -/
def certificatePart (names : SettingNames) (files : Files) (texts : SettingTexts) :
    Settings → Except ConfigFault Settings :=
  apply texts names.certificate fun s v =>
    let path := Text.trimString v
    match files path with
    | .ok pem => .ok (s.withCertificate pem)
    | .error cause => .error (.unreadableCertificate path cause)

/-- The settings that texts under the names of an environment make. -/
def ofVariables (files : Files) (texts : SettingTexts) : Except ConfigFault Settings := do
  let names := SettingNames.environment
  let s ← commonPart names (.variableUnset names.address) texts
  let s ← certificatePart names files texts s
  timeoutPart names texts s

/-- The settings of an environment; none at all if the program stops. -/
def ofEnvironment (files : Files) (env : Environment) : Option (Except ConfigFault Settings) :=
  env.texts?.map fun texts => ofVariables files (Environment.settings texts)

def ofProperties (files : Files) (texts : SettingTexts) : Except ConfigFault Settings := do
  let names := SettingNames.properties
  let s ← commonPart names (.propertyMissing names.address) texts
  let s ← timeoutPart names texts s
  certificatePart names files texts s

end Settings
end Strongbox
