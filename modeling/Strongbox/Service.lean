/-
The service: everything that a client can ask of one server.

A service is made of a configuration and works on a session of any backend.  Its operations
are calls; those on secrets and on encryption come from `Secrets` and `Transit`.
-/
import Strongbox.Backend.Basic
import Strongbox.Config.Basic
import Strongbox.Health
import Strongbox.Secrets
import Strongbox.Transit
namespace Strongbox

/-- A service for a configuration whose engine keeps versions. -/
structure Service where
  config : Config
  versioned : config.engine = .versioned

namespace Service

/-- The fault of an engine that keeps no versions. -/
def unsupportedEngine : Error :=
  .unsupportedBackend "Must be a kv2 backend to support versioned secrets"

/-- The service of a configuration. -/
def new (config : Config) : Result Service :=
  if h : config.engine = .versioned then .ok ⟨config, h⟩ else .error unsupportedEngine

/-- The service that settings make. -/
def ofSettings (s : Settings) : Result Service :=
  match s.toConfig with
  | .ok config => new config
  | .error f => .error f.toError

/-- The mount for encryption. -/
def transit (s : Service) : Transit := ⟨s.config.transitMount⟩

/-- The answer to a question for the health. -/
def finishHealth (r : Response) : Result Health :=
  if !Health.statuses.contains r.status then .error r.toError
  else
    match r.body with
    | some body => (Health.decode body).mapError Error.ofDecode
    | none => .error (.http r.status "empty health response" r.requestId)

/-- Asks for the health of the server. -/
def health : Call Health := .direct (.exchange (.read Endpoint.health) finishHealth)

/-- Asks for the version of the server. -/
def serverVersion : Call String := health.map Health.version

/-- Encrypts bytes with a named key. -/
def encrypt (s : Service) (key : String) (plaintext : List UInt8) : Call String :=
  .direct (s.transit.encrypt key plaintext)

/-- Decrypts a ciphertext with a named key. -/
def decrypt (s : Service) (key ciphertext : String) : Call (List UInt8) :=
  .direct (s.transit.decrypt key ciphertext)

def writeSecret (mount key value : String) : Call VersionMetadata :=
  Secrets.writeScalar mount key value

/-- Reads a version of a scalar secret. -/
def readSecretVersion (mount key : String) (version : Version) : Call (Option String) :=
  Secrets.readScalar mount key version

/-- Reads the latest version of a scalar secret. -/
def readSecret (mount key : String) : Call (Option String) := readSecretVersion mount key .latest

/-- Reads a version of a scalar secret with its metadata. -/
def readVersionedSecret (mount key : String) (version : Version) :
    Call (Option (Versioned String)) :=
  Secrets.readScalarVersioned mount key version

/-- Writes a composite secret, unless it is empty. -/
def writeSecretMap (mount key : String) (map : StringMap) : Call (Option VersionMetadata) :=
  Secrets.writeMap mount key map

/-- Reads a version of a composite secret. -/
def readSecretMapVersion (mount key : String) (version : Version) : Call StringMap :=
  Secrets.readMap mount key version

/-- Reads the latest version of a composite secret. -/
def readSecretMap (mount key : String) : Call StringMap := readSecretMapVersion mount key .latest

/-- Lists the names at the root of a mount. -/
def listSecrets (mount : String) : Call (List String) := Secrets.list mount

/-- The service as it is shown, with the number of handles of its session. -/
def display {σ : Type} (s : Service) (session : Session σ) : String :=
  "VaultService \x7b address: " ++ Text.quoted s.config.address
    ++ ", namespace: " ++ Text.quotedOption s.config.nameSpace
    ++ ", transit_mount: " ++ Text.quoted s.config.transitMount
    ++ ", handles_created: " ++ Numeral.decimal session.handles.created ++ " \x7d"

end Service
end Strongbox
