/-
Errors of the client.

Every operation that fails gives an `Error`: its case, a message, and for an answer of the
server with an error status the status and the id of the request.  `Error.kind` groups the
cases, `Error.isRetryable` says whether the failure may pass, and `Error.message` is the
error in words.
-/
import Strongbox.Argument
import Strongbox.Json.Decode
import Strongbox.Json.Reader
namespace Strongbox

/-- A failure of an operation. -/
inductive Error where
  | invalidArgument (message : String)
  | unsupportedBackend (message : String)
  | http (status : Nat) (message : String) (requestId : Option String)
  | encryption (message : String)
  | decryption (message : String)
  | deserialize (message : String)
  | network (message : String)
  | timeout
  | config (message : String)
  | other (message : String)
  deriving DecidableEq

/-- What kind of failure an error is. -/
inductive ErrorKind where
  | invalidArgument
  | unsupportedBackendConfiguration
  | backendUnavailable
  | encryption
  | decryption
  | deserialize
  | config
  | other
  deriving DecidableEq

def ErrorKind.name : ErrorKind → String
  | .invalidArgument => "InvalidArgument"
  | .unsupportedBackendConfiguration => "UnsupportedBackendConfiguration"
  | .backendUnavailable => "BackendUnavailable"
  | .encryption => "Encryption"
  | .decryption => "Decryption"
  | .deserialize => "Deserialize"
  | .config => "Config"
  | .other => "Other"

namespace Error

def caseName : Error → String
  | .invalidArgument _ => "InvalidArgument"
  | .unsupportedBackend _ => "UnsupportedBackend"
  | .http _ _ _ => "Http"
  | .encryption _ => "Encryption"
  | .decryption _ => "Decryption"
  | .deserialize _ => "Deserialize"
  | .network _ => "Network"
  | .timeout => "Timeout"
  | .config _ => "Config"
  | .other _ => "Other"

def message : Error → String
  | .invalidArgument m => "invalid argument: " ++ m
  | .unsupportedBackend m => "unsupported backend configuration: " ++ m
  | .http status m id =>
    "http " ++ Numeral.decimal status ++ ": " ++ m ++ " (req=" ++ Text.quotedOption id ++ ")"
  | .encryption m => "encryption: " ++ m
  | .decryption m => "decryption: " ++ m
  | .deserialize m => "deserialize: " ++ m
  | .network m => "network: " ++ m
  | .timeout => "timeout"
  | .config m => "config: " ++ m
  | .other m => "other: " ++ m

def kind : Error → ErrorKind
  | .invalidArgument _ => .invalidArgument
  | .unsupportedBackend _ => .unsupportedBackendConfiguration
  | .http _ _ _ => .backendUnavailable
  | .network _ => .backendUnavailable
  | .timeout => .backendUnavailable
  | .encryption _ => .encryption
  | .decryption _ => .decryption
  | .deserialize _ => .deserialize
  | .config _ => .config
  | .other _ => .other

/-- The statuses of a server that may answer later. -/
def passingStatuses : List Nat := [429, 500, 502, 503, 504]

/-- May the same call succeed later? -/
def isRetryable : Error → Bool
  | .http status _ _ => passingStatuses.contains status
  | .network _ => true
  | .timeout => true
  | _ => false

/-- The status that the server answered with. -/
def status? : Error → Option Nat
  | .http status _ _ => some status
  | _ => none

/-- The id of the request that was answered. -/
def requestId? : Error → Option String
  | .http _ _ id => id
  | _ => none

def ofArgument (f : ArgumentFault) : Error := .invalidArgument f.message

/-- A value of the wrong shape. -/
def ofDecode (f : Json.DecodeFault) : Error := .deserialize f.message

/-- A body that is no JSON text. -/
def ofRead (f : Json.ReadFault) : Error := .deserialize f.message

end Error

/-- The result of an operation. -/
abbrev Result (α : Type) := Except Error α

end Strongbox
