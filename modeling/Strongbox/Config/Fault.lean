/-
Why a configuration is refused.
-/
import Strongbox.Error
import Strongbox.Url.Fault
namespace Strongbox

/-- Why settings make no configuration, or a configuration no client. -/
inductive ConfigFault where
  | variableUnset (name : String)
  | propertyMissing (name : String)
  | unknownEngine (setting : String)
  | notMillis (name : String)
  | unreadableCertificate (path cause : String)
  | invalidAddress (address : String) (cause : Url.Fault)
  | credentialsInAddress
  | remoteWithoutTls
  | unknownScheme
  | noCredential
  | emptyTransitMount
  | dotsInTransitMount
  | invalidCertificate (cause : String)
  | unusableClient (cause : String)
  deriving DecidableEq

namespace ConfigFault

def message : ConfigFault → String
  | .variableUnset name => name ++ " is not set"
  | .propertyMissing name => name ++ " must be specified"
  | .unknownEngine setting => "Unknown K/V backend version: " ++ setting
  | .notMillis name => name ++ " must be a number of milliseconds"
  | .unreadableCertificate path cause =>
    "Failed to read CA certificate " ++ path ++ ": " ++ cause
  | .invalidAddress address cause => "Invalid Vault address " ++ address ++ ": " ++ cause.message
  | .credentialsInAddress =>
    "Vault address must not contain credentials. Use .auth() to set a Vault token"
  | .remoteWithoutTls =>
    "HTTP URLs are only allowed for loopback hosts. Enable the 'danger-insecure-http' feature " ++
      "and use .allow_insecure_http() (dangerous!)"
  | .unknownScheme => "Vault address must start with http:// or https://"
  | .noCredential => "Authentication is required. Use .auth() to set a Vault token"
  | .emptyTransitMount => "Transit mount must not be empty"
  | .dotsInTransitMount => "Transit mount must not contain '.' or '..' segments"
  | .invalidCertificate cause => "Invalid CA certificate: " ++ cause
  | .unusableClient cause => "Failed to build HTTP client: " ++ cause

/-- The fault as an error of the client. -/
def toError (f : ConfigFault) : Error := .config f.message

end ConfigFault
end Strongbox
