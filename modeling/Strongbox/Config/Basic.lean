/-
Configurations, and the settings they are made of.

`Settings` are what a caller has chosen so far; `Settings.toConfig` checks them.  A
configuration is accepted if its address is a URL without user and password, with the scheme
`https`, or `http` for the machine itself, if there is a credential, and if the transit
mount, without slashes at its ends, is not empty and has no segment `.` or `..`.  The faults
are looked for in that order.
-/
import Strongbox.Config.Fault
import Strongbox.Credential
import Strongbox.Engine
import Strongbox.Url.Basic
namespace Strongbox

def libraryVersion : String := "0.1.0"

/-- The time a call may take, in milliseconds, if none is set. -/
def defaultTimeoutMillis : Nat := 30000

/-- The transit mount if none is set. -/
def defaultTransitMount : String := "transit"

/-- What is measured of the calls. -/
structure Telemetry where
  enabled : Bool
  serviceName : String
  serviceVersion : String
  deriving DecidableEq

/-- Nothing is measured. -/
def Telemetry.off : Telemetry := ⟨false, "vault-versioned-sdk", libraryVersion⟩

/-- A checked configuration. -/
structure Config where
  address : String
  credential : Credential
  nameSpace : Option String
  engine : Engine
  transitMount : String
  timeoutMillis : Nat
  userAgentSuffix : Option String
  certificate : Option (List UInt8)
  telemetry : Telemetry
  allowRemoteHttp : Bool

/-- What a caller has chosen. -/
structure Settings where
  address : String
  credential : Option Credential
  nameSpace : Option String
  engine : Engine
  transitMount : String
  timeoutMillis : Nat
  userAgentSuffix : Option String
  certificate : Option (List UInt8)

namespace Settings

/-- The settings of an address alone. -/
def new (address : String) : Settings where
  address := address
  credential := none
  nameSpace := none
  engine := .versioned
  transitMount := defaultTransitMount
  timeoutMillis := defaultTimeoutMillis
  userAgentSuffix := none
  certificate := none

def withCredential (s : Settings) (c : Credential) : Settings := { s with credential := some c }

def withNamespace (s : Settings) (n : String) : Settings := { s with nameSpace := some n }

/-- Sets the generation of the engine. -/
def withEngine (s : Settings) (e : Engine) : Settings := { s with engine := e }

def withTransitMount (s : Settings) (m : String) : Settings := { s with transitMount := m }

def withTimeoutMillis (s : Settings) (n : Nat) : Settings := { s with timeoutMillis := n }

/-- Sets what the client adds to its name. -/
def withUserAgentSuffix (s : Settings) (u : String) : Settings :=
  { s with userAgentSuffix := some u }

/-- Sets a further certificate to trust. -/
def withCertificate (s : Settings) (pem : List UInt8) : Settings :=
  { s with certificate := some pem }

/-- The address that counts: without white space at its ends, and then without slashes at
its end. -/
def trimmedAddress (s : Settings) : List Char :=
  Text.trimEnd (· == '/') (Text.trim s.address.toList)

/-- May calls go to the URL?  Without encryption only to the machine itself. -/
def checkUrl (u : Url) : Except ConfigFault Unit :=
  if u.hasCredentials then .error .credentialsInAddress
  else if u.scheme = "https" then .ok ()
  else if u.scheme = "http" then
    if u.host.any Host.isLoopback then .ok () else .error .remoteWithoutTls
  else .error .unknownScheme

def parseAddress (address : List Char) : Except ConfigFault Url :=
  (Url.parse address).mapError (ConfigFault.invalidAddress (String.ofList address))

/-- The transit mount without slashes at its ends. -/
def checkTransitMount (mount : String) : Except ConfigFault String :=
  let m := Text.trimSlashes mount.toList
  if m.isEmpty then .error .emptyTransitMount
  else if Argument.hasDotSegment m then .error .dotsInTransitMount
  else .ok (String.ofList m)

/-- The configuration that the settings make. -/
def toConfig (s : Settings) : Except ConfigFault Config := do
  let u ← parseAddress s.trimmedAddress
  checkUrl u
  match s.credential with
  | none => .error .noCredential
  | some credential =>
    let transitMount ← checkTransitMount s.transitMount
    .ok
      { address := String.ofList s.trimmedAddress
        credential
        nameSpace := s.nameSpace.filter fun n => !Text.isBlank n
        engine := s.engine
        transitMount
        timeoutMillis := s.timeoutMillis
        userAgentSuffix := s.userAgentSuffix
        certificate := s.certificate
        telemetry := .off
        allowRemoteHttp := false }

end Settings
end Strongbox
