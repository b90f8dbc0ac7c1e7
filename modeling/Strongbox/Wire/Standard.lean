/-
A client as HTTP clients are by their documentation.

What it takes for a certificate and how it undoes encodings are given to it.  It follows the
answers that redirect, if they give a whole URL, and leaves the headers out that show who sends a
message where it goes to another server.
-/
import Strongbox.Pem
import Strongbox.Wire.Client
namespace Strongbox

/-- The port of a URL, written or not. -/
def Url.effectivePort (u : Url) : Option Nat := u.port.or (Url.defaultPort u.scheme.toList)

/-- Are two URLs at one server? -/
def Url.isAtServerOf (u v : Url) : Bool := u.host == v.host && u.effectivePort == v.effectivePort

namespace Wire.Standard

/-- Does a text hold nothing but certificates that can be trusted, beside what does not count? -/
def isTrusted (isAnchor : List UInt8 → Bool) (pem : List UInt8) : Bool :=
  match Pem.certificates? pem with
  | some sections => sections.all fun s => s.content.any isAnchor
  | none => false

/-- Why a builder fails. -/
def builderError : String := "builder error"

/-- A builder fails if the name of the client is no header value, or the certificate is none that
can be trusted. -/
def buildFault? (isAnchor : List UInt8 → Bool) (setup : Setup) : Option String :=
  if Header.isValue setup.userAgent && setup.root.all (isTrusted isAnchor) then none
  else some builderError

/-- Statuses of answers that lead elsewhere, and whether the message stays what it is. -/
def redirections : List (Nat × Bool) :=
  [(301, false), (302, false), (303, false), (307, true), (308, true)]

/-- Headers that describe a body. -/
def bodyNames : List String :=
  ["transfer-encoding", "content-encoding", "content-type", "content-length"]

/-- Headers that another server does not get. -/
def sensitiveNames : List String :=
  ["authorization", "cookie", "cookie2", "proxy-authorization", "www-authenticate"]

/-- The URL that an answer leads to. -/
def location? (headers : List (String × List UInt8)) : Option Url :=
  match (Header.first? "location" headers).bind Header.text? with
  | some s => (Url.parse s.toList).toOption
  | none => none

/-- The page that a message to `v` comes from: none if that is not encrypted and the page is. -/
def refererOf (u v : Url) : Option String :=
  if u.scheme == "https" && v.scheme != "https" then none
  else some (String.ofList
    { u with username := "", password := none, fragment := none }.text)

/-- The step to another place. -/
def hopTo (keeps : Bool) (u v : Url) (method : String) : Hop where
  url := v
  method := if keeps then method else "GET"
  keepsBody := keeps
  dropped := (if keeps then [] else bodyNames) ++ if u.isAtServerOf v then [] else sensitiveNames
  referer := refererOf u v

def nextOf (setup : Setup) (u : Url) (method : String) (status : Nat)
    (headers : List (String × List UInt8)) : Next :=
  match redirections.lookup status, location? headers with
  | some keeps, some v =>
    if v.scheme == "https" || (v.scheme == "http" && !setup.tlsOnly) then
      .follow (hopTo keeps u v method)
    else .refuse
  | _, _ => .take

/-- The encoding of a body that has to be undone. -/
def encoding? (headers : List (String × List UInt8)) : Option String :=
  ((Header.first? "content-encoding" headers).bind Header.text?).filter fun e =>
    e == "gzip" || e == "br"

/-- A body without an encoding is as it comes, and so is an empty one. -/
def decodeBy (unpack : String → List UInt8 → Option (List UInt8))
    (headers : List (String × List UInt8)) (body : List UInt8) : Option (List UInt8) :=
  match encoding? headers with
  | some e => if body.isEmpty then some [] else unpack e body
  | none => some body

/-- A text that names a URL. -/
def textFor (what : String) (u : Url) : String := what ++ " for url (" ++ String.ofList u.text ++ ")"

def sendingError : String := "error sending request"

def bodyError : String := "error decoding response body"

/-- What is told of an exchange that breaks off. -/
def failureOf : Break → Failure
  | .unbuildable => ⟨false, false, false, false, builderError⟩
  | .refused u => ⟨false, true, true, false, textFor sendingError u⟩
  | .closed u => ⟨false, false, true, false, textFor sendingError u⟩
  | .silent u => ⟨true, false, true, false, textFor sendingError u⟩
  | .misled u => ⟨false, false, false, false, textFor "error following redirect" u⟩
  | .cut => ⟨false, false, false, true, bodyError⟩
  | .stalled => ⟨true, false, false, true, bodyError⟩
  | .garbled => ⟨false, false, false, true, bodyError⟩

def client (isAnchor : List UInt8 → Bool)
    (unpack : String → List UInt8 → Option (List UInt8)) : Client where
  rootFault? _ := none
  buildFault? := buildFault? isAnchor
  next := nextOf
  hopLimit := 10
  decode := decodeBy unpack
  failure := failureOf

/-- A client that trusts no further certificate and knows no encoding. -/
def bare : Client := client (fun _ => false) fun _ _ => none

end Wire.Standard
end Strongbox
