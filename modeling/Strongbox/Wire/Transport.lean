/-
Exchanges with a server over HTTP.

The URL of a request is the configured address, `/v1/` and the path.  The credential is
asked for once for each request, before anything else can fail.  A request whose URL does
not parse, or whose token or namespace is no header value, is not sent.  Otherwise the HTTP client
sends one message, and those that follow it where an answer leads elsewhere.  Whatever the client
fails with is an error by the kind of the failure (`Error.ofFailure`).  Every answer that comes
whole is a response, except that a successful one must be JSON or empty.
-/
import Strongbox.Config.Basic
import Strongbox.Backend.Basic
import Strongbox.Json.Printer
import Strongbox.Service
import Strongbox.Wire.Client
namespace Strongbox

/-- A failure of the HTTP client as an error. -/
def Error.ofFailure (f : Wire.Failure) : Error :=
  if f.isTimeout then .timeout
  else if f.isConnect || f.isRequest then .network f.text
  else if f.isDecode then .deserialize f.text
  else .other f.text

/-- A configuration, and the HTTP client that was built of it. -/
structure Transport where
  config : Config
  client : Wire.Client

namespace Transport

/-- What the client calls itself. -/
def userAgent (c : Config) : String :=
  let name := "vault-versioned-sdk-rust/" ++ libraryVersion
  match c.userAgentSuffix with
  | some suffix => name ++ " " ++ suffix
  | none => name

/-- What a client is set up with for a configuration: where the address says so, it speaks to no
server without encryption. -/
def setup (c : Config) : Wire.Setup where
  userAgent := userAgent c
  timeoutMillis := c.timeoutMillis
  tlsOnly := "https://".toList.isPrefixOf c.address.toList
  root := c.certificate

/-- The transport of a configuration, over a kind of client. -/
def new (client : Wire.Client) (c : Config) : Except ConfigFault Transport :=
  match c.certificate.bind client.rootFault? with
  | some cause => .error (.invalidCertificate cause)
  | none =>
    match client.buildFault? (setup c) with
    | some cause => .error (.unusableClient cause)
    | none => .ok ⟨c, client⟩

/-- A number of milliseconds in the largest unit that fits. -/
def durationText (millis : Nat) : String :=
  if millis = 0 then "0ns"
  else if millis < 1000 then Numeral.decimal millis ++ "ms"
  else
    let thousandths := (Numeral.padZeros 3 (Numeral.decimal (millis % 1000))).toList
    let fraction := Text.trimEnd (· == '0') thousandths
    Numeral.decimal (millis / 1000)
      ++ (if fraction.isEmpty then "" else String.ofList ('.' :: fraction)) ++ "s"

/-- The client as it is shown. -/
def display (t : Transport) : String :=
  "HttpTransport \x7b address: " ++ Text.quoted t.config.address
    ++ ", namespace: " ++ Text.quotedOption t.config.nameSpace
    ++ ", timeout: " ++ durationText t.config.timeoutMillis ++ " \x7d"

/-- What changes from request to request: the tokens that are left, the other end of the
wire, the messages that were received there, and how many requests there were. -/
structure State where
  supply : Supply
  peer : Wire.Peer
  trails : List Wire.Trail
  requests : Nat

/-- The state before the first request. -/
def State.fresh (t : Transport) (peer : Wire.Peer) : State :=
  ⟨t.config.credential.supply, peer, [], 0⟩

/-- The messages of the requests, without those that followed them. -/
def State.sent (s : State) : List Wire.Message := s.trails.map Wire.Trail.message

/-- The text of the URL of a path. -/
def urlText (t : Transport) (path : String) : List Char :=
  Text.trimEnd (· == '/') t.config.address.toList ++ "/v1/".toList
    ++ path.toList.dropWhile (· == '/')

/-- The pairs of a query as they are sent: a listing says that it is one. -/
def pairs (q : Request) : List (String × String) :=
  if q.operation = .list then q.query ++ [("list", "true")] else q.query

/-- The URL of a request with its query. -/
def url? (t : Transport) (q : Request) : Option Url :=
  match Url.parse (t.urlText q.path) with
  | .ok u => if u.host.isSome then some (u.withPairs (pairs q)) else none
  | .error _ => none

def method : Operation → String
  | .write => "POST"
  | .read => "GET"
  | .list => "GET"

def namespaceHeader : String := "X-Vault-Namespace"

/-- The headers that describe a body. -/
def bodyHeaders : Option Json → List (String × String)
  | none => []
  | some v =>
    [("content-type", "application/json"),
     ("content-length", Numeral.decimal (Utf8.bytes v.textOf).length)]

/-- A name of a header in small letters. -/
def headerName (s : String) : String := String.ofList (Text.toLowerAscii s.toList)

def headers (t : Transport) (id : String) (credential : String × String) (body : Option Json) :
    List (String × String) :=
  Wire.Header.sort <|
    [("x-request-id", id), ("accept", "application/json"), ("accept-encoding", "gzip,br"),
     ("user-agent", userAgent t.config), (headerName credential.1, credential.2)]
    ++ (t.config.nameSpace.toList.map fun n => (headerName namespaceHeader, n))
    ++ bodyHeaders body

def message (t : Transport) (q : Request) (u : Url) (id : String) (credential : String × String) :
    Wire.Message where
  method := method q.operation
  target := String.ofList u.target
  headers := t.headers id credential q.body
  body := q.body

/-- An exchange that broke off. -/
def fail {α : Type} (t : Transport) (b : Wire.Break) : Result α :=
  .error (Error.ofFailure (t.client.failure b))

/-- The body of a response: none if it is empty; one that is no JSON is an error only of
success. -/
def readBody (status : Nat) (body : List UInt8) : Result (Option Json) :=
  if body.isEmpty then .ok none
  else
    match Json.readBytes body with
    | .ok v => .ok (some v)
    | .error f => if 200 ≤ status ∧ status < 300 then .error (Error.ofRead f) else .ok none

/-- The id of a response: the one that it names, if that is text, or else the one that was
sent. -/
def responseId (sentId : String) (headers : List (String × List UInt8)) : String :=
  ((Wire.Header.first? "x-request-id" headers).bind Wire.Header.text?).getD sentId

/-- The response that an answer is. -/
def respond (t : Transport) (id : String) (a : Wire.Answer) : Result Response :=
  match t.client.read a with
  | .error b => t.fail b
  | .ok body =>
    (readBody a.status body).map fun v => ⟨a.status, v, some (responseId id a.headers)⟩

/-- The result of an exchange. -/
def conclude (t : Transport) (id : String) : Except Wire.Break Wire.Answer → Result Response
  | .error b => t.fail b
  | .ok a => t.respond id a

/-- Are the values that come from outside fit for headers? -/
def headersFit (t : Transport) (credential : String × String) : Bool :=
  Wire.Header.isValue credential.2 && t.config.nameSpace.all Wire.Header.isValue

/-- The course of an exchange from the reply to its message on. -/
def course (t : Transport) (u : Url) (m : Wire.Message) (peer : Wire.Peer) : Wire.Client.Course :=
  t.client.follow (setup t.config) t.client.hopLimit u m peer.take.1 peer.take.2

/-- The trail of a message, if it was received. -/
def trail? (u : Url) (m : Wire.Message) (reply : Wire.Reply) (followed : List (Url × Wire.Message)) :
    Option Wire.Trail :=
  if reply.isReceived then some ⟨u, m, followed⟩ else none

/-- Sends a request whose credential is known. -/
def send (t : Transport) (id : String) (credential : String × String) (q : Request) (s : State) :
    Result Response × State :=
  match t.url? q with
  | none => (t.fail .unbuildable, s)
  | some u =>
    if !t.headersFit credential then (t.fail .unbuildable, s)
    else
      let m := t.message q u id credential
      let course := t.course u m s.peer
      let trail := trail? u m s.peer.take.1 course.followed
      (t.conclude id course.outcome,
        { s with peer := course.peer, trails := s.trails ++ trail.toList })

/-- One exchange. -/
def execute (t : Transport) (ids : Nat → String) (q : Request) (s : State) :
    Result Response × State :=
  let (credential, supply) := t.config.credential.header s.supply
  let id := ids s.requests
  let s := { s with supply, requests := s.requests + 1 }
  match credential with
  | .error e => (.error e, s)
  | .ok c => t.send id c q s

/-- The transport as a backend, with a source of ids for requests. -/
def backend (t : Transport) (ids : Nat → String) : Backend State := ⟨t.execute ids⟩

end Transport

/-- A service over HTTP: first the engine must be one that keeps versions, then the
configuration one that a client can be built of. -/
def Service.connect (client : Wire.Client) (c : Config) : Result (Service × Transport) := do
  let s ← Service.new c
  match Transport.new client c with
  | .ok t => .ok (s, t)
  | .error f => .error f.toError

end Strongbox
