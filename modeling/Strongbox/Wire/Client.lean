/-
The HTTP client that messages are sent with.

It is a library of its own, of which only the use is known (`Client`): which setups it takes, where
it follows an answer that leads elsewhere, how it undoes the encoding of a body, and what it tells
of an exchange that breaks off.  An exchange starts with one message; where an answer leads
elsewhere another message follows, up to a number of times (`Client.follow`).  The body of the last
answer is read in the end (`Client.read`).

What a client decides may depend on the answers of servers, but not on the headers and the body of
its own message.
-/
import Strongbox.Url.Basic
import Strongbox.Wire.Header
import Strongbox.Wire.Message
namespace Strongbox.Wire

/-- What a client is set up with: its name, the time that an exchange may take, whether it speaks
to no server without encryption, and a certificate that it trusts beside those of the system. -/
structure Setup where
  userAgent : String
  timeoutMillis : Nat
  tlsOnly : Bool
  root : Option (List UInt8)

/-- Where an answer leads to, and how the next message differs from the last one: by its method,
its body, the headers that are left out, and the page that it says it comes from. -/
structure Hop where
  url : Url
  method : String
  keepsBody : Bool
  dropped : List String
  referer : Option String

/-- The message that follows. -/
def Hop.message (h : Hop) (m : Message) : Message where
  method := h.method
  target := String.ofList h.url.target
  headers := Header.sort <|
    (m.headers.filter fun p => !h.dropped.contains p.1)
      ++ h.referer.toList.map fun r => ("referer", r)
  body := if h.keepsBody then m.body else none

/-- What a client does with an answer: it takes it, goes on to another place, or gives up since the
place it leads to is none to go to. -/
inductive Next where
  | take
  | follow (hop : Hop)
  | refuse

/-- Where an exchange breaks off: there is no request that can be sent, the connection is refused
or closed, there is no answer in time, an answer leads nowhere, its body is cut short or does not
end in time, or is not in the encoding that it announces. -/
inductive Break where
  | unbuildable
  | refused (url : Url)
  | closed (url : Url)
  | silent (url : Url)
  | misled (url : Url)
  | cut
  | stalled
  | garbled

/-- What a client tells of an exchange that broke off: what kind of failure it was, and a text. -/
structure Failure where
  isTimeout : Bool
  isConnect : Bool
  isRequest : Bool
  isDecode : Bool
  text : String

/-- An HTTP client. -/
structure Client where
  /-- What is wrong with a certificate. -/
  rootFault? : List UInt8 → Option String
  /-- Why there is no client with a setup. -/
  buildFault? : Setup → Option String
  /-- What is done with an answer to a message, by the URL and the method of the message and the
  status and the headers of the answer. -/
  next : Setup → Url → String → Nat → List (String × List UInt8) → Next
  /-- How often an exchange goes on to another place. -/
  hopLimit : Nat
  /-- The body of an answer with these headers, if it is in the encoding that they announce. -/
  decode : List (String × List UInt8) → List UInt8 → Option (List UInt8)
  failure : Break → Failure

/-- A message that was received, its URL, and the messages that followed it. -/
structure Trail where
  url : Url
  message : Message
  followed : List (Url × Message)

/-- Statuses of answers that have no body. -/
def bodiless (status : Nat) : Bool := status == 204 || status == 304

namespace Client

/-- How an exchange goes on after a reply: it ends, or another message follows. -/
inductive Turn where
  | ends (outcome : Except Break Answer)
  | leads (hop : Hop)

/-- What a reply to a message means. -/
def turn (c : Client) (setup : Setup) (u : Url) (m : Message) : Reply → Turn
  | .refused => .ends (.error (.refused u))
  | .closed => .ends (.error (.closed u))
  | .silent => .ends (.error (.silent u))
  | .answer a =>
    match c.next setup u m.method a.status a.headers with
    | .take => .ends (.ok a)
    | .follow hop => .leads hop
    | .refuse => .ends (.error (.misled u))

/-- What becomes of an exchange: its last answer, the messages that followed the first one and
were received, and the other end of the wire. -/
structure Course where
  outcome : Except Break Answer
  followed : List (Url × Message)
  peer : Peer

/-- The course of an exchange from the reply to a message on, if it may go on to another place
`hops` times. -/
def follow (c : Client) (setup : Setup) : (hops : Nat) → Url → Message → Reply → Peer → Course
  | 0, u, m, reply, peer =>
    match c.turn setup u m reply with
    | .ends outcome => ⟨outcome, [], peer⟩
    | .leads _ => ⟨.error (.misled u), [], peer⟩
  | hops + 1, u, m, reply, peer =>
    match c.turn setup u m reply with
    | .ends outcome => ⟨outcome, [], peer⟩
    | .leads hop =>
      let m := hop.message m
      let reply := peer.take.1
      let course := c.follow setup hops hop.url m reply peer.take.2
      let own := if reply.isReceived then [(hop.url, m)] else []
      { course with followed := own ++ course.followed }

/-- The body of an answer. -/
def read (c : Client) (a : Answer) : Except Break (List UInt8) :=
  if bodiless a.status then .ok []
  else
    match a.ending with
    | .cut => .error .cut
    | .stalled => .error .stalled
    | .complete =>
      match c.decode a.headers a.body with
      | some body => .ok body
      | none => .error .garbled

end Client
end Strongbox.Wire
