/-
What goes over the wire: messages to servers, and their replies.

The other end of the wire is out of reach, or it takes messages and has replies ready for them,
whichever server they are for; when none is left it replies that it knows nothing.  A reply may
break off before it is complete.
-/
import Strongbox.Json.Basic
import Strongbox.Text.Utf8
namespace Strongbox.Wire

/-- A message as the server gets it.  The names of headers are in small letters. -/
structure Message where
  method : String
  target : String
  headers : List (String × String)
  body : Option Json

/-- How a body ends: as it was announced, before that since the connection is closed, or not at
all in the time that there is. -/
inductive Ending where
  | complete
  | cut
  | stalled
  deriving DecidableEq

/-- An answer as it comes, with the part of its body that arrives.  The names of headers are in
small letters. -/
structure Answer where
  status : Nat
  headers : List (String × List UInt8)
  body : List UInt8
  ending : Ending

/-- What comes back for a message: the connection is refused, so that nobody gets the message, it
is closed without an answer, there is no answer in time, or there is one. -/
inductive Reply where
  | refused
  | closed
  | silent
  | answer (a : Answer)

/-- Did somebody get the message? -/
def Reply.isReceived : Reply → Bool
  | .refused => false
  | _ => true

/-- The other end of the wire. -/
inductive Peer where
  | unreachable
  | listening (replies : List Reply)

namespace Peer

/-- The reply of a server that knows nothing. -/
def nothing : Reply := .answer ⟨404, [], Utf8.ofString "\x7b\"errors\":[]\x7d", .complete⟩

/-- The reply to a message, and the peer afterwards. -/
def take : Peer → Reply × Peer
  | .unreachable => (.refused, .unreachable)
  | .listening [] => (nothing, .listening [])
  | .listening (r :: rest) => (r, .listening rest)

/-- The peer with further replies. -/
def add (replies : List Reply) : Peer → Peer
  | .unreachable => .unreachable
  | .listening rs => .listening (rs ++ replies)

end Peer
end Strongbox.Wire
