/-
Hosts of URLs: domain names and addresses.

The host of a special URL is percent-decoded and brought into its ASCII form; if its last
part is a number, it must be an IPv4 address.  The host of any other URL is kept as it is,
but for controls and characters that are not ASCII, which are percent-encoded.  Between
brackets stands an IPv6 address.
-/
import Strongbox.Percent
import Strongbox.Url.Fault
import Strongbox.Url.Ipv4
import Strongbox.Url.Ipv6
import Strongbox.Url.Domain.Name
namespace Strongbox

/-- The host of a URL. -/
inductive Host where
  | domain (name : String)
  | ipv4 (address : Nat)
  | ipv6 (pieces : List Nat)
  deriving DecidableEq

namespace Host

/-- The host as a URL holds it. -/
def text : Host → List Char
  | .domain name => name.toList
  | .ipv4 a => Url.Ipv4.text a
  | .ipv6 a => '[' :: Url.Ipv6.text a ++ [']']

/-- Is the host the machine itself? -/
def isLoopback : Host → Bool
  | .domain name => name == "localhost"
  | .ipv4 a => Url.Ipv4.isLoopback a
  | .ipv6 a => Url.Ipv6.isLoopback a

def isEmpty : Host → Bool
  | .domain name => name.isEmpty
  | _ => false

/-- An address between brackets, of which the first one is taken. -/
def bracketed (s : List Char) : Except Url.Fault Host :=
  match s.getLast? with
  | some ']' =>
    match Url.Ipv6.parse? s.dropLast with
    | some a => .ok (.ipv6 a)
    | none => .error .invalidIpv6
  | _ => .error .invalidIpv6

/-- The host of a special URL, in its ASCII form. -/
def ofName (name : List Char) : Except Url.Fault Host :=
  if name.isEmpty then .error .emptyHost
  else if Url.Ipv4.endsInNumber name then
    match Url.Ipv4.parse? name with
    | some a => .ok (.ipv4 a)
    | none => .error .invalidIpv4
  else .ok (.domain (String.ofList name))

/-- The host of a special URL. -/
def parse (s : List Char) : Except Url.Fault Host :=
  match s with
  | '[' :: rest => bracketed rest
  | s =>
    match (Utf8.read? (Percent.decode s)).bind Url.Domain.toAscii? with
    | some name => ofName name
    | none => .error .invalidDomain

/-- Characters that no host may hold, even one that is kept as it is. -/
def isForbidden (c : Char) : Bool := "\x00\t\n\r #/:<>?@[\\]^|".toList.contains c

/-- The bytes that are kept: those of printable ASCII characters. -/
def isKept (b : UInt8) : Bool := 0x20 ≤ b && b < 0x7F

/-- The host of a URL that is not special. -/
def parseOpaque (s : List Char) : Except Url.Fault Host :=
  match s with
  | '[' :: rest => bracketed rest
  | s =>
    if s.any isForbidden then .error .invalidHostCharacter
    else .ok (.domain (String.ofList (Percent.encode isKept s)))

end Host
end Strongbox
