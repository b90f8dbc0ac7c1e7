/-
IPv4 addresses as URLs write them.

An address has one to four numbers between points, each decimal, octal after `0` or
hexadecimal after `0x`; the last number fills the bytes that the others leave.  A point at
the end does not count.  A host whose last part is a number is an address or nothing
(`Ipv4.endsInNumber`).
-/
import Strongbox.Text.Numeral
import Strongbox.Text.Pieces
namespace Strongbox.Url.Ipv4

/-- A number with its mark for the base; a mark alone is zero. -/
def number? (s : List Char) : Option Nat :=
  let read (base : Nat) (s : List Char) := if s.isEmpty then some 0 else Numeral.read? base s
  match s with
  | [] => none
  | '0' :: 'x' :: rest => read 16 rest
  | '0' :: 'X' :: rest => read 16 rest
  | '0' :: c :: rest => read 8 (c :: rest)
  | s => read 10 s

/-- The parts of a host, without an empty one at the end. -/
def parts (host : List Char) : List (List Char) :=
  let ps := Text.pieces '.' host
  if ps.getLast? = some [] then ps.dropLast else ps

/-- Is the last part of the host a number, or made of digits? -/
def endsInNumber (host : List Char) : Bool :=
  match (parts host).getLast? with
  | some p => (!p.isEmpty && p.all Char.isDigit) || (number? p).isSome
  | none => false

/-- The address that numbers make, the first one first. -/
def assemble? (numbers : List Nat) : Option Nat :=
  match numbers.reverse with
  | [] => none
  | last :: others =>
    let space := Nat.pow 256 (5 - numbers.length)
    if 4 < numbers.length ∨ others.any (255 < ·) ∨ space ≤ last then none
    else some (Numeral.extend 256 0 others.reverse * space + last)

def parse? (host : List Char) : Option Nat := ((parts host).mapM number?).bind assemble?

/-- Is it an address of the machine itself? -/
def isLoopback (address : Nat) : Bool := address / 16777216 == 127

def text (address : Nat) : List Char :=
  Text.join '.' ([3, 2, 1, 0].map fun k => (Numeral.decimal (address / Nat.pow 256 k % 256)).toList)

end Strongbox.Url.Ipv4
