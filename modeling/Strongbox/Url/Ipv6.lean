/-
IPv6 addresses as URLs write them.

An address has eight pieces of 16 bits, written in hexadecimal with colons between them.
One run of zero pieces may be left out, which a double colon shows, and the last two pieces
may be written as an IPv4 address of four decimal numbers.
-/
import Strongbox.Text.Numeral
import Strongbox.Text.Pieces
namespace Strongbox.Url.Ipv6

/-- What has been read of an address: the pieces, and before which of them the double colon
stands. -/
structure Partial where
  pieces : List Nat
  gap : Option Nat

/-- The pieces with the gap filled; there must be eight. -/
def Partial.complete? (p : Partial) : Option (List Nat) :=
  match p.gap with
  | some k =>
    if p.pieces.length ≤ 8 then
      some (p.pieces.take k ++ List.replicate (8 - p.pieces.length) 0 ++ p.pieces.drop k)
    else none
  | none => if p.pieces.length = 8 then some p.pieces else none

/-- A decimal number of one byte without leading zeros. -/
def byte? (s : List Char) : Option Nat :=
  match s with
  | '0' :: _ :: _ => none
  | s => if s.length ≤ 3 then (Numeral.read? 10 s).filter (· ≤ 255) else none

/-- The two pieces of an IPv4 address at the end. -/
def embedded? (s : List Char) : Option (List Nat) := do
  match ← (Text.pieces '.' s).mapM byte? with
  | [a, b, c, d] => some [a * 256 + b, c * 256 + d]
  | _ => none

/-- Is the character a hexadecimal digit? -/
def isHex (c : Char) : Bool := (Numeral.digitValue? 16 c).isSome

/-- At most four hexadecimal digits, and what follows them; no digits are zero. -/
def piece (s : List Char) : Nat × List Char :=
  let ds := (s.take 4).takeWhile isHex
  ((Numeral.read? 16 ds).getD 0, s.drop ds.length)

/-- Reads on from a place where a piece or the second colon of a double one may stand. -/
def read : Nat → Partial → List Char → Option Partial
  | _, p, [] => some p
  | 0, _, _ :: _ => none
  | fuel + 1, p, c :: s =>
    if p.pieces.length = 8 then none
    else if c = ':' then
      if p.gap.isSome then none
      else read fuel ⟨p.pieces ++ [0], some (p.pieces.length + 1)⟩ s
    else
      match piece (c :: s) with
      | (v, []) => some { p with pieces := p.pieces ++ [v] }
      | (v, ':' :: rest) =>
        if rest.isEmpty then none else read fuel { p with pieces := p.pieces ++ [v] } rest
      | (_, '.' :: _) =>
        if c = '.' ∨ 6 < p.pieces.length then none
        else (embedded? (c :: s)).map fun vs => { p with pieces := p.pieces ++ vs }
      | _ => none

/-- The address between the brackets of a host. -/
def parse? (s : List Char) : Option (List Nat) :=
  match s with
  | ':' :: ':' :: rest => (read (rest.length + 1) ⟨[0], some 1⟩ rest).bind Partial.complete?
  | ':' :: _ => none
  | [_] => none
  | [] => none
  | s => (read (s.length + 1) ⟨[], none⟩ s).bind Partial.complete?

/-- Is it the address of the machine itself? -/
def isLoopback (address : List Nat) : Bool := address == [0, 0, 0, 0, 0, 0, 0, 1]

/-- The length of the run of zeros at the start. -/
def zeroRun (pieces : List Nat) : Nat := (pieces.takeWhile (· == 0)).length

/-- Where the longest run of zeros starts, the first one of equal runs, and its length. -/
def longestRun (pieces : List Nat) : Nat × Nat :=
  (List.range pieces.length).foldl
    (fun best i => let n := zeroRun (pieces.drop i); if best.2 < n then (i, n) else best) (0, 0)

def colons (pieces : List Nat) : List Char :=
  Text.join ':' (pieces.map fun n => (Numeral.hexLower n).toList)

/-- The address with its longest run of at least two zeros left out. -/
def text (address : List Nat) : List Char :=
  let (start, length) := longestRun address
  if length < 2 then colons address
  else colons (address.take start) ++ [':', ':'] ++ colons (address.drop (start + length))

end Strongbox.Url.Ipv6
