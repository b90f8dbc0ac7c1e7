/-
Punycode: labels of domain names written with ASCII characters (RFC 3492).

A label's ASCII characters come first, then a hyphen if there are any, then one number for
each other character, in the order of the code points: how many places and code points lie
between it and the one before.  The numbers have digits of base 36 with a threshold that
adapts to the numbers so far.
-/
import Strongbox.Text.Numeral
namespace Strongbox.Url.Punycode

/-- The threshold of the digit at `k`, which counts 36, 72, …: between 1 and 26. -/
def threshold (bias k : Nat) : Nat := max 1 (min 26 (k - bias))

/-- Divides down to the range in which the bias is computed. -/
def damp (delta k : Nat) : Nat × Nat :=
  if _h : 455 < delta then damp (delta / 35) (k + 36) else (delta, k)
termination_by delta
decreasing_by omega

/-- The bias after a number `delta`, when there are `points` characters. -/
def adapt (delta points : Nat) (first : Bool) : Nat :=
  let d := if first then delta / 700 else delta / 2
  let (d, k) := damp (d + d / points) 0
  k + 36 * d / (d + 38)

/-- The character of a digit below 36. -/
def digit (d : Nat) : Char := if d < 26 then Char.ofNat (97 + d) else Char.ofNat (22 + d)

def value? (c : Char) : Option Nat :=
  if c.isDigit then some (c.toNat - 22)
  else if c.isLower then some (c.toNat - 97)
  else if c.isUpper then some (c.toNat - 65)
  else none

/-- The digits of a number from the one at `k` on. -/
def digits (bias q k : Nat) : List Char :=
  let t := threshold bias k
  if _h : q < t then [digit q]
  else digit (t + (q - t) % (36 - t)) :: digits bias ((q - t) / (36 - t)) (k + 36)
termination_by q
decreasing_by
  have h1 : 1 ≤ threshold bias k := by simp only [threshold]; omega
  exact Nat.lt_of_le_of_lt (Nat.div_le_self _ _) (by omega)

/-- A number from its digit at `k` on, whose place is worth `weight`; and what follows it.  No
place is worth a number that a word of 32 bits does not hold. -/
def number? (bias : Nat) : (k weight : Nat) → List Char → Option (Nat × List Char)
  | _, _, [] => none
  | k, weight, c :: rest => do
    let d ← value? c
    let t := threshold bias k
    if d < t then some (d * weight, rest)
    else if weight * (36 - t) < UInt32.size then
      let (n, rest) ← number? bias (k + 36) (weight * (36 - t)) rest
      some (d * weight + n, rest)
    else none

/-- The character of a code point that may stand in a label. -/
def scalar? (n : Nat) : Option Char := if n.isValidChar then some (Char.ofNat n) else none

/-- Inserts the characters that the numbers stand for, from code point `n` and place `i` on.  A
place and the number counted from it must stay within 32 bits. -/
def insertAll : (fuel n i bias : Nat) → List Char → List Char → Option (List Char)
  | _, _, _, _, out, [] => some out
  | 0, _, _, _, _, _ :: _ => none
  | fuel + 1, n, i, bias, out, s => do
    let (delta, rest) ← number? bias 36 1 s
    guard (i + delta < UInt32.size)
    let points := out.length + 1
    let n := n + (i + delta) / points
    let place := (i + delta) % points
    let c ← scalar? n
    insertAll fuel n (place + 1) (adapt delta points (i == 0))
      (out.take place ++ c :: out.drop place) rest

/-- The place of the last hyphen. -/
def lastHyphen? (s : List Char) : Option Nat :=
  (s.reverse.findIdx? (· == '-')).map fun k => s.length - 1 - k

/-- The label that a text stands for.  A hyphen at the start divides nothing. -/
def decode? (s : List Char) : Option (List Char) :=
  match lastHyphen? s with
  | some (k + 1) => insertAll s.length 128 0 72 (s.take (k + 1)) (s.drop (k + 2))
  | _ => insertAll s.length 128 0 72 [] s

/-- What the encoder knows between two code points: the distance so far, the bias, and how many
characters are done. -/
structure Progress where
  delta : Nat
  bias : Nat
  done : Nat

/-- One character of the label while the code point is `n`. -/
def stepChar (basic n : Nat) (acc : Progress × List Char) (c : Char) : Progress × List Char :=
  let (p, out) := acc
  if c.toNat < n then ({ p with delta := p.delta + 1 }, out)
  else if c.toNat = n then
    (⟨0, adapt p.delta (p.done + 1) (p.done == basic), p.done + 1⟩, out ++ digits p.bias p.delta 36)
  else acc

/-- The numbers of the characters whose code points are not below `n`. -/
def encodeFrom (label : List Char) (basic : Nat) : (fuel n : Nat) → Progress → List Char
  | 0, _, _ => []
  | fuel + 1, n, p =>
    match ((label.map Char.toNat).filter (n ≤ ·)).min? with
    | none => []
    | some m =>
      let p := { p with delta := p.delta + (m - n) * (p.done + 1) }
      let (p, out) := label.foldl (stepChar basic m) (p, [])
      out ++ encodeFrom label basic fuel (m + 1) { p with delta := p.delta + 1 }

def encode (label : List Char) : List Char :=
  let basic := label.filter (·.toNat < 128)
  let head := if basic.isEmpty then [] else basic ++ ['-']
  head ++ encodeFrom label basic.length label.length 128 ⟨0, 72, basic.length⟩

end Strongbox.Url.Punycode
