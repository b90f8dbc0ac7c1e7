/-
Sets of characters given by closed ranges of code points.

A property of characters that a standard tabulates is a list of closed ranges (`inRanges`).
Short tables are written as lists of pairs.  Long ones are written as a text of hexadecimal
numbers, one range after another, `a` for a single code point and `a-b` for a range, and
read by `Ranges.ofText`.
-/
import Strongbox.Text.Numeral
import Strongbox.Text.Pieces
namespace Strongbox.Text

/-- Is the code point `n` in one of the closed ranges? -/
def inRanges (ranges : List (Nat × Nat)) (n : Nat) : Bool :=
  ranges.any fun r => r.1 ≤ n && n ≤ r.2

/-- One range of a table text. -/
def Ranges.ofToken? (token : List Char) : Option (Nat × Nat) :=
  match pieces '-' token with
  | [a] => (Numeral.read? 16 a).map fun n => (n, n)
  | [a, b] => do pure (← Numeral.read? 16 a, ← Numeral.read? 16 b)
  | _ => none

/-- The ranges of a table text; a piece that is no range is left out. -/
def Ranges.ofText (s : String) : List (Nat × Nat) :=
  (pieces ' ' s.toList).filterMap Ranges.ofToken?

end Strongbox.Text
