/-
The shortest decimal that reads back as a binary number, and how it is written.

The reals that round to a number form an interval, whose ends count if the mantissa is even.
`Shortest.decimal` takes the coarsest decimal grid that has a point in the interval, at most
17 digits, and of two points on that grid the nearer one.

A number is written with its digits in place if its first digit stands between 10^-5 and
10^15, with `.0` after an integer; else as `d.ddde+n`, the exponent always signed and not
padded.
-/
import Strongbox.Number.Binary64
import Strongbox.Text.Numeral
namespace Strongbox.Shortest

/-- A decimal `digits · 10 ^ exponent`. -/
structure Decimal where
  digits : Nat
  exponent : Int

/-- The numbers that read as `x` lie between two fractions `(low, den)` and `(high, den)`;
the value itself is `mid / den`. -/
structure Interval where
  low : Nat
  mid : Nat
  high : Nat
  den : Nat
  closed : Bool

/-- The interval of a number that is not zero.  Below a power of two the numbers are twice
as close as above it. -/
def interval (x : Binary64) : Interval :=
  let num := Nat.pow 2 x.exponent.toNat
  let below := if x.mantissa = Binary64.leastNormal ∧ x.exponent > Binary64.minExponent then 1 else 2
  { low := (4 * x.mantissa - below) * num
    mid := 4 * x.mantissa * num
    high := (4 * x.mantissa + 2) * num
    den := 4 * Nat.pow 2 (-x.exponent).toNat
    closed := x.mantissa % 2 == 0 }

/-- The decimal exponent of the first digit of `num / den`, which is not zero. -/
def leading (num den : Nat) : Int :=
  ((Numeral.digits 10 (num * Nat.pow 10 340 / den)).length : Int) - 341

/-- Is `c · 10 ^ p` in the interval? -/
def Interval.holds (i : Interval) (c : Nat) (p : Int) : Bool :=
  let v := c * Nat.pow 10 p.toNat * i.den
  let s := Nat.pow 10 (-p).toNat
  if i.closed then i.low * s ≤ v && v ≤ i.high * s else i.low * s < v && v < i.high * s

/-- The point of the grid of step `10 ^ p` that is in the interval and nearest to its value. -/
def Interval.point? (i : Interval) (p : Int) : Option Nat :=
  let num := i.mid * Nat.pow 10 (-p).toNat
  let den := i.den * Nat.pow 10 p.toNat
  let c := num / den
  match i.holds c p && c != 0, i.holds (c + 1) p with
  | true, true =>
    let r := num % den
    some (if 2 * r < den ∨ (2 * r = den ∧ c % 2 = 0) then c else c + 1)
  | true, false => some c
  | false, true => some (c + 1)
  | false, false => none

/-- The first grid with a point, from steps of `10 ^ p` downwards. -/
def Interval.search (i : Interval) : Nat → Int → Decimal
  | 0, p => ⟨(i.mid * Nat.pow 10 (-p).toNat) / (i.den * Nat.pow 10 p.toNat), p⟩
  | n + 1, p =>
    match i.point? p with
    | some c => ⟨c, p⟩
    | none => search i n (p - 1)

/-- The same decimal without zeros at the end of its digits. -/
def Decimal.trimZeros : Nat → Decimal → Decimal
  | 0, d => d
  | n + 1, d =>
    if d.digits ≠ 0 ∧ d.digits % 10 = 0 then trimZeros n ⟨d.digits / 10, d.exponent + 1⟩ else d

/-- The shortest decimal of the magnitude of a number that is not zero. -/
def decimal (x : Binary64) : Decimal :=
  let i := interval x
  (i.search 18 (leading i.mid i.den)).trimZeros 20

/-- The digits of a decimal with the point or the exponent where the format puts them. -/
def Decimal.text (d : Decimal) : String :=
  let ds := (Numeral.decimal d.digits).toList
  let first : Int := d.exponent + ds.length - 1
  let zeros (n : Int) : List Char := List.replicate n.toNat '0'
  String.ofList <|
    if first < -5 ∨ 15 < first then
      let tail := ds.drop 1
      let mantissa := ds.take 1 ++ if tail.isEmpty then [] else '.' :: tail
      let sign := if first < 0 then '-' else '+'
      mantissa ++ 'e' :: sign :: (Numeral.decimal first.natAbs).toList
    else if first < 0 then
      '0' :: '.' :: zeros (-first - 1) ++ ds
    else if 0 ≤ d.exponent then
      ds ++ zeros d.exponent ++ ['.', '0']
    else
      let whole := (first + 1).toNat
      ds.take whole ++ '.' :: ds.drop whole

/-- The text of a number. -/
def text (x : Binary64) : String :=
  (if x.negative then "-" else "") ++ if x.isZero then "0.0" else (decimal x).text

end Strongbox.Shortest
