/-
Binary floating point numbers of 64 bits, the finite ones, as exact values.

A number is a sign, a mantissa below 2^53 and a binary exponent from -1074 to 971; zero
keeps its sign.  Operations on exact rational numbers are rounded by `Binary64.ofRatio?`, to
the nearest number, a tie to the even mantissa; a result that rounds beyond the largest
number has no value.

`Binary64.scale?` multiplies a number by a power of ten in one or more rounded steps.  The
powers up to 10^308 are numbers of the format (rounded themselves); a power below 10^-308 is
divided out in steps of 10^308.  So the result need not be the number nearest to the decimal
that was meant (`Binary64.ofScaled?`).
-/
namespace Strongbox

/-- A finite number `± mantissa · 2 ^ exponent`. -/
structure Binary64 where
  negative : Bool
  mantissa : Nat
  exponent : Int
  deriving DecidableEq

namespace Binary64

/-- The least mantissa of 53 bits: that of a number which is not near zero. -/
def leastNormal : Nat := 4503599627370496

def minExponent : Int := -1074

def maxExponent : Int := 971

def zero (negative : Bool) : Binary64 := ⟨negative, 0, minExponent⟩

/-- Is the number zero, with either sign? -/
def isZero (x : Binary64) : Bool := x.mantissa == 0

/-- The integer nearest to `num / den`, a tie to the even one. -/
def roundDiv (num den : Nat) : Nat :=
  let q := num / den
  let r := num % den
  if 2 * r < den then q
  else if den < 2 * r then q + 1
  else q + q % 2

/-- `num / (den · 2 ^ e)` as a fraction of natural numbers. -/
def shifted (num den : Nat) (e : Int) : Nat × Nat :=
  (num * Nat.pow 2 (-e).toNat, den * Nat.pow 2 e.toNat)

/-- The exponent at which `num / den` has a mantissa of 53 bits, or the least exponent. -/
def exponentFor (num den : Nat) : Int :=
  let e : Int := (num.log2 : Int) - den.log2 - 52
  let (n, d) := shifted num den e
  max (if n < leastNormal * d then e - 1 else e) minExponent

/-- The number nearest to `± num / den`, if it is finite; `den` is not zero. -/
def ofRatio? (negative : Bool) (num den : Nat) : Option Binary64 :=
  if num = 0 then some (zero negative)
  else
    let e := exponentFor num den
    let (n, d) := shifted num den e
    let m := roundDiv n d
    let (m, e) := if m = 2 * leastNormal then (leastNormal, e + 1) else (m, e)
    if e > maxExponent then none else some ⟨negative, m, e⟩

/-- The magnitude of a number as a fraction. -/
def ratio (x : Binary64) : Nat × Nat :=
  (x.mantissa * Nat.pow 2 x.exponent.toNat, Nat.pow 2 (-x.exponent).toNat)

/-- The number nearest to a natural number that is not beyond the format. -/
def ofNat? (n : Nat) : Option Binary64 := ofRatio? false n 1

/-- The product, rounded; the sign is that of the first number. -/
def mul? (x y : Binary64) : Option Binary64 :=
  ofRatio? x.negative (x.ratio.1 * y.ratio.1) (x.ratio.2 * y.ratio.2)

/-- The quotient, rounded; the sign is that of the first number, and the second is not zero. -/
def div? (x y : Binary64) : Option Binary64 :=
  ofRatio? x.negative (x.ratio.1 * y.ratio.2) (x.ratio.2 * y.ratio.1)

/-- `x` divided by `10 ^ k`, in steps of at most `10 ^ 308`. -/
def divPowTen? (x : Binary64) (k : Nat) : Option Binary64 := do
  if _h : k ≤ 308 then x.div? (← ofNat? (Nat.pow 10 k))
  else if x.isZero then some x
  else
    let y ← x.div? (← ofNat? (Nat.pow 10 308))
    divPowTen? y (k - 308)
termination_by k

/-- `x` times `10 ^ k`; beyond the format there is no value, except for zero. -/
def mulPowTen? (x : Binary64) (k : Nat) : Option Binary64 := do
  if k ≤ 308 then x.mul? (← ofNat? (Nat.pow 10 k))
  else if x.isZero then some x
  else none

/-- `x` times a power of ten. -/
def scale? (x : Binary64) : Int → Option Binary64
  | .ofNat k => x.mulPowTen? k
  | .negSucc k => x.divPowTen? (k + 1)

/-- A natural number times a power of ten, by rounded steps. -/
def ofScaled? (n : Nat) (e : Int) : Option Binary64 := (ofNat? n).bind (·.scale? e)

end Binary64
end Strongbox
