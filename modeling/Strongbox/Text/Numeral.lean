/-
Numerals: the digits of a natural number in a base, and the number that a text of digits
stands for.

Main definitions:
* `Numeral.digits` — the digits of a number, most significant first, without leading zeros;
* `Numeral.decimal`, `Numeral.hexLower` — a number written in base ten or sixteen;
* `Numeral.read?` — the value of a non-empty text made of digits of the base and nothing
  else.

`Numeral.read?` accepts leading zeros and no sign; a caller that allows a sign strips it
first.
-/
namespace Strongbox.Numeral

/-- The digits of `n` in `base`, most significant first.  A base below two gives the number
itself as its only digit, so that the function is total. -/
def digits (base n : Nat) : List Nat :=
  if _h : base < 2 ∨ n < base then [n] else digits base (n / base) ++ [n % base]
termination_by n
decreasing_by exact Nat.div_lt_self (by omega) (by omega)

/-- The character of a digit: `0` to `9`, then `a` to `z`. -/
def lowerDigit (d : Nat) : Char :=
  if d < 10 then Char.ofNat (48 + d) else Char.ofNat (87 + d)

/-- The character of a digit: `0` to `9`, then `A` to `Z`. -/
def upperDigit (d : Nat) : Char :=
  if d < 10 then Char.ofNat (48 + d) else Char.ofNat (55 + d)

/-- The value of a character as a digit of `base`; letters count in either case. -/
def digitValue? (base : Nat) (c : Char) : Option Nat :=
  let n := c.toNat
  let v :=
    if 48 ≤ n ∧ n ≤ 57 then some (n - 48)
    else if 97 ≤ n ∧ n ≤ 122 then some (n - 87)
    else if 65 ≤ n ∧ n ≤ 90 then some (n - 55)
    else none
  v.filter (· < base)

/-- The digits `ds`, read after a number `n` in the same base. -/
def extend (base n : Nat) (ds : List Nat) : Nat :=
  ds.foldl (fun acc d => acc * base + d) n

/-- The number that a text of digits stands for; a text that is empty or holds anything else
than digits of the base stands for none. -/
def read? (base : Nat) : List Char → Option Nat
  | [] => none
  | s => (s.mapM (digitValue? base)).map (extend base 0)

def decimal (n : Nat) : String :=
  String.ofList ((digits 10 n).map lowerDigit)

/-- An integer in base ten, with a minus sign if it is negative. -/
def decimalInt : Int → String
  | .ofNat n => decimal n
  | .negSucc n => "-" ++ decimal (n + 1)

/-- A number in base sixteen, with small letters. -/
def hexLower (n : Nat) : String :=
  String.ofList ((digits 16 n).map lowerDigit)

/-- A text padded on the left with zeros to at least `width` characters. -/
def padZeros (width : Nat) (s : String) : String :=
  String.ofList (List.replicate (width - s.length) '0') ++ s

end Strongbox.Numeral
