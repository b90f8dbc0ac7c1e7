/-
Points in time as RFC 3339 writes them.

A text is a date, one separating character, a time of day with an optional fraction, and an
offset from UTC.  Any ASCII character may separate date and time.  Digits of the fraction
behind the ninth do not count.  Second 60 stands for the last nanosecond of the minute, and
is accepted only where a leap second may be: in the last minute of a month in UTC.
-/
import Strongbox.Text.Numeral
namespace Strongbox

/-- A point in time, in nanoseconds since 1970 began in UTC, and the offset of the clock
that told it, in seconds. -/
structure Timestamp where
  unixNanos : Int
  offsetSeconds : Int
  deriving DecidableEq

namespace Timestamp

/-- Has the year a 29th of February? -/
def isLeapYear (y : Nat) : Bool := y % 4 == 0 && (y % 100 != 0 || y % 400 == 0)

/-- The number of days of a month, 1 to 12. -/
def monthLength (y m : Nat) : Nat :=
  if m = 2 then (if isLeapYear y then 29 else 28)
  else if m = 4 ∨ m = 6 ∨ m = 9 ∨ m = 11 then 30
  else 31

/-- The number of days before the first of January of a year, counted from year 0. -/
def daysBeforeYear (y : Nat) : Nat := 365 * y + (y + 3) / 4 - (y + 99) / 100 + (y + 399) / 400

/-- The number of days of a year before a month of it. -/
def daysBeforeMonth (y : Nat) : Nat → Nat
  | 0 => 0
  | 1 => 0
  | m + 2 => daysBeforeMonth y (m + 1) + monthLength y (m + 1)

/-- The day of a date, counted from the first of January 1970. -/
def dayNumber (y m d : Nat) : Int :=
  ((daysBeforeYear y + daysBeforeMonth y m + (d - 1) : Nat) : Int) - daysBeforeYear 1970

/-- A number of exactly `n` decimal digits. -/
def digits? (n : Nat) (s : List Char) : Option (Nat × List Char) :=
  if s.length < n then none
  else (Numeral.read? 10 (s.take n)).map fun v => (v, s.drop n)

def char? (c : Char) : List Char → Option (List Char)
  | d :: rest => if d = c then some rest else none
  | [] => none

/-- The nanoseconds of a fraction behind its point: nine digits of it, filled up with zeros. -/
def fractionNanos (ds : List Char) : Nat :=
  (Numeral.read? 10 ((ds ++ List.replicate 9 '0').take 9)).getD 0

def fraction? : List Char → Option (Nat × List Char)
  | '.' :: rest =>
    let ds := rest.takeWhile Char.isDigit
    if ds.isEmpty then none else some (fractionNanos ds, rest.dropWhile Char.isDigit)
  | s => some (0, s)

/-- An offset in seconds, at the end of the text. -/
def offset? : List Char → Option Int
  | ['Z'] => some 0
  | ['z'] => some 0
  | sign :: rest => do
    let (h, rest) ← digits? 2 rest
    let rest ← char? ':' rest
    let (m, rest) ← digits? 2 rest
    if h ≤ 23 ∧ m ≤ 59 ∧ rest.isEmpty then
      let n : Int := (h * 60 + m) * 60
      if sign = '+' then some n else if sign = '-' then some (-n) else none
    else none
  | [] => none

/-- The parts of a date and a time of day. -/
structure Parts where
  year : Nat
  month : Nat
  day : Nat
  hour : Nat
  minute : Nat
  second : Nat
  nanos : Nat
  offset : Int

/-- The parts that a text is made of, in their order. -/
def parts? (s : List Char) : Option Parts := do
  let (year, s) ← digits? 4 s
  let s ← char? '-' s
  let (month, s) ← digits? 2 s
  let s ← char? '-' s
  let (day, s) ← digits? 2 s
  let s ← match s with
    | c :: s => if c.toNat < 128 then some s else none
    | [] => none
  let (hour, s) ← digits? 2 s
  let s ← char? ':' s
  let (minute, s) ← digits? 2 s
  let s ← char? ':' s
  let (second, s) ← digits? 2 s
  let (nanos, s) ← fraction? s
  let offset ← offset? s
  some { year, month, day, hour, minute, second, nanos, offset }

/-- The length of a day in seconds. -/
def daySeconds : Int := 86400

/-- Is the day, counted from 1970, the last one of its month?  The month is the one of the
date, or one next to it if the offset leads there. -/
def isMonthEnd (p : Parts) (day : Int) : Bool :=
  let first := dayNumber p.year p.month 1
  day == first + monthLength p.year p.month - 1 || day == first - 1

/-- The point in time that the parts make. -/
def Parts.timestamp? (p : Parts) : Option Timestamp :=
  if p.month = 0 ∨ 12 < p.month ∨ p.day = 0 ∨ monthLength p.year p.month < p.day then none
  else if 23 < p.hour ∨ 59 < p.minute ∨ 60 < p.second then none
  else
    let leap := p.second = 60
    let second := if leap then 59 else p.second
    let nanos := if leap then 999999999 else p.nanos
    let clock : Int := (p.hour * 60 + p.minute) * 60 + second
    let utc : Int := dayNumber p.year p.month p.day * daySeconds + clock - p.offset
    if leap ∧ !(utc % daySeconds == daySeconds - 1 && isMonthEnd p (utc / daySeconds)) then none
    else some ⟨utc * 1000000000 + nanos, p.offset⟩

/-- The point in time that a text stands for. -/
def parse? (s : String) : Option Timestamp := (parts? s.toList).bind Parts.timestamp?

end Timestamp
end Strongbox
