/-
Base64 with the standard alphabet and padding.

`Base64.encode` writes three bytes as four symbols; one or two bytes at the end are written
as two or three symbols, filled up with `=`.  `Base64.decode` reads exactly what `encode`
writes: it refuses symbols outside the alphabet, a length that leaves one symbol over,
padding that is missing or in the wrong place, and bits behind the last byte that are not
zero.
-/
import Strongbox.Text.Numeral
import Strongbox.Text.Utf8
namespace Strongbox.Base64

/-- The symbols, in the order of their values. -/
def alphabet : List Char :=
  "ABCDEFGHIJKLMNOPQRSTUVWXYZabcdefghijklmnopqrstuvwxyz0123456789+/".toList

/-- The symbol of a value below 64. -/
def symbol (n : Nat) : Char := alphabet.getD n 'A'

/-- The value of a byte that is a symbol. -/
def value? (b : UInt8) : Option Nat := alphabet.findIdx? fun c => c.toNat == b.toNat

def encode : List UInt8 → List Char
  | [] => []
  | [a] => [symbol (a.toNat / 4), symbol (a.toNat % 4 * 16), '=', '=']
  | [a, b] =>
    [symbol (a.toNat / 4), symbol (a.toNat % 4 * 16 + b.toNat / 16), symbol (b.toNat % 16 * 4), '=']
  | a :: b :: c :: rest =>
    symbol (a.toNat / 4) :: symbol (a.toNat % 4 * 16 + b.toNat / 16) ::
      symbol (b.toNat % 16 * 4 + c.toNat / 64) :: symbol (c.toNat % 64) :: encode rest

/-- Why a text is no encoding of bytes. -/
inductive Fault where
  | symbol (byte : UInt8) (offset : Nat)
  | length (symbols : Nat)
  | lastSymbol (byte : UInt8) (offset : Nat)
  | padding
  deriving DecidableEq

/-- A fault in words; symbols are shown by their byte. -/
def Fault.message : Fault → String
  | .symbol b i =>
    "Invalid symbol " ++ Numeral.decimal b.toNat ++ ", offset " ++ Numeral.decimal i ++ "."
  | .length n => "Invalid input length: " ++ Numeral.decimal n
  | .lastSymbol b i =>
    "Invalid last symbol " ++ Numeral.decimal b.toNat ++ ", offset " ++ Numeral.decimal i ++ "."
  | .padding => "Invalid padding"

/-- The value of the symbol at an offset. -/
def valueAt (i : Nat) (b : UInt8) : Except Fault Nat :=
  match value? b with
  | some v => .ok v
  | none => .error (.symbol b i)

/-- The values of symbols that start at an offset. -/
def values : (i : Nat) → List UInt8 → Except Fault (List Nat)
  | _, [] => .ok []
  | i, b :: rest => do
    let v ← valueAt i b
    let vs ← values (i + 1) rest
    .ok (v :: vs)

/-- The bytes of four values. -/
def threeBytes (v w x y : Nat) : List UInt8 :=
  [(v * 4 + w / 16).toUInt8, (w % 16 * 16 + x / 4).toUInt8, (x % 4 * 64 + y).toUInt8]

def pad : UInt8 := 0x3D

/-- The last group, of at most four symbols, which start at an offset. -/
def lastGroup (i : Nat) (bs : List UInt8) : Except Fault (List UInt8) := do
  let body := bs.takeWhile (· != pad)
  let tail := bs.dropWhile (· != pad)
  let vs ← values i body
  if !tail.isEmpty && (body.length < 2 || tail.any (· != pad)) then
    .error (.symbol pad (i + body.length))
  else if bs.isEmpty then .ok []
  else if body.length < 2 then .error (.length (i + body.length))
  else if bs.length % 4 ≠ 0 then .error .padding
  else
    match vs with
    | [v, w] =>
      if w % 16 = 0 then .ok [(v * 4 + w / 16).toUInt8]
      else .error (.lastSymbol (body.getLastD pad) (i + 1))
    | [v, w, x] =>
      if x % 4 = 0 then .ok [(v * 4 + w / 16).toUInt8, (w % 16 * 16 + x / 4).toUInt8]
      else .error (.lastSymbol (body.getLastD pad) (i + 2))
    | [v, w, x, y] => .ok (threeBytes v w x y)
    | _ => .ok []

/-- The bytes of the groups from an offset on. -/
def groups : (i : Nat) → List UInt8 → Except Fault (List UInt8)
  | i, a :: b :: c :: d :: e :: rest => do
    let v ← valueAt i a
    let w ← valueAt (i + 1) b
    let x ← valueAt (i + 2) c
    let y ← valueAt (i + 3) d
    let bs ← groups (i + 4) (e :: rest)
    .ok (threeBytes v w x y ++ bs)
  | i, bs => lastGroup i bs

/-- A byte left over behind the last group that is neither a symbol nor padding. -/
def strayLast? (bs : List UInt8) : Option UInt8 :=
  if bs.length % 4 = 1 then
    bs.getLast?.filter fun b => b != pad && (value? b).isNone
  else none

/-- The bytes that symbols stand for.  A stray byte at the end, such as a line break, is
reported before anything else. -/
def decodeBytes (bs : List UInt8) : Except Fault (List UInt8) :=
  match strayLast? bs with
  | some b => .error (.symbol b (bs.length - 1))
  | none => groups 0 bs

/-- The bytes that a text stands for. -/
def decode (s : String) : Except Fault (List UInt8) := decodeBytes (Utf8.ofString s)

def encodeText (bs : List UInt8) : String := String.ofList (encode bs)

end Strongbox.Base64
