/-
Percent-encoding: bytes written as `%` and two hexadecimal digits.

`Percent.encode` writes the UTF-8 bytes of a text, those of a class as they are and the
others encoded, with capital letters for digits.  `Percent.decode` reads any text: a `%`
without two digits behind it stands for itself.
-/
import Strongbox.Text.Numeral
import Strongbox.Text.Utf8
namespace Strongbox.Percent

/-- The three characters of an encoded byte. -/
def escape (b : UInt8) : List Char :=
  ['%', Numeral.upperDigit (b.toNat / 16), Numeral.upperDigit (b.toNat % 16)]

/-- One byte of the class or an encoded one.  A class holds ASCII bytes only. -/
def encodeByte (keep : UInt8 → Bool) (b : UInt8) : List Char :=
  if keep b then [Char.ofNat b.toNat] else escape b

/-- The text with every byte outside the class encoded. -/
def encode (keep : UInt8 → Bool) (s : List Char) : List Char :=
  (Utf8.bytes s).flatMap (encodeByte keep)

/-- The class of ASCII bytes that are no controls and not among the given characters. -/
def allBut (reserved : String) (b : UInt8) : Bool :=
  0x20 ≤ b && b < 0x7F && !reserved.toList.any fun c => c.toNat == b.toNat

/-- The value of a byte that is a hexadecimal digit. -/
def hexValue? (b : UInt8) : Option Nat := Numeral.digitValue? 16 (Char.ofNat b.toNat)

/-- The byte that two hexadecimal digits write. -/
def pairValue? (a b : UInt8) : Option UInt8 := do
  let x ← hexValue? a
  let y ← hexValue? b
  pure (x * 16 + y).toUInt8

/-- The bytes of a text with its encoded bytes put back.  Fewer than three bytes hold none. -/
def decodeBytes : List UInt8 → List UInt8
  | a :: b :: c :: rest =>
    if a = 0x25 then
      match pairValue? b c with
      | some v => v :: decodeBytes rest
      | none => a :: decodeBytes (b :: c :: rest)
    else a :: decodeBytes (b :: c :: rest)
  | bs => bs

/-- The bytes that a text stands for. -/
def decode (s : List Char) : List UInt8 := decodeBytes (Utf8.bytes s)

end Strongbox.Percent
