/-
Form encoding of lists of pairs, as the query of a URL holds them.

A pair is its name, `=` and its value, and pairs stand with `&` between them.  Letters,
digits and `* - . _` stand for themselves, a blank is `+`, and every other byte is
percent-encoded.
-/
import Strongbox.Percent
import Strongbox.Text.Pieces
namespace Strongbox.Form

/-- The bytes that stand for themselves. -/
def isPlain (b : UInt8) : Bool :=
  let c := Char.ofNat b.toNat
  b < 0x80 && (c.isAlphanum || c == '*' || c == '-' || c == '.' || c == '_')

/-- One byte of a name or a value. -/
def encodeByte (b : UInt8) : List Char :=
  if b == 0x20 then ['+'] else Percent.encodeByte isPlain b

/-- A name or a value. -/
def encodeText (s : String) : List Char := (Utf8.ofString s).flatMap encodeByte

def encodePair (pair : String × String) : List Char :=
  encodeText pair.1 ++ '=' :: encodeText pair.2

def encode (pairs : List (String × String)) : List Char :=
  Text.join '&' (pairs.map encodePair)

end Strongbox.Form
