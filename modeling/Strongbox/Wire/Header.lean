/-
Header values.

A value may hold any byte but controls, of which only the tab is allowed.  It is text if all
its bytes are printable ASCII characters, blanks or tabs.
-/
import Strongbox.Text.Utf8
namespace Strongbox.Wire.Header

/-- May a value hold the byte? -/
def isValueByte (b : UInt8) : Bool := b == 0x09 || (0x20 ≤ b && b != 0x7F)

/-- May the string be a value? -/
def isValue (s : String) : Bool := (Utf8.ofString s).all isValueByte

/-- Is the byte a printable ASCII character, a blank or a tab? -/
def isTextByte (b : UInt8) : Bool := b == 0x09 || (0x20 ≤ b && b < 0x7F)

def text? (value : List UInt8) : Option String :=
  if value.all isTextByte then some (String.ofList (value.map fun b => Char.ofNat b.toNat))
  else none

/-- The first value of a name. -/
def first? (name : String) (headers : List (String × List UInt8)) : Option (List UInt8) :=
  (headers.find? (·.1 == name)).map (·.2)

/-- The headers in the order of their names. -/
def insert (h : String × String) : List (String × String) → List (String × String)
  | [] => [h]
  | g :: rest => if h.1 ≤ g.1 then h :: g :: rest else g :: insert h rest

/-- The headers put in the order of their names. -/
def sort (headers : List (String × String)) : List (String × String) :=
  headers.foldr insert []

end Strongbox.Wire.Header
