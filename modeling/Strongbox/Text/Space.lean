/-
White space, and texts without it at their ends.

White space is the property of that name of the Unicode standard: 25 characters in 10
ranges.  The zero width characters (U+200B, U+FEFF) do not have it.  `trim` removes white
space at both ends of a text and nothing else.
-/
import Strongbox.Text.Ranges
namespace Strongbox.Text

def spaceRanges : List (Nat × Nat) :=
  [(0x09, 0x0D), (0x20, 0x20), (0x85, 0x85), (0xA0, 0xA0), (0x1680, 0x1680), (0x2000, 0x200A),
   (0x2028, 0x2029), (0x202F, 0x202F), (0x205F, 0x205F), (0x3000, 0x3000)]

def isSpace (c : Char) : Bool := inRanges spaceRanges c.toNat

/-- The text without white space at its ends. -/
def trim (s : List Char) : List Char := trimBoth isSpace s

/-- A string without white space at its ends. -/
def trimString (s : String) : String := String.ofList (trim s.toList)

/-- Does the string hold nothing but white space? -/
def isBlank (s : String) : Bool := s.toList.all isSpace

/-- The text with the letters `A` to `Z` made small and every other character kept. -/
def toLowerAscii (s : List Char) : List Char := s.map Char.toLower

end Strongbox.Text
