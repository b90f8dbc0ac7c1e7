/-
Paths of URLs, with their dot segments resolved.

A segment `.` stands for nothing and `..` takes away the segment before it, unless that is
the letter of a drive; a percent-encoded point counts as a point in both.  A dot segment at
the end of a path leaves a slash there.  The other segments are percent-encoded where a path
has to be.
-/
import Strongbox.Percent
import Strongbox.Text.Pieces
namespace Strongbox.Url

/-- The bytes of a path that stand for themselves. -/
def isPathByte : UInt8 → Bool := Percent.allBut " \"<>\x60#?\x7b\x7d"

/-- The bytes of a query of a special URL that stand for themselves. -/
def isQueryByte : UInt8 → Bool := Percent.allBut " \"<>#'"

/-- The bytes of any other query that stand for themselves. -/
def isOpaqueQueryByte : UInt8 → Bool := Percent.allBut " \"<>#"

/-- The bytes of a fragment that stand for themselves. -/
def isFragmentByte : UInt8 → Bool := Percent.allBut " \"<>\x60"

namespace Path

/-- The segment with every encoded point decoded. -/
def plainPoints : List Char → List Char
  | '%' :: '2' :: 'e' :: rest => '.' :: plainPoints rest
  | '%' :: '2' :: 'E' :: rest => '.' :: plainPoints rest
  | c :: rest => c :: plainPoints rest
  | [] => []

/-- Does the segment stand for nothing? -/
def isSingleDot (segment : List Char) : Bool := plainPoints segment == ['.']

/-- Does the segment take away the one before it? -/
def isDoubleDot (segment : List Char) : Bool := plainPoints segment == ['.', '.']

/-- Is the text the letter of a drive, such as `C:`? -/
def isDrive (s : List Char) : Bool :=
  match s with
  | [c, d] => c.isAlpha && (d == ':' || d == '|')
  | _ => false

/-- The segments without the last one, which stands first; a drive stays. -/
def parent : List (List Char) → List (List Char)
  | [] => []
  | s :: above => if isDrive s then s :: above else above

/-- The segments that remain, given those that stand before, the last one first. -/
def resolve : List (List Char) → List (List Char) → List (List Char)
  | acc, [] => acc.reverse
  | acc, s :: rest =>
    if isDoubleDot s then
      if rest.isEmpty then ([] :: parent acc).reverse else resolve (parent acc) rest
    else if isSingleDot s then
      if rest.isEmpty then ([] :: acc).reverse else resolve acc rest
    else resolve (s :: acc) rest

/-- The segments between slashes; in a special URL a backslash is one. -/
def segments (special : Bool) (s : List Char) : List (List Char) :=
  Text.pieces '/' (if special then s.map fun c => if c = '\\' then '/' else c else s)

/-- The path whose text behind its first slash is given. -/
def normalize (special : Bool) (s : List Char) : List Char :=
  '/' :: Text.join '/' (resolve [] ((segments special s).map (Percent.encode isPathByte)))

end Path
end Strongbox.Url
