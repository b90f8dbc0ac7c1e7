/-
Paths of requests, below the root of the server's interface.

`Endpoint.encodePath` keeps the segments of a path that are not empty and percent-encodes
each: the segments that its result names, taken apart at slashes and decoded, are those
segments again.
-/
import Strongbox.Percent
import Strongbox.Text.Pieces
namespace Strongbox.Endpoint

/-- The bytes of a segment that stand for themselves. -/
def isSegmentByte : UInt8 → Bool := Percent.allBut " \"<>\x60#?\x7b\x7d/%"

/-- One segment. -/
def encodeSegment (segment : List Char) : List Char := Percent.encode isSegmentByte segment

/-- The segments of a path that are not empty. -/
def segments (path : List Char) : List (List Char) :=
  (Text.pieces '/' path).filter fun segment => !segment.isEmpty

/-- The path with its segments encoded and no further slashes. -/
def encodePath (path : String) : String :=
  String.ofList (Text.join '/' ((segments path.toList).map encodeSegment))

def health : String := "sys/health"

/-- The current or a chosen version of a secret. -/
def secret (mount key : String) : String := encodePath mount ++ "/data/" ++ encodePath key

/-- The names below a path of a mount; the empty path is the root of the mount. -/
def listing (mount path : String) : String :=
  let path := encodePath path
  if path.isEmpty then encodePath mount ++ "/metadata/"
  else encodePath mount ++ "/metadata/" ++ path ++ "/"

def encrypt (mount key : String) : String := encodePath mount ++ "/encrypt/" ++ encodePath key

def decrypt (mount key : String) : String := encodePath mount ++ "/decrypt/" ++ encodePath key

end Strongbox.Endpoint
