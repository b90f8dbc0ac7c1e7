/-
Arguments that name a place: mounts, keys and list paths.

Slashes at the ends of an argument do not count.  What remains must not be blank, must not
start or end with white space, and must have no segment `.` or `..`; it is then used as it
stands, never changed into another.  `Argument.require` returns it, `Argument.checkSegments`
checks the last rule alone.
-/
import Strongbox.Text.Space
namespace Strongbox

/-- What an argument names. -/
inductive ArgumentName where
  | mount
  | secretKey
  | transitKey
  | listPath
  | transitMount
  deriving DecidableEq

def ArgumentName.label : ArgumentName → String
  | .mount => "Vault K/V path"
  | .secretKey => "Secret key"
  | .transitKey => "Transit key"
  | .listPath => "List path"
  | .transitMount => "Transit mount"

/-- Why an argument is refused. -/
inductive ArgumentFault where
  | missing (name : ArgumentName)
  | surroundingSpace (name : ArgumentName)
  | dotSegment (name : ArgumentName)
  | versionZero
  deriving DecidableEq

def ArgumentFault.message : ArgumentFault → String
  | .missing name => name.label ++ " must be specified"
  | .surroundingSpace name => name.label ++ " must not start or end with whitespace"
  | .dotSegment name => name.label ++ " must not contain '.' or '..' segments"
  | .versionZero => "secret version must be a positive number"

namespace Argument

def segments (path : List Char) : List (List Char) := Text.pieces '/' path

/-- Is the segment `.` or `..`? -/
def isDotSegment (segment : List Char) : Bool := segment == ['.'] || segment == ['.', '.']

/-- Does the path have a segment `.` or `..`? -/
def hasDotSegment (path : List Char) : Bool := (segments path).any isDotSegment

/-- Refuses a path with a segment `.` or `..`. -/
def checkSegments (name : ArgumentName) (path : String) : Except ArgumentFault Unit :=
  if hasDotSegment path.toList then .error (.dotSegment name) else .ok ()

/-- The argument without slashes at its ends, if it is accepted. -/
def require (name : ArgumentName) (value : String) : Except ArgumentFault String :=
  let path := Text.trimSlashes value.toList
  if (Text.trimSlashes (Text.trim path)).isEmpty then .error (.missing name)
  else if Text.trim path ≠ path then .error (.surroundingSpace name)
  else if hasDotSegment path then .error (.dotSegment name)
  else .ok (String.ofList path)

end Argument
end Strongbox
