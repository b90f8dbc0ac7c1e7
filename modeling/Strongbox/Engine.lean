/-
Generations of the key/value engine, and the spellings they are configured by.

A spelling counts without white space around it and without regard to the case of its
letters: any number of `kv`, then dashes and underscores, then any number of `v`, then the
digit.
-/
import Strongbox.Text.Space
namespace Strongbox

/-- The generation of a key/value engine: the first keeps no versions, the second does. -/
inductive Engine where
  | unversioned
  | versioned
  deriving DecidableEq

namespace Engine

/-- The short name of a generation. -/
def name : Engine → String
  | .unversioned => "V1"
  | .versioned => "V2"

/-- The text behind as many `kv` as it starts with. -/
def skipKv : List Char → List Char
  | 'k' :: 'v' :: rest => skipKv rest
  | s => s

/-- What is left of a spelling when everything that says nothing is taken away. -/
def digitPart (s : List Char) : List Char :=
  ((skipKv (Text.toLowerAscii (Text.trim s))).dropWhile fun c => c == '-' || c == '_').dropWhile
    (· == 'v')

/-- The generation that a spelling means. -/
def parse? (s : String) : Option Engine :=
  match digitPart s.toList with
  | ['1'] => some .unversioned
  | ['2'] => some .versioned
  | _ => none

end Engine
end Strongbox
