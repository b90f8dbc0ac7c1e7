/-
Versions of a secret, as a caller chooses them: the latest one, or one by its number.

Version numbers are positive and fit 32 bits, which the type `VersionNumber` carries.
-/
import Strongbox.Error
namespace Strongbox

/-- A positive number of 32 bits. -/
structure VersionNumber where
  value : Nat
  positive : 0 < value
  bounded : value < UInt32.size
  deriving DecidableEq

/-- The version that a read asks for. -/
inductive Version where
  | latest
  | specific (number : VersionNumber)
  deriving DecidableEq

namespace Version

/-- The version of a number; zero is none. -/
def ofNumber (n : UInt32) : Except ArgumentFault Version :=
  if h : 0 < n.toNat then .ok (.specific ⟨n.toNat, h, n.toNat_lt_size⟩) else .error .versionZero

/-- The number of a version that is not the latest. -/
def number? : Version → Option Nat
  | .latest => none
  | .specific n => some n.value

end Version
end Strongbox
