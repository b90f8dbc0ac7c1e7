/-
The handles of mounts, one for each mount that has been asked for.

A handle holds nothing but its mount, so the cache is the list of the mounts in the order of
their first use; the place in it is what tells two handles apart.  Beside it stands how
often a lookup found a handle (`hits`).
-/
import Strongbox.Text.Quoted
namespace Strongbox

/-- The mounts that have a handle, the first one first, and the number of lookups that found
one. -/
structure HandleCache where
  mounts : List String
  hits : Nat
  deriving DecidableEq

namespace HandleCache

def empty : HandleCache := ⟨[], 0⟩

/-- The number of handles made. -/
def created (c : HandleCache) : Nat := c.mounts.length

/-- Is there a handle for the mount? -/
def contains (c : HandleCache) (mount : String) : Bool := c.mounts.contains mount

/-- The place of the handle of a mount, which is made if it is not there, and the cache
afterwards. -/
def getOrCreate (c : HandleCache) (mount : String) : Nat × HandleCache :=
  match c.mounts.idxOf? mount with
  | some i => (i, { c with hits := c.hits + 1 })
  | none => (c.mounts.length, { c with mounts := c.mounts ++ [mount] })

/-- The cache after a lookup. -/
def touch (c : HandleCache) (mount : String) : HandleCache := (c.getOrCreate mount).2

/-- The cache as it is shown. -/
def display (c : HandleCache) : String :=
  "HandleCache \x7b created: " ++ Numeral.decimal c.created ++ ", hits: " ++ Numeral.decimal c.hits
    ++ " \x7d"

end HandleCache
end Strongbox
