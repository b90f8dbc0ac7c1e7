/-
A backend that gives prepared answers, one after another.

When none is left it answers that it knows nothing.
-/
import Strongbox.Backend.Basic
namespace Strongbox

/-- The answers that are left; an answer may be a failure. -/
abbrev Script := List (Result Response)

namespace Script

/-- The answer of a server that knows nothing. -/
def nothing : Response := ⟨404, some (.object [("errors", .array [])]), none⟩

def next : Script → Result Response × Script
  | [] => (.ok nothing, [])
  | r :: rest => (r, rest)

/-- The backend of prepared answers. -/
def backend : Backend Script := ⟨fun _ s => s.next⟩

end Script
end Strongbox
