/-
Operations on the secrets of one mount.

A read gives nothing where the server knows nothing (404) and where the version is gone, so
that its entry has no payload.  A payload is read as a type that the caller chooses; if it
has not that shape, the fault names the secret and the version.
-/
import Strongbox.Endpoint
import Strongbox.Plan
import Strongbox.Secret
import Strongbox.Version
namespace Strongbox

/-- The operations on one mount. -/
structure Handle where
  mount : String

namespace Handle

/-- The fault of a payload that has not the shape that was asked for. -/
def payloadFault (h : Handle) (key : String) (version : Nat) (f : Json.DecodeFault) : Error :=
  .deserialize
    ("secret " ++ h.mount ++ "/" ++ key ++ " version " ++ Numeral.decimal version ++ ": "
      ++ f.message)

/-- The payload of an entry, unless it has none. -/
def readEntry {α : Type} (h : Handle) (key : String) (decode : Json → Except Json.DecodeFault α)
    (e : Entry) : Result (Option (Versioned α)) :=
  match e.data with
  | none => .ok none
  | some .null => .ok none
  | some v =>
    match decode v with
    | .ok a => .ok (some ⟨a, e.metadata⟩)
    | .error f => .error (h.payloadFault key e.metadata.version f)

def finishGet {α : Type} (h : Handle) (key : String) (decode : Json → Except Json.DecodeFault α)
    (r : Response) : Result (Option (Versioned α)) :=
  if r.isNotFound then .ok none
  else if !r.isSuccess then .error r.toError
  else do
    let e ← r.dataAs Entry.decode
    h.readEntry key decode e

def getRequest (h : Handle) (key : String) (version : Version) : Request :=
  let q := Request.read (Endpoint.secret h.mount key)
  match version.number? with
  | some n => q.withQuery "version" (Numeral.decimal n)
  | none => q

/-- The path of a secret can be made only for a mount without dot segments. -/
def checkMount (h : Handle) : Except ArgumentFault Unit := Argument.checkSegments .mount h.mount

/-- Reads a version of a secret. -/
def get {α : Type} (h : Handle) (key : String) (version : Version)
    (decode : Json → Except Json.DecodeFault α) : Plan (Option (Versioned α)) :=
  Plan.ofArgument (Argument.require .secretKey key) fun key =>
    Plan.ofArgument h.checkMount fun _ =>
      .exchange (h.getRequest key version) (h.finishGet key decode)

def finishPut (r : Response) : Result VersionMetadata :=
  if !r.isSuccess then .error r.toError else r.dataAs VersionMetadata.decode

/-- Writes a payload as a new version of a secret. -/
def put (h : Handle) (key : String) (payload : Json) : Plan VersionMetadata :=
  Plan.ofArgument (Argument.require .secretKey key) fun key =>
    Plan.ofArgument h.checkMount fun _ =>
      .exchange (.write (Endpoint.secret h.mount key) (.object [("data", payload)])) finishPut

def finishList (r : Response) : Result (List String) :=
  if r.isNotFound then .ok []
  else if !r.isSuccess then .error r.toError
  else (r.dataAs KeyList.decode).map KeyList.keys

/-- Lists the names below a path; the empty path is the root of the mount. -/
def list (h : Handle) (path : String) : Plan (List String) :=
  Plan.ofArgument h.checkMount fun _ =>
    Plan.ofArgument (Argument.checkSegments .listPath path) fun _ =>
      .exchange (.list (Endpoint.listing h.mount path)) finishList

end Handle
end Strongbox
