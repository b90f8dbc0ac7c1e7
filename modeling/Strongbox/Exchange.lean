/-
Requests to a server and its responses.

A path is relative to the root of the server's interface and already encoded.  A response is
any answer, with any status; `Response.toError` is the error that an answer without success
means, and `Response.data` the `data` of a successful one.
-/
import Strongbox.Error
namespace Strongbox

/-- What a request does. -/
inductive Operation where
  | read
  | write
  | list
  deriving DecidableEq

def Operation.name : Operation → String
  | .read => "read"
  | .write => "write"
  | .list => "list"

/-- One request. -/
structure Request where
  operation : Operation
  path : String
  query : List (String × String)
  body : Option Json

namespace Request

def read (path : String) : Request := ⟨.read, path, [], none⟩

/-- A request to write a body. -/
def write (path : String) (body : Json) : Request := ⟨.write, path, [], some body⟩

def list (path : String) : Request := ⟨.list, path, [], none⟩

/-- The request with one more pair in its query. -/
def withQuery (r : Request) (name value : String) : Request :=
  { r with query := r.query ++ [(name, value)] }

end Request

/-- One answer. -/
structure Response where
  status : Nat
  body : Option Json
  requestId : Option String

/-- The body of an answer without success. -/
structure FailureBody where
  errors : List String

namespace FailureBody

/-- The record type as answers hold it. -/
def shape : Json.Shape FailureBody where
  name := "ErrorResponse"
  fields := [⟨"errors", fun v _ => (Json.asList Json.asText v).map FailureBody.mk, false⟩]
  blank := ⟨[]⟩

/-- The errors of a body; none if it does not hold any. -/
def errorsOf (body : Option Json) : List String :=
  match body.map shape.decode with
  | some (.ok b) => b.errors
  | _ => []

end FailureBody

namespace Response

/-- Is the status one of success? -/
def isSuccess (r : Response) : Bool := 200 ≤ r.status && r.status < 300

/-- Does the server know nothing at the path? -/
def isNotFound (r : Response) : Bool := r.status == 404

/-- The server's own errors, or its status if it gives none. -/
def failureMessage (r : Response) : String :=
  match FailureBody.errorsOf r.body with
  | [] => "HTTP error " ++ Numeral.decimal r.status
  | errors => String.intercalate "; " errors

/-- The error that an answer without success means. -/
def toError (r : Response) : Error := .http r.status r.failureMessage r.requestId

/-- The `data` of the body. -/
def data (r : Response) : Result Json :=
  match r.body with
  | some (.object members) =>
    match Json.lookup "data" members with
    | some v => if v.isNull then .error (.deserialize "response has no data field") else .ok v
    | none => .error (.deserialize "response has no data field")
  | some _ => .error (.deserialize "response body is not an object")
  | none => .error (.deserialize "empty response body")

/-- The `data` of the body, read as a type. -/
def dataAs {α : Type} (decode : Json → Except Json.DecodeFault α) (r : Response) : Result α := do
  let v ← r.data
  (decode v).mapError Error.ofDecode

end Response
end Strongbox
