/-
A server in memory: versioned secrets and encryption, without any protection.

Secrets lie under the two texts that a request's path has before and behind its first
`/data/`.  A write adds a version, and a version can be marked as deleted, after which a
read finds its metadata alone.  A ciphertext is the base64 of the key's name, a bar and the
plaintext.
-/
import Strongbox.Backend.Basic
import Strongbox.Base64
import Strongbox.Secret
namespace Strongbox.Memory

/-- A version of a secret. -/
structure Stored where
  data : Json
  deleted : Bool

/-- The versions of the secret under a mount and a key, the first one first. -/
structure Cell where
  mount : String
  key : String
  versions : List Stored

/-- The secrets in the order of their mounts and keys, and how many writes and requests
there were. -/
structure Store where
  cells : List Cell
  writes : Nat
  requests : Nat

def empty : Store := ⟨[], 0, 0⟩

/-- The versions of a secret, if there is any. -/
def Store.versions? (s : Store) (mount key : String) : Option (List Stored) :=
  (s.cells.find? fun c => c.mount == mount && c.key == key).map Cell.versions

/-- Does the first pair of texts come before the second? -/
def isBefore (mount key mount' key' : String) : Bool :=
  mount < mount' || (mount == mount' && key < key')

/-- The cells with one more version of a secret. -/
def push (mount key : String) (v : Stored) : List Cell → List Cell
  | [] => [⟨mount, key, [v]⟩]
  | c :: rest =>
    if c.mount = mount ∧ c.key = key then { c with versions := c.versions ++ [v] } :: rest
    else if isBefore mount key c.mount c.key then ⟨mount, key, [v]⟩ :: c :: rest
    else c :: push mount key v rest

/-- Adds a version that no request brought. -/
def seed (mount key : String) (data : Json) (s : Store) : Store :=
  { s with cells := push mount key ⟨data, false⟩ s.cells }

/-- Marks a version as deleted, counted from one, if it is there. -/
def deleteVersion (mount key : String) (version : Nat) (s : Store) : Store :=
  { s with
    cells := s.cells.map fun c =>
      if c.mount = mount ∧ c.key = key ∧ 0 < version then
        { c with versions := c.versions.modify (version - 1) fun v => { v with deleted := true } }
      else c }

/-- When every version was written. -/
def createdTime : String := "2024-01-01T00:00:00Z"

/-- When every deleted version was deleted. -/
def deletedTime : String := "2024-02-01T00:00:00Z"

def metadata (version : Nat) (deleted : Bool) : Json :=
  VersionMetadata.toJson ⟨version, createdTime, if deleted then deletedTime else "", false⟩

def success (body : Json) : Response := ⟨200, some body, none⟩

/-- An answer without success and with at most one error. -/
def failure (status : Nat) (errors : List String) : Response :=
  ⟨status, some (.object [("errors", .array (errors.map Json.string))]), none⟩

/-- An object of one member `data`. -/
def dataOf (v : Json) : Json := .object [("data", v)]

def write (mount key : String) (body : Option Json) (s : Store) : Response × Store :=
  match body.bind (Json.member? "data") with
  | none => (failure 400 ["no data provided"], s)
  | some data =>
    let cells := push mount key ⟨data, false⟩ s.cells
    let s := { s with cells, writes := s.writes + 1 }
    (success (dataOf (metadata ((s.versions? mount key).getD []).length false)), s)

/-- The version that a query asks for: a number of 64 bits, with or without a plus sign. -/
def requested? (query : List (String × String)) : Option Nat := do
  let (_, value) ← query.find? (·.1 == "version")
  let digits := match value.toList with | '+' :: rest => rest | s => s
  (Numeral.read? 10 digits).filter (· < UInt64.size)

def entry (data metadata : Json) : Json := .object [("data", data), ("metadata", metadata)]

def read (mount key : String) (query : List (String × String)) (s : Store) : Response :=
  match s.versions? mount key with
  | none => failure 404 []
  | some versions =>
    let n := (requested? query).getD versions.length
    match if n = 0 then none else versions[n - 1]? with
    | none => failure 404 []
    | some v =>
      if v.deleted then ⟨404, some (dataOf (entry .null (metadata n true))), none⟩
      else success (dataOf (entry v.data (metadata n false)))

/-- The name that a listing shows for a key: all of it, or its first directory. -/
def listedName (key : String) : String :=
  let dir := key.toList.takeWhile (· != '/')
  if dir.length < key.length then String.ofList (dir ++ ['/']) else key

/-- A name put among ordered names, unless it is there. -/
def insertName (name : String) : List String → List String
  | [] => [name]
  | n :: rest =>
    if name < n then name :: n :: rest
    else if name = n then n :: rest
    else n :: insertName name rest

def list (mount : String) (s : Store) : Response :=
  let names := (s.cells.filter (·.mount == mount)).map fun c => listedName c.key
  if names.isEmpty then failure 404 []
  else
    let sorted := names.foldl (fun acc n => insertName n acc) []
    success (dataOf (.object [("keys", .array (sorted.map Json.string))]))

/-- What every ciphertext starts with. -/
def ciphertextMark : String := "vault:v1:"

def encrypt (key : String) (body : Option Json) : Response :=
  match (body.bind (Json.member? "plaintext")).bind Json.text? with
  | none => failure 400 ["missing plaintext to encrypt"]
  | some plaintext =>
    match Base64.decode plaintext with
    | .error _ => failure 400 ["failed to base64-decode plaintext"]
    | .ok _ =>
      let sealed := Base64.encodeText (Utf8.ofString (key ++ "|" ++ plaintext))
      success (dataOf (.object
        [("ciphertext", .string (ciphertextMark ++ sealed)), ("key_version", .nat 1)]))

/-- The key's name and the plaintext of a ciphertext behind its mark. -/
def opened? (sealed : List Char) : Option (String × String) := do
  let bytes ← (Base64.decode (String.ofList sealed)).toOption
  let text ← Utf8.read? bytes
  let (key, plaintext) ← Text.splitOnce? ['|'] text
  some (String.ofList key, String.ofList plaintext)

def decrypt (key : String) (body : Option Json) : Response :=
  match (body.bind (Json.member? "ciphertext")).bind Json.text? with
  | none => failure 400 ["missing ciphertext to decrypt"]
  | some ciphertext =>
    match Text.after? ciphertextMark.toList ciphertext.toList with
    | none => failure 400 ["invalid ciphertext: no prefix"]
    | some sealed =>
      match opened? sealed with
      | some (k, plaintext) =>
        if k = key then success (dataOf (.object [("plaintext", .string plaintext)]))
        else failure 400 ["cipher: message authentication failed"]
      | none => failure 400 ["cipher: message authentication failed"]

def health : Json :=
  .object
    [("initialized", .bool true), ("sealed", .bool false), ("standby", .bool false),
     ("version", .string "1.15.2")]

/-- Where the path of a request leads. -/
inductive Route where
  | health
  | encrypt (key : String)
  | decrypt (key : String)
  | secret (mount key : String)
  | listing (mount : String)
  | nowhere
  deriving DecidableEq

/-- The route of a path: the first of the forms that fits. -/
def route (path : String) : Route :=
  let cs := path.toList
  if path = "sys/health" then .health
  else
    match Text.after? "transit/encrypt/".toList cs with
    | some key => .encrypt (String.ofList key)
    | none =>
      match Text.after? "transit/decrypt/".toList cs with
      | some key => .decrypt (String.ofList key)
      | none =>
        match Text.splitOnce? "/data/".toList cs with
        | some (mount, key) => .secret (String.ofList mount) (String.ofList key)
        | none =>
          match Text.before? "/metadata/".toList cs with
          | some mount => .listing (String.ofList mount)
          | none => .nowhere

/-- Answers a request. -/
def respond (q : Request) (s : Store) : Response × Store :=
  match route q.path with
  | .health => (success health, s)
  | .encrypt key => (encrypt key q.body, s)
  | .decrypt key => (decrypt key q.body, s)
  | .secret mount key =>
    if q.operation = .write then write mount key q.body s else (read mount key q.query s, s)
  | .listing mount => (list mount s, s)
  | .nowhere => (failure 404 [], s)

/-- The backend in memory. -/
def backend : Backend Store where
  answer q s :=
    let (r, s) := respond q { s with requests := s.requests + 1 }
    (.ok r, s)

end Strongbox.Memory
