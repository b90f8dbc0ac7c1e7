/-
URLs, as the URL Standard reads them.

`Url.parse` reads a text without a base: controls and blanks at its ends and tabs and line
breaks anywhere do not count.  The special schemes have an authority behind any number of
slashes and backslashes; other schemes have one behind two slashes, or only a path.
`Url.text` writes a URL.
-/
import Strongbox.Url.Host
import Strongbox.Url.Path
import Strongbox.Form
import Strongbox.Text.Space
namespace Strongbox

/-- A URL.  A path that does not start with a slash belongs to a URL without a host. -/
structure Url where
  scheme : String
  username : String
  password : Option String
  host : Option Host
  port : Option Nat
  path : List Char
  query : Option (List Char)
  fragment : Option (List Char)

namespace Url

/-! ### Schemes -/

/-- The port of a scheme that is not written. -/
def defaultPort (scheme : List Char) : Option Nat :=
  match String.ofList scheme with
  | "http" => some 80
  | "ws" => some 80
  | "https" => some 443
  | "wss" => some 443
  | "ftp" => some 21
  | _ => none

/-- Is the scheme special, `file` apart? -/
def isSpecial (scheme : List Char) : Bool := (defaultPort scheme).isSome

def fileScheme : List Char := "file".toList

/-- Is a character one that texts of URLs do not count at their ends? -/
def isPadding (c : Char) : Bool := c.toNat ≤ 0x20

/-- Is a character one that texts of URLs do not count at all? -/
def isSkipped (c : Char) : Bool := c == '\t' || c == '\n' || c == '\r'

/-- The characters of a text that count. -/
def clean (s : List Char) : List Char :=
  (Text.trimBoth isPadding s).filter fun c => !isSkipped c

/-- May the character stand in a scheme behind the first one? -/
def isSchemeChar (c : Char) : Bool := c.isAlphanum || c == '+' || c == '-' || c == '.'

/-- The scheme, in small letters, and what follows its colon. -/
def scheme? (s : List Char) : Option (List Char × List Char) :=
  match s with
  | c :: _ =>
    if c.isAlpha then
      match s.dropWhile isSchemeChar with
      | ':' :: rest => some (Text.toLowerAscii (s.takeWhile isSchemeChar), rest)
      | _ => none
    else none
  | [] => none

/-- Is the character a slash of a special URL? -/
def isSlash (c : Char) : Bool := c == '/' || c == '\\'

/-! ### Authority -/

/-- Does the character end an authority? -/
def endsAuthority (special : Bool) (c : Char) : Bool :=
  c == '/' || c == '?' || c == '#' || (special && c == '\\')

/-- The user information of an authority and the rest: they stand on the two sides of the
last at sign. -/
def splitUser? (authority : List Char) : Option (List Char × List Char) :=
  match authority.reverse.dropWhile (· != '@') with
  | _ :: before => some (before.reverse, (authority.reverse.takeWhile (· != '@')).reverse)
  | [] => none

/-- The bytes of user information that stand for themselves. -/
def isUserByte : UInt8 → Bool := Percent.allBut " \"<>\x60#?\x7b\x7d/:;=@[\\]^|"

/-- User information as a URL holds it. -/
def userText (s : List Char) : String := String.ofList (Percent.encode isUserByte s)

/-- The user name and the password of user information; an empty password is none. -/
def userParts (s : List Char) : String × Option String :=
  let name := userText (s.takeWhile (· != ':'))
  match s.dropWhile (· != ':') with
  | _ :: c :: rest => (name, some (userText (c :: rest)))
  | _ => (name, none)

/-- The host part of the text behind the user information, and what follows it.  A colon between
brackets belongs to the host. -/
def hostSpan (special : Bool) : (bracket : Bool) → List Char → List Char × List Char
  | _, [] => ([], [])
  | bracket, c :: s =>
    if (c == ':' && !bracket) || endsAuthority special c then ([], c :: s)
    else
      let bracket := if c = '[' then true else if c = ']' then false else bracket
      let (host, rest) := hostSpan special bracket s
      (c :: host, rest)

/-- The port that digits stand for; the scheme's own port is none. -/
def portOf (scheme ds : List Char) : Except Fault (Option Nat) :=
  match Numeral.read? 10 ds with
  | none => .ok none
  | some n =>
    if 65535 < n then .error .invalidPort
    else .ok (if defaultPort scheme = some n then none else some n)

/-- The port at the start of the text and what follows it. -/
def readPort (scheme s : List Char) : Except Fault (Option Nat × List Char) := do
  let p ← portOf scheme (s.takeWhile Char.isDigit)
  match s.dropWhile Char.isDigit with
  | [] => .ok (p, [])
  | c :: rest => if endsAuthority true c then .ok (p, c :: rest) else .error .invalidPort

/-- The parts of a URL before its path. -/
structure Authority where
  username : String
  password : Option String
  host : Host
  port : Option Nat

/-- The host and the port behind the user information. -/
def hostAndPort (scheme : List Char) (user : String × Option String) (s : List Char) :
    Except Fault (Authority × List Char) := do
  let special := isSpecial scheme
  let (h, rest) := hostSpan special false s
  if special && h.isEmpty then .error .emptyHost
  else
    let host ← if special then Host.parse h else Host.parseOpaque h
    match rest with
    | ':' :: digits =>
      if host.isEmpty then .error .emptyHost
      else
        let (p, rest) ← readPort scheme digits
        .ok (⟨user.1, user.2, host, p⟩, rest)
    | rest => .ok (⟨user.1, user.2, host, none⟩, rest)

/-- An authority and what follows it. -/
def authority (scheme : List Char) (s : List Char) : Except Fault (Authority × List Char) := do
  let special := isSpecial scheme
  let text := s.takeWhile fun c => !endsAuthority special c
  let rest := s.dropWhile fun c => !endsAuthority special c
  match splitUser? text with
  | none => hostAndPort scheme ("", none) s
  | some (info, h) =>
    if info.isEmpty then
      if h.isEmpty && !rest.isEmpty then .error .emptyHost
      else hostAndPort scheme ("", none) (h ++ rest)
    else
      let user := userParts info
      let (a, rest) ← hostAndPort scheme user (h ++ rest)
      if a.host.isEmpty && (!user.1.isEmpty || user.2.isSome) then .error .emptyHost
      else .ok (a, rest)

/-! ### Path, query and fragment -/

/-- Does the character end a path? -/
def endsPath (c : Char) : Bool := c == '?' || c == '#'

/-- The query and the fragment behind a path. -/
def tailParts (special : Bool) (s : List Char) : Option (List Char) × Option (List Char) :=
  let keep := if special then isQueryByte else isOpaqueQueryByte
  match s with
  | '?' :: rest =>
    let q := Percent.encode keep (rest.takeWhile (· != '#'))
    match rest.dropWhile (· != '#') with
    | _ :: f => (some q, some (Percent.encode isFragmentByte f))
    | [] => (some q, none)
  | '#' :: f => (none, some (Percent.encode isFragmentByte f))
  | _ => (none, none)

/-- The path of a URL with an authority, from the text behind that. -/
def pathAfterHost (special : Bool) (s : List Char) : List Char :=
  match s with
  | [] => if special then ['/'] else []
  | c :: rest =>
    if c = '/' ∨ (special ∧ c = '\\') then Path.normalize special rest else Path.normalize special s

/-- The URL of an authority and the text behind it. -/
def withAuthority (scheme : List Char) (a : Authority) (s : List Char) : Url :=
  let special := isSpecial scheme
  let (query, fragment) := tailParts special (s.dropWhile fun c => !endsPath c)
  { scheme := String.ofList scheme
    username := a.username
    password := a.password
    host := some a.host
    port := a.port
    path := pathAfterHost special (s.takeWhile fun c => !endsPath c)
    query, fragment }

/-- The URL of a path alone. -/
def withoutAuthority (scheme : List Char) (s : List Char) : Url :=
  let (query, fragment) := tailParts false (s.dropWhile fun c => !endsPath c)
  { scheme := String.ofList scheme
    username := ""
    password := none
    host := none
    port := none
    path :=
      match s.takeWhile fun c => !endsPath c with
      | '/' :: rest => Path.normalize false rest
      | opaquePath => Percent.encode Host.isKept opaquePath
    query, fragment }

/-! ### Files -/

/-- The host of a file; none if it is the machine itself. -/
def fileHost (s : List Char) : Except Fault (Option Host) :=
  if s.isEmpty then .ok none
  else
    match Host.parse s with
    | .ok h => .ok (if h = .domain "localhost" then none else some h)
    | .error f => .error f

/-- The URL of a file, from the text behind the scheme. -/
def file (s : List Char) : Except Fault Url := do
  let (host, rest) ←
    match s with
    | c :: d :: rest =>
      if isSlash c && isSlash d then
        let h := rest.takeWhile fun c => !endsAuthority true c
        if Path.isDrive h then pure (none, rest)
        else
          let host ← fileHost h
          pure (host, rest.dropWhile fun c => !endsAuthority true c)
      else pure (none, s)
    | s => pure (none, s)
  let path := rest.takeWhile fun c => !endsPath c
  let (query, fragment) := tailParts true (rest.dropWhile fun c => !endsPath c)
  .ok
    { scheme := String.ofList fileScheme
      username := ""
      password := none
      host := some (host.getD (.domain ""))
      port := none
      path := if path.isEmpty then ['/'] else pathAfterHost true path
      query, fragment }

/-! ### URLs -/

/-- The URL that a text stands for. -/
def parse (s : List Char) : Except Fault Url :=
  match scheme? (clean s) with
  | none => .error .relativeWithoutBase
  | some (scheme, rest) =>
    if scheme = fileScheme then file rest
    else if isSpecial scheme then do
      let (a, rest) ← authority scheme (rest.dropWhile isSlash)
      .ok (withAuthority scheme a rest)
    else
      match rest with
      | '/' :: '/' :: rest => do
        let (a, rest) ← authority scheme rest
        .ok (withAuthority scheme a rest)
      | rest => .ok (withoutAuthority scheme rest)

/-- Does the URL name a user or a password? -/
def hasCredentials (u : Url) : Bool := !u.username.isEmpty || u.password.isSome

/-- The user information with its at sign. -/
def credentialText (u : Url) : List Char :=
  if u.hasCredentials then
    u.username.toList ++ (match u.password with | some p => ':' :: p.toList | none => []) ++ ['@']
  else []

/-- What stands between scheme and path. -/
def originText (u : Url) : List Char :=
  match u.host with
  | none => []
  | some h =>
    '/' :: '/' :: u.credentialText ++ h.text
      ++ (match u.port with | some p => ':' :: (Numeral.decimal p).toList | none => [])

/-- A part of a URL behind its mark. -/
def marked (mark : Char) : Option (List Char) → List Char
  | some s => mark :: s
  | none => []

/-- The path and the query, as a request asks for them. -/
def target (u : Url) : List Char := u.path ++ marked '?' u.query

def text (u : Url) : List Char :=
  u.scheme.toList ++ ':' :: u.originText ++ u.target ++ marked '#' u.fragment

/-- The URL with pairs put behind its query. -/
def withPairs (u : Url) (pairs : List (String × String)) : Url :=
  if pairs.isEmpty then u
  else
    let more := Form.encode pairs
    match u.query with
    | none => { u with query := some more }
    | some [] => { u with query := some more }
    | some q => { u with query := some (q ++ '&' :: more) }

end Url
end Strongbox
