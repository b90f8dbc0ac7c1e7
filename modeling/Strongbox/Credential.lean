/-
Credentials: the token that every request carries, and the header it stands in.

A token is fixed, or comes from a source that is asked before each request.  A rotating
source hands out its tokens one after another and keeps the last one; where it has none to
give, asking fails. What is left of a source is a state of its own (`Supply`), which all
copies of a credential share.
-/
import Strongbox.Error
namespace Strongbox

/-- Where tokens come from. -/
inductive TokenSource where
  | fixed (token : String)
  | rotating (tokens : List (Option String))
  deriving DecidableEq

/-- How requests show who sends them. -/
inductive Credential where
  | token (token : String)
  | bearer (token : String)
  | source (source : TokenSource)
  deriving DecidableEq

/-- The tokens that a rotating source has not handed out yet; `none` is a failure to get one. -/
abbrev Supply := List (Option String)

namespace Supply

/-- The next token and what is left.  The last entry stays. -/
def next : Supply → Option String × Supply
  | [] => (none, [])
  | [t] => (t, [t])
  | t :: rest => (t, rest)

end Supply

namespace Credential

/-- The credential as it is shown, without its token. -/
def display : Credential → String
  | .token _ => "Auth::Token(****)"
  | .bearer _ => "Auth::Bearer(****)"
  | .source _ => "Auth::TokenProvider(****)"

/-- A source of a fixed token as it is shown. -/
def fixedSourceDisplay : String := "StaticTokenProvider(****)"

def tokenHeader : String := "X-Vault-Token"

def bearerHeader : String := "Authorization"

/-- The tokens that a fresh credential may hand out. -/
def supply : Credential → Supply
  | .source (.rotating tokens) => tokens
  | _ => []

/-- The fault of a source that has no token to give. -/
def noToken : Error := .config "Failed to get auth header: no token available"

/-- The header with the current token, and what is left of the supply. -/
def header (c : Credential) (s : Supply) : Result (String × String) × Supply :=
  match c with
  | .token t => (.ok (tokenHeader, t), s)
  | .bearer t => (.ok (bearerHeader, "Bearer " ++ t), s)
  | .source (.fixed t) => (.ok (tokenHeader, t), s)
  | .source (.rotating _) =>
    match s.next with
    | (some t, rest) => (.ok (tokenHeader, t), rest)
    | (none, rest) => (.error noToken, rest)

end Credential
end Strongbox
