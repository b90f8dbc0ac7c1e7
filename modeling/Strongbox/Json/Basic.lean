/-
JSON values.

An object holds its members in the order of their names, by code points, and no name twice:
`Members.insert` keeps that, and `Json.ofMembers` builds an object from members in any
order, the last one of a name counting.  A number is an integer of 64 bits, signed or not,
or else a finite binary floating point number; the two kinds are never equal.
-/
import Strongbox.Number.Binary64
namespace Strongbox

/-- A JSON value. -/
inductive Json where
  | null
  | bool (value : Bool)
  | integer (value : Int)
  | float (value : Binary64)
  | string (value : String)
  | array (items : List Json)
  | object (members : List (String × Json))
  deriving Inhabited

namespace Json

/-- The members with one more, in its place; a member of the same name gives way to it. -/
def insert (name : String) (value : Json) : List (String × Json) → List (String × Json)
  | [] => [(name, value)]
  | (n, v) :: rest =>
    if name < n then (name, value) :: (n, v) :: rest
    else if name = n then (name, value) :: rest
    else (n, v) :: insert name value rest

/-- The object with the members, of which the last one of a name counts. -/
def ofMembers (members : List (String × Json)) : Json :=
  .object (members.foldl (fun acc m => insert m.1 m.2 acc) [])

def lookup (name : String) : List (String × Json) → Option Json
  | [] => none
  | (n, v) :: rest => if n = name then some v else lookup name rest

/-- The member of a name, if the value is an object that has one. -/
def member? (name : String) : Json → Option Json
  | .object members => lookup name members
  | _ => none

/-- The text of a string value. -/
def text? : Json → Option String
  | .string s => some s
  | _ => none

def isNull : Json → Bool
  | .null => true
  | _ => false

/-- A string, or `null` for none. -/
def ofOption : Option String → Json
  | none => .null
  | some s => .string s

def nat (n : Nat) : Json := .integer n

end Json
end Strongbox
