/-
What an operation of the client does, as a value.

An operation first looks at its arguments.  Either its result is settled by them, or it
makes exactly one exchange with the server, and its result is a function of the response
(`Plan`).  Before that it may look up the handle of a mount (`Call.mount`).  Nothing else
happens in an operation: what it sends and how it reads the answer can be told without
running it.
-/
import Strongbox.Exchange
namespace Strongbox

/-- What is left to do when the arguments have been looked at. -/
inductive Plan (α : Type) where
  | settled (result : Result α)
  | exchange (request : Request) (finish : Response → Result α)

namespace Plan

/-- The same exchange with its result turned into another. -/
def map {α β : Type} (f : α → β) : Plan α → Plan β
  | .settled r => .settled (r.map f)
  | .exchange q finish => .exchange q fun r => (finish r).map f

/-- The request, if there is one. -/
def request? {α : Type} : Plan α → Option Request
  | .settled _ => none
  | .exchange q _ => some q

/-- A plan that depends on an argument, which is refused or not. -/
def ofArgument {α β : Type} (a : Except ArgumentFault β) (f : β → Plan α) : Plan α :=
  match a with
  | .ok b => f b
  | .error fault => .settled (.error (Error.ofArgument fault))

end Plan

/-- An operation: the mount whose handle it looks up, if it does, and then its plan. -/
structure Call (α : Type) where
  mount : Option String
  plan : Plan α

namespace Call

/-- An operation that needs no handle. -/
def direct {α : Type} (plan : Plan α) : Call α := ⟨none, plan⟩

/-- An operation whose result its arguments settle. -/
def settled {α : Type} (r : Result α) : Call α := .direct (.settled r)

/-- The same operation with its result turned into another. -/
def map {α β : Type} (f : α → β) (c : Call α) : Call β := ⟨c.mount, c.plan.map f⟩

/-- An operation that depends on an argument, which is refused or not. -/
def ofArgument {α β : Type} (a : Except ArgumentFault β) (f : β → Call α) : Call α :=
  match a with
  | .ok b => f b
  | .error fault => .settled (.error (Error.ofArgument fault))

end Call
end Strongbox
