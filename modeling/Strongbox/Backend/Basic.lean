/-
What stands behind the client, and the running of operations on it.

A backend answers a request, or fails to, and its state changes.  A session is such a state
with the cache of handles; every copy of a client works on the same session.
-/
import Strongbox.HandleCache
import Strongbox.Plan
namespace Strongbox

/-- Something that answers requests, with states of type `σ`. -/
structure Backend (σ : Type) where
  answer : Request → σ → Result Response × σ

/-- What all copies of a client share. -/
structure Session (σ : Type) where
  handles : HandleCache
  state : σ

/-- A session that has not been used. -/
def Session.fresh {σ : Type} (state : σ) : Session σ := ⟨.empty, state⟩

/-- Carries out a plan. -/
def Plan.run {σ α : Type} (b : Backend σ) (p : Plan α) (s : σ) : Result α × σ :=
  match p with
  | .settled r => (r, s)
  | .exchange q finish =>
    let (answer, s) := b.answer q s
    (answer.bind finish, s)

/-- Carries out an operation. -/
def Call.run {σ α : Type} (b : Backend σ) (c : Call α) (s : Session σ) : Result α × Session σ :=
  let handles := match c.mount with
    | some m => s.handles.touch m
    | none => s.handles
  let (r, state) := c.plan.run b s.state
  (r, ⟨handles, state⟩)

end Strongbox
