/-
The operations of a service, as data.

`Secrets.Action` are the operations on secrets and `Service.Action` all operations of a
service, each with its arguments.  `Service.act` carries one out on a session of any backend;
a history of them is what clients ask of one server over time.  All copies of a client work
on the same session, so a history does not say which copy asked.

* `onKey_rejected`, `onKey_accepted` — the two ways that an operation on a key can go;
* `Handle.put_eq`, `Handle.get_eq`, `Handle.list_eq` — an operation on accepted names is one
  exchange: the second look that a handle takes at them refuses nothing.
-/
import Strongbox.Service
import Strongbox.Proofs.History
import Strongbox.Proofs.Paths

namespace Strongbox

/-- The operations on secrets; the index is what an operation returns. -/
inductive Secrets.Action : Type → Type where
  | write (mount key value : String) : Action VersionMetadata
  | read (mount key : String) : Action (Option String)
  | readVersion (mount key : String) (version : Version) : Action (Option String)
  | readVersioned (mount key : String) (version : Version) : Action (Option (Versioned String))
  | writeMap (mount key : String) (map : StringMap) : Action (Option VersionMetadata)
  | readMap (mount key : String) : Action StringMap
  | readMapVersion (mount key : String) (version : Version) : Action StringMap
  | list (mount : String) : Action (List String)

/-- The operations of a service; the index is what an operation returns. -/
inductive Service.Action : Type → Type 1 where
  | health : Action Health
  | serverVersion : Action String
  | encrypt (key : String) (plaintext : List UInt8) : Action String
  | decrypt (key ciphertext : String) : Action (List UInt8)
  | secret {α : Type} (action : Secrets.Action α) : Action α

/-- The call that an operation on secrets is. -/
def Secrets.Action.call {α : Type} : Secrets.Action α → Call α
  | .write mount key value => Service.writeSecret mount key value
  | .read mount key => Service.readSecret mount key
  | .readVersion mount key version => Service.readSecretVersion mount key version
  | .readVersioned mount key version => Service.readVersionedSecret mount key version
  | .writeMap mount key map => Service.writeSecretMap mount key map
  | .readMap mount key => Service.readSecretMap mount key
  | .readMapVersion mount key version => Service.readSecretMapVersion mount key version
  | .list mount => Service.listSecrets mount

/-- The mount that an operation on secrets is given. -/
def Secrets.Action.mount {α : Type} : Secrets.Action α → String
  | .write mount _ _ => mount
  | .read mount _ => mount
  | .readVersion mount _ _ => mount
  | .readVersioned mount _ _ => mount
  | .writeMap mount _ _ => mount
  | .readMap mount _ => mount
  | .readMapVersion mount _ _ => mount
  | .list mount => mount

/-- The call that an operation of a service is. -/
def Service.Action.call {α : Type} (s : Service) : Service.Action α → Call α
  | .health => Service.health
  | .serverVersion => Service.serverVersion
  | .encrypt key plaintext => s.encrypt key plaintext
  | .decrypt key ciphertext => s.decrypt key ciphertext
  | .secret action => action.call

/-- Carries out an operation. -/
def Service.act {σ α : Type} (s : Service) (b : Backend σ) (a : Service.Action α)
    (session : Session σ) : Result α × Session σ :=
  (a.call s).run b session

/-! ### Accepted and rejected names -/

namespace Secrets

variable {α : Type}

/-- An operation on a key is settled if one of its names is rejected. -/
theorem onKey_rejected {mount key : String} {fault : ArgumentFault}
    (h : Argument.require .mount mount = .error fault ∨
      ((∃ m, Argument.require .mount mount = .ok m) ∧
        Argument.require .secretKey key = .error fault))
    (f : Handle → String → Call α) :
    onKey mount key f = Call.settled (.error (Error.ofArgument fault)) := by
  rcases h with hm | ⟨⟨m, hm⟩, hk⟩
  · rw [onKey, hm, Call.ofArgument]
  · rw [onKey, hm, Call.ofArgument, hk, Call.ofArgument]

/-- An operation on accepted names goes on with what is left of them. -/
theorem onKey_accepted {mount key m k : String} (hm : Argument.require .mount mount = .ok m)
    (hk : Argument.require .secretKey key = .ok k) (f : Handle → String → Call α) :
    onKey mount key f = f ⟨m⟩ k := by
  rw [onKey, hm, Call.ofArgument, hk, Call.ofArgument]

end Secrets

namespace Handle

open Argument in
theorem checkMount_eq {h : Handle} (hm : Accepted h.mount) : h.checkMount = .ok () := by
  rw [checkMount, checkSegments, hm.not_dot, if_neg Bool.false_ne_true]

variable {n : ArgumentName} {h : Handle} {v key : String}

theorem put_eq (hm : Argument.Accepted h.mount) (hk : Argument.require n v = .ok key)
    (payload : Json) :
    h.put key payload =
      .exchange (.write (Endpoint.secret h.mount key) (.object [("data", payload)])) finishPut := by
  rw [put, Argument.require_of_require hk, Plan.ofArgument, checkMount_eq hm, Plan.ofArgument]

theorem get_eq {α : Type} (hm : Argument.Accepted h.mount) (hk : Argument.require n v = .ok key)
    (version : Version) (decode : Json → Except Json.DecodeFault α) :
    h.get key version decode =
      .exchange (h.getRequest key version) (h.finishGet key decode) := by
  rw [get, Argument.require_of_require hk, Plan.ofArgument, checkMount_eq hm, Plan.ofArgument]

theorem list_eq (hm : Argument.Accepted h.mount) :
    h.list "" = .exchange (.list (Endpoint.listing h.mount "")) finishList := by
  rw [list, checkMount_eq hm, Plan.ofArgument]
  rfl

end Handle
end Strongbox
