/-
Validation comes before everything else, and after it there is one exchange.

An operation is given names of places (`names`).  If one of them is rejected, the operation is
settled by its fault; if they are accepted, a write of an empty map is settled as well
(`IsEmptyWrite`), and every other operation makes one exchange with the backend.

* `call_rejected`, `call_emptyWrite`, `isExchange_call` — the three ways that an operation goes;
* `act_validated` — so an operation either touches nothing at all, or asks the backend once and
  makes its result of that one answer.
-/
import Strongbox.Proofs.Requests

namespace Strongbox

/-! ### Operations that make an exchange -/

/-- Is something left to be asked when the arguments have been looked at? -/
def Call.IsExchange {α : Type} (c : Call α) : Prop := ∃ q finish, c.plan = .exchange q finish

theorem Call.IsExchange.map {α β : Type} {c : Call α} (h : c.IsExchange) (f : α → β) :
    (c.map f).IsExchange := by
  obtain ⟨q, finish, hplan⟩ := h
  exact ⟨q, fun r => (finish r).map f, by rw [Call.plan_map, hplan, Plan.map]⟩

theorem Call.IsExchange.exists_request {α : Type} {c : Call α} (h : c.IsExchange) :
    ∃ q, c.plan.request? = some q := by
  obtain ⟨q, finish, hplan⟩ := h
  exact ⟨q, by rw [hplan, Plan.request?]⟩

theorem Call.isExchange_ofArgument {α β : Type} {a : Except ArgumentFault β} {f : β → Call α}
    (ha : ∃ v, a = .ok v) (hf : ∀ v, a = .ok v → (f v).IsExchange) :
    (Call.ofArgument a f).IsExchange := by
  obtain ⟨v, rfl⟩ := ha
  exact hf v rfl

theorem Call.map_settled_error {α β : Type} (f : α → β) (e : Error) :
    (Call.settled (.error e)).map f = Call.settled (.error e) := rfl

/-! ### The names that an operation is given -/

namespace Secrets

/-- The names of an operation on a key, in the order in which they are looked at. -/
def keyNames (mount key : String) : List (ArgumentName × String) :=
  [(.mount, mount), (.secretKey, key)]

/-- The names that an operation on secrets is given. -/
def Action.names {α : Type} : Secrets.Action α → List (ArgumentName × String)
  | .write mount key _ => keyNames mount key
  | .read mount key => keyNames mount key
  | .readVersion mount key _ => keyNames mount key
  | .readVersioned mount key _ => keyNames mount key
  | .writeMap mount key _ => keyNames mount key
  | .readMap mount key => keyNames mount key
  | .readMapVersion mount key _ => keyNames mount key
  | .list mount => [(.mount, mount)]

end Secrets

namespace Service.Action

/-- The names that an operation of a service is given. -/
def names {α : Type} : Service.Action α → List (ArgumentName × String)
  | .health => []
  | .serverVersion => []
  | .encrypt key _ => [(.transitKey, key)]
  | .decrypt key _ => [(.transitKey, key)]
  | .secret action => action.names

/-- Is the operation a write of a map without members? -/
def IsEmptyWrite {α : Type} : Service.Action α → Prop
  | .secret (.writeMap _ _ map) => map = []
  | _ => False

end Service.Action

namespace Argument

/-- Is one of the names rejected, and for this fault? -/
def RejectedFor (names : List (ArgumentName × String)) (fault : ArgumentFault) : Prop :=
  ∃ n ∈ names, require n.1 n.2 = .error fault

/-- Are all names accepted? -/
def AllAccepted (names : List (ArgumentName × String)) : Prop :=
  ∀ n ∈ names, ∃ v, require n.1 n.2 = .ok v

/-- Names are accepted, or one of them is rejected. -/
theorem allAccepted_or_rejectedFor (names : List (ArgumentName × String)) :
    AllAccepted names ∨ ∃ fault, RejectedFor names fault := by
  by_cases h : ∃ fault, RejectedFor names fault
  · exact Or.inr h
  · refine Or.inl fun n hn => ?_
    cases hrequire : require n.1 n.2 with
    | error fault => exact absurd ⟨fault, n, hn, hrequire⟩ h
    | ok v => exact ⟨v, rfl⟩

theorem rejectedFor_singleton {n : ArgumentName} {v : String} {fault : ArgumentFault} :
    RejectedFor [(n, v)] fault ↔ require n v = .error fault := by
  simp [RejectedFor]

theorem allAccepted_singleton {n : ArgumentName} {v : String} :
    AllAccepted [(n, v)] ↔ ∃ t, require n v = .ok t := by
  simp [AllAccepted]

theorem allAccepted_keyNames {mount key : String} :
    AllAccepted (Secrets.keyNames mount key) ↔
      (∃ m, require .mount mount = .ok m) ∧ ∃ k, require .secretKey key = .ok k := by
  simp [AllAccepted, Secrets.keyNames]

end Argument

/-! ### Rejected names -/

open Argument (RejectedFor AllAccepted)

namespace Secrets

/-- A rejected name settles an operation on a key, whatever the operation does. -/
theorem onKey_of_rejectedFor {mount key : String}
    (h : ∃ fault, RejectedFor (keyNames mount key) fault) :
    ∃ fault, RejectedFor (keyNames mount key) fault ∧
      ∀ {α : Type} (f : Handle → String → Call α),
        onKey mount key f = Call.settled (.error (Error.ofArgument fault)) := by
  cases hm : Argument.require .mount mount with
  | error fault =>
    exact ⟨fault, ⟨_, List.mem_cons_self, hm⟩, fun f => onKey_rejected (Or.inl hm) f⟩
  | ok m =>
    -- the mount is accepted, so it is the key that is not
    obtain ⟨fault, n, hn, hreject⟩ := h
    simp only [keyNames, List.mem_cons, List.not_mem_nil, or_false] at hn
    rcases hn with rfl | rfl
    · rw [hm] at hreject
      exact absurd hreject (by simp)
    · exact ⟨fault, ⟨_, List.mem_cons_of_mem _ List.mem_cons_self, hreject⟩,
        fun f => onKey_rejected (Or.inr ⟨⟨m, hm⟩, hreject⟩) f⟩

theorem Action.call_rejected {α : Type} (a : Secrets.Action α)
    (h : ∃ fault, RejectedFor a.names fault) :
    ∃ fault, RejectedFor a.names fault ∧
      a.call = Call.settled (.error (Error.ofArgument fault)) := by
  cases a with
  | write mount key value =>
    obtain ⟨fault, hfault, hcall⟩ := onKey_of_rejectedFor h
    exact ⟨fault, hfault, by rw [call, Service.writeSecret, writeScalar, hcall]⟩
  | read mount key =>
    obtain ⟨fault, hfault, hcall⟩ := onKey_of_rejectedFor h
    refine ⟨fault, hfault, ?_⟩
    rw [call, Service.readSecret, Service.readSecretVersion, readScalar, readScalarVersioned, hcall,
      Call.map_settled_error]
  | readVersion mount key version =>
    obtain ⟨fault, hfault, hcall⟩ := onKey_of_rejectedFor h
    refine ⟨fault, hfault, ?_⟩
    rw [call, Service.readSecretVersion, readScalar, readScalarVersioned, hcall,
      Call.map_settled_error]
  | readVersioned mount key version =>
    obtain ⟨fault, hfault, hcall⟩ := onKey_of_rejectedFor h
    exact ⟨fault, hfault, by rw [call, Service.readVersionedSecret, readScalarVersioned, hcall]⟩
  | writeMap mount key map =>
    obtain ⟨fault, hfault, hcall⟩ := onKey_of_rejectedFor h
    exact ⟨fault, hfault, by rw [call, Service.writeSecretMap, Secrets.writeMap, hcall]⟩
  | readMap mount key =>
    obtain ⟨fault, hfault, hcall⟩ := onKey_of_rejectedFor h
    refine ⟨fault, hfault, ?_⟩
    rw [call, Service.readSecretMap, Service.readSecretMapVersion, Secrets.readMap, hcall]
  | readMapVersion mount key version =>
    obtain ⟨fault, hfault, hcall⟩ := onKey_of_rejectedFor h
    exact ⟨fault, hfault, by rw [call, Service.readSecretMapVersion, Secrets.readMap, hcall]⟩
  | list mount =>
    obtain ⟨fault, hfault⟩ := h
    refine ⟨fault, hfault, ?_⟩
    rw [call, Service.listSecrets, Secrets.list, Argument.rejectedFor_singleton.1 hfault,
      Call.ofArgument]

end Secrets

namespace Service.Action

/-- A rejected name settles the operation: its fault is the result. -/
theorem call_rejected {α : Type} (s : Service) (a : Service.Action α)
    (h : ∃ fault, RejectedFor a.names fault) :
    ∃ fault, RejectedFor a.names fault ∧
      a.call s = Call.settled (.error (Error.ofArgument fault)) := by
  cases a with
  | health => exact absurd h (by simp [RejectedFor, names])
  | serverVersion => exact absurd h (by simp [RejectedFor, names])
  | encrypt key plaintext =>
    obtain ⟨fault, hfault⟩ := h
    refine ⟨fault, hfault, ?_⟩
    rw [call, Service.encrypt, Transit.encrypt, Argument.rejectedFor_singleton.1 hfault,
      Plan.ofArgument, Call.settled]
  | decrypt key ciphertext =>
    obtain ⟨fault, hfault⟩ := h
    refine ⟨fault, hfault, ?_⟩
    rw [call, Service.decrypt, Transit.decrypt, Argument.rejectedFor_singleton.1 hfault,
      Plan.ofArgument, Call.settled]
  | secret action => exact Secrets.Action.call_rejected action h

end Service.Action

/-! ### Accepted names -/

namespace Secrets

/-- An operation on accepted names that goes on with an exchange is one. -/
theorem isExchange_onKey {α : Type} {mount key : String} {f : Handle → String → Call α}
    (h : AllAccepted (keyNames mount key))
    (hf : ∀ m k, Argument.Accepted m → Argument.require .secretKey key = .ok k →
      (f ⟨m⟩ k).IsExchange) :
    (onKey mount key f).IsExchange := by
  obtain ⟨hm, hk⟩ := Argument.allAccepted_keyNames.1 h
  exact Call.isExchange_ofArgument hm fun m hm =>
    Call.isExchange_ofArgument hk fun k hk => hf m k (Argument.accepted_of_require hm) hk

/-- The second look that a handle takes at a key refuses nothing: a read of it is an exchange. -/
theorem isExchange_get {α β : Type} {mount key : String} (h : AllAccepted (keyNames mount key))
    (version : Version) (decode : Json → Except Json.DecodeFault α)
    (g : Option (Versioned α) → β) :
    (onKey mount key fun h key => through h ((h.get key version decode).map g)).IsExchange :=
  isExchange_onKey h fun m k hm hk =>
    ⟨_, _, by rw [plan_through, Handle.get_eq (h := ⟨m⟩) hm hk version decode, Plan.map]⟩

theorem isExchange_readScalar {mount key : String} (h : AllAccepted (keyNames mount key))
    (version : Version) : (readScalar mount key version).IsExchange := by
  rw [readScalar, readScalarVersioned]
  exact (isExchange_get h version ScalarRecord.decode _).map _

theorem Action.isExchange_call {α : Type} (a : Secrets.Action α) (h : AllAccepted a.names)
    (hne : ¬ (Service.Action.secret a).IsEmptyWrite) : a.call.IsExchange := by
  cases a with
  | write mount key value =>
    rw [call, Service.writeSecret, writeScalar]
    exact isExchange_onKey h fun m k hm hk =>
      ⟨_, _, by rw [plan_through, Handle.put_eq (h := ⟨m⟩) hm hk]⟩
  | read mount key =>
    rw [call, Service.readSecret, Service.readSecretVersion]
    exact isExchange_readScalar h .latest
  | readVersion mount key version =>
    rw [call, Service.readSecretVersion]
    exact isExchange_readScalar h version
  | readVersioned mount key version =>
    rw [call, Service.readVersionedSecret, readScalarVersioned]
    exact isExchange_get h version ScalarRecord.decode _
  | writeMap mount key map =>
    rw [call, Service.writeSecretMap, Secrets.writeMap]
    refine isExchange_onKey h fun m k hm hk => ?_
    have hmap : ¬ map.isEmpty = true := by simpa [Service.Action.IsEmptyWrite] using hne
    rw [if_neg hmap]
    exact ⟨_, _, by rw [plan_through, Handle.put_eq (h := ⟨m⟩) hm hk, Plan.map]⟩
  | readMap mount key =>
    rw [call, Service.readSecretMap, Service.readSecretMapVersion, Secrets.readMap]
    exact isExchange_get h .latest StringMap.decode _
  | readMapVersion mount key version =>
    rw [call, Service.readSecretMapVersion, Secrets.readMap]
    exact isExchange_get h version StringMap.decode _
  | list mount =>
    rw [call, Service.listSecrets, Secrets.list]
    refine Call.isExchange_ofArgument (Argument.allAccepted_singleton.1 h) fun m hm => ?_
    exact ⟨_, _, by rw [plan_through, Handle.list_eq (h := ⟨m⟩) (Argument.accepted_of_require hm)]⟩

theorem writeMap_nil {mount key : String} (h : AllAccepted (keyNames mount key)) :
    Secrets.writeMap mount key [] = Call.settled (.ok none) := by
  obtain ⟨⟨m, hm⟩, k, hk⟩ := Argument.allAccepted_keyNames.1 h
  rw [Secrets.writeMap, onKey_accepted hm hk]
  rfl

end Secrets

namespace Service

/-- An operation on accepted names, unless it writes an empty map, makes an exchange. -/
theorem Action.isExchange_call {α : Type} (s : Service) (a : Service.Action α)
    (h : AllAccepted a.names) (hne : ¬ a.IsEmptyWrite) : (a.call s).IsExchange := by
  cases a with
  | health => exact ⟨_, _, rfl⟩
  | serverVersion => exact ⟨_, _, rfl⟩
  | encrypt key plaintext =>
    obtain ⟨k, hk⟩ := Argument.allAccepted_singleton.1 h
    exact ⟨_, _, by rw [call, Service.encrypt, Call.direct, Transit.encrypt, hk, Plan.ofArgument]⟩
  | decrypt key ciphertext =>
    obtain ⟨k, hk⟩ := Argument.allAccepted_singleton.1 h
    exact ⟨_, _, by rw [call, Service.decrypt, Call.direct, Transit.decrypt, hk, Plan.ofArgument]⟩
  | secret action => exact Secrets.Action.isExchange_call action h hne

theorem Action.call_writeMap_nil (s : Service) {mount key : String}
    (h : AllAccepted (Secrets.keyNames mount key)) :
    (Action.secret (.writeMap mount key [])).call s = Call.settled (.ok none) := by
  rw [Action.call, Secrets.Action.call, Service.writeSecretMap, Secrets.writeMap_nil h]

/-- A write of an empty map to accepted names is settled. -/
theorem Action.call_emptyWrite {α : Type} (s : Service) {a : Service.Action α}
    (h : AllAccepted a.names) (he : a.IsEmptyWrite) : ∃ r, a.call s = Call.settled r := by
  cases a with
  | secret action =>
    cases action with
    | writeMap mount key map =>
      cases he
      exact ⟨_, Action.call_writeMap_nil s h⟩
    | _ => exact absurd he id
  | _ => exact absurd he id

/-! ### Effects -/

variable {σ : Type} (s : Service) (b : Backend σ)

/-- A settled operation touches neither the backend nor the handles. -/
theorem act_of_settled {α : Type} {a : Service.Action α} {r : Result α}
    (h : a.call s = Call.settled r) (session : Session σ) : s.act b a session = (r, session) := by
  rw [act, h]
  rfl

/-- An operation that makes an exchange hands one request over and makes its result of the
answer. -/
theorem act_of_plan {α : Type} {a : Service.Action α} {q : Request} {finish : Response → Result α}
    (h : (a.call s).plan = .exchange q finish) (session : Session (σ × List Request)) :
    (s.act b.logged a session).1 = (b.answer q session.state.1).1.bind finish ∧
      (s.act b.logged a session).2.state =
        ((b.answer q session.state.1).2, session.state.2 ++ [q]) :=
  Call.run_of_plan h b.logged session

/-- **Validation comes first, and what follows it is one exchange.**  In every state of a session,
whatever the backend does:
an operation with a rejected name fails with the fault of such a name, and nothing else happens;
a write of an empty map does nothing; every other operation asks the backend exactly once, and its
result is a function of the one answer; and the handles change only in an operation that asks. -/
theorem act_validated :
    (∀ {α : Type} (a : Service.Action α) {σ : Type} (b : Backend σ)
        (session : Session (σ × List Request)), (∃ fault, RejectedFor a.names fault) →
      ∃ fault, RejectedFor a.names fault ∧
        s.act b.logged a session = (.error (.invalidArgument fault.message), session)) ∧
    (∀ (mount key : String) {σ : Type} (b : Backend σ) (session : Session (σ × List Request)),
        AllAccepted (Secrets.keyNames mount key) →
      s.act b.logged (.secret (.writeMap mount key [])) session = (.ok none, session)) ∧
    (∀ {α : Type} (a : Service.Action α), AllAccepted a.names → ¬ a.IsEmptyWrite →
      ∃ (q : Request) (finish : Response → Result α),
        ∀ {σ : Type} (b : Backend σ) (session : Session (σ × List Request)),
          (s.act b.logged a session).1 = (b.answer q session.state.1).1.bind finish ∧
            (s.act b.logged a session).2.state =
              ((b.answer q session.state.1).2, session.state.2 ++ [q])) ∧
    ∀ {α : Type} (a : Service.Action α) {σ : Type} (b : Backend σ)
        (session : Session (σ × List Request)),
      (s.act b.logged a session).2.handles ≠ session.handles →
        ∃ q, (s.act b.logged a session).2.state.2 = session.state.2 ++ [q] := by
  refine ⟨fun a σ b session h => ?_, fun mount key σ b session h => ?_, fun a h hne => ?_,
    fun a σ b session hhandles => ?_⟩
  · obtain ⟨fault, hfault, hcall⟩ := Action.call_rejected s a h
    exact ⟨fault, hfault, act_of_settled s b.logged hcall session⟩
  · exact act_of_settled s b.logged (Action.call_writeMap_nil s h) session
  · obtain ⟨q, finish, hplan⟩ := Action.isExchange_call s a h hne
    exact ⟨q, finish, fun b session => act_of_plan s b hplan session⟩
  · -- an operation that is settled leaves the handles as they are
    have hsettled : ∀ r, a.call s ≠ Call.settled r := fun r hr => by
      rw [act_of_settled s b.logged hr session] at hhandles
      exact hhandles rfl
    rcases Argument.allAccepted_or_rejectedFor a.names with haccepted | hrejected
    · have hne : ¬ a.IsEmptyWrite := fun he => by
        obtain ⟨r, hr⟩ := Action.call_emptyWrite s haccepted he
        exact hsettled r hr
      obtain ⟨q, finish, hplan⟩ := Action.isExchange_call s a haccepted hne
      exact ⟨q, by rw [(act_of_plan s b hplan session).2]⟩
    · obtain ⟨fault, _, hcall⟩ := Action.call_rejected s a hrejected
      exact absurd hcall (hsettled _)

/-- A session in which one answer is waiting. -/
def waiting : Session (Script × List Request) := .fresh ([.ok Script.nothing], [])

/-- A read below a mount that leaves its place, a write of nothing and a read, each while an
answer is waiting: only the last one takes it. -/
theorem act_validated_waiting :
    ∃ s, ofSettings slashedSettings = .ok s ∧
      ((∃ fault, RejectedFor (Action.secret (.read "team/../kv" "db")).names fault) ∧
        ∃ fault, RejectedFor (Action.secret (.read "team/../kv" "db")).names fault ∧
          s.act Script.backend.logged (.secret (.read "team/../kv" "db")) waiting =
            (.error (.invalidArgument fault.message), waiting)) ∧
      (AllAccepted (Secrets.keyNames "/kv/" "db") ∧
        s.act Script.backend.logged (.secret (.writeMap "/kv/" "db" [])) waiting =
          (.ok none, waiting)) ∧
      (AllAccepted (Action.secret (.read "/kv/" "db")).names ∧
        ¬ (Action.secret (.read "/kv/" "db")).IsEmptyWrite ∧
        ∃ (q : Request) (finish : Response → Result (Option String)),
          (s.act Script.backend.logged (.secret (.read "/kv/" "db")) waiting).1 =
              (Script.backend.answer q waiting.state.1).1.bind finish ∧
            (s.act Script.backend.logged (.secret (.read "/kv/" "db")) waiting).2.state =
              ((Script.backend.answer q waiting.state.1).2, waiting.state.2 ++ [q])) ∧
      ((s.act Script.backend.logged (.secret (.read "/kv/" "db")) waiting).2.handles ≠
          waiting.handles ∧
        ∃ q, (s.act Script.backend.logged (.secret (.read "/kv/" "db")) waiting).2.state.2 =
          waiting.state.2 ++ [q]) := by
  obtain ⟨s, hs⟩ : ∃ s, ofSettings slashedSettings = .ok s := ⟨_, rfl⟩
  have hreject : ∃ fault, RejectedFor (Action.secret (.read "team/../kv" "db")).names fault :=
    ⟨.dotSegment .mount, _, List.mem_cons_self, rfl⟩
  have haccept : AllAccepted (Secrets.keyNames "/kv/" "db") :=
    Argument.allAccepted_keyNames.2 ⟨⟨"kv", rfl⟩, "db", rfl⟩
  have hread : ¬ (Action.secret (.read "/kv/" "db")).IsEmptyWrite := id
  have hhandles : (s.act Script.backend.logged (.secret (.read "/kv/" "db")) waiting).2.handles ≠
      waiting.handles := by
    show HandleCache.touch .empty "kv" ≠ .empty
    decide
  obtain ⟨hrejected, hempty, hexchange, hlookup⟩ := act_validated s
  obtain ⟨q, finish, hasks⟩ := hexchange (.secret (.read "/kv/" "db")) haccept hread
  exact ⟨s, hs, ⟨hreject, hrejected _ Script.backend waiting hreject⟩,
    ⟨haccept, hempty "/kv/" "db" Script.backend waiting haccept⟩,
    ⟨haccept, hread, q, finish, hasks Script.backend waiting⟩,
    ⟨hhandles, hlookup _ Script.backend waiting hhandles⟩⟩

end Service
end Strongbox
