/-
The requests that a service hands to its backend.

`Endpoint.Encodes` says what the path of a name is, and `Service.Action.Sends` which request
an operation may send.  Whatever the configuration, the backend and the operations before,
every request has the form that its operation gives it (`forall_sent`).

* `encodes_encodePath` — the path of an accepted name encodes that name;
* `request?_sends` — the one request in the plan of an operation has its form;
* `Call.log_run` — carrying out an operation hands over that request and no other.
-/
import Strongbox.Backend.Script
import Strongbox.Proofs.Actions
import Strongbox.Proofs.Members
import Strongbox.Proofs.Settings
import Strongbox.Proofs.Spelling

namespace Strongbox

universe u

namespace Endpoint

/-- What the path of a name is: segments between slashes, each that of the name encoded, none of
them empty or a dot segment, made of harmless characters and escapes, which decoded are the
segments of the name. -/
structure Encodes (name path : String) : Prop where
  encoded : Text.pieces '/' path.toList = (segments name.toList).map encodeSegment
  decoded : (Text.pieces '/' path.toList).map Percent.decode =
    (segments name.toList).map Utf8.bytes
  ne_nil : ∀ p ∈ Text.pieces '/' path.toList, p ≠ []
  not_dot : ∀ p ∈ Text.pieces '/' path.toList, Argument.isDotSegment p = false
  pathChar : ∀ p ∈ Text.pieces '/' path.toList, ∀ c ∈ p, isPathChar c = true
  wellEscaped : ∀ p ∈ Text.pieces '/' path.toList, Percent.WellEscaped p

/-- The path of a name that can be used as it stands encodes every name with its segments. -/
theorem encodes_encodePath {name t : String} (h : Argument.Accepted t)
    (hs : segments t.toList = segments name.toList) : Encodes name (encodePath t) := by
  have hpieces := pieces_encodePath h.segments_ne_nil
  -- every piece of the path is an encoded segment of the name
  have hmem : ∀ p ∈ Text.pieces '/' (encodePath t).toList,
      ∃ seg ∈ segments t.toList, encodeSegment seg = p := by
    intro p hp
    rw [hpieces] at hp
    exact List.mem_map.1 hp
  constructor
  · rw [hpieces, hs]
  · rw [hpieces, List.map_map, ← hs]
    exact List.map_congr_left fun seg _ => decode_encodeSegment seg
  · intro p hp
    obtain ⟨seg, hseg, rfl⟩ := hmem p hp
    exact encodeSegment_ne_nil (mem_segments.1 hseg).2
  · intro p hp
    obtain ⟨seg, hseg, rfl⟩ := hmem p hp
    rw [isDotSegment_encodeSegment, h.not_dot_of_mem hseg]
  · intro p hp c hc
    obtain ⟨seg, _, rfl⟩ := hmem p hp
    exact isPathChar_of_mem_encodeSegment hc
  · intro p hp
    obtain ⟨seg, _, rfl⟩ := hmem p hp
    exact Percent.wellEscaped_encode isClear_isSegmentByte seg

theorem encodes_of_require {n : ArgumentName} {v t : String} (h : Argument.require n v = .ok t) :
    Encodes v (encodePath t) :=
  encodes_encodePath (Argument.accepted_of_require h) (Argument.segments_of_require h)

end Endpoint

/-! ### The forms -/

/-- The query that asks for a version. -/
def Version.query : Version → List (String × String)
  | .latest => []
  | .specific n => [("version", Numeral.decimal n.value)]

namespace Secrets.Action

open Endpoint (Encodes)

/-- The request that an operation on secrets may send. -/
inductive Sends : {α : Type} → Secrets.Action α → Request → Prop
  | write {mount key value M K : String} (hm : Encodes mount M) (hk : Encodes key K) :
    Sends (.write mount key value)
      ⟨.write, M ++ "/data/" ++ K, [],
        some (.object [("data", .object [("value", .string value)])])⟩
  | read {mount key M K : String} (hm : Encodes mount M) (hk : Encodes key K) :
    Sends (.read mount key) ⟨.read, M ++ "/data/" ++ K, [], none⟩
  | readVersion {mount key M K : String} {version : Version} (hm : Encodes mount M)
    (hk : Encodes key K) :
    Sends (.readVersion mount key version) ⟨.read, M ++ "/data/" ++ K, version.query, none⟩
  | readVersioned {mount key M K : String} {version : Version} (hm : Encodes mount M)
    (hk : Encodes key K) :
    Sends (.readVersioned mount key version) ⟨.read, M ++ "/data/" ++ K, version.query, none⟩
  | writeMap {mount key M K : String} {map : StringMap} (hm : Encodes mount M)
    (hk : Encodes key K) (hmap : map ≠ []) :
    Sends (.writeMap mount key map)
      ⟨.write, M ++ "/data/" ++ K, [], some (.object [("data", .object map.members)])⟩
  | readMap {mount key M K : String} (hm : Encodes mount M) (hk : Encodes key K) :
    Sends (.readMap mount key) ⟨.read, M ++ "/data/" ++ K, [], none⟩
  | readMapVersion {mount key M K : String} {version : Version} (hm : Encodes mount M)
    (hk : Encodes key K) :
    Sends (.readMapVersion mount key version) ⟨.read, M ++ "/data/" ++ K, version.query, none⟩
  | list {mount M : String} (hm : Encodes mount M) :
    Sends (.list mount) ⟨.list, M ++ "/metadata/", [], none⟩

end Secrets.Action

namespace Service.Action

open Endpoint (Encodes)

/-- The request that an operation of a service may send, when the transit mount was set to
`transitMount`. -/
inductive Sends (transitMount : String) : {α : Type} → Service.Action α → Request → Prop
  | health : Sends transitMount .health ⟨.read, "sys/health", [], none⟩
  | serverVersion : Sends transitMount .serverVersion ⟨.read, "sys/health", [], none⟩
  | encrypt {key T K text : String} {plaintext : List UInt8} (ht : Encodes transitMount T)
    (hk : Encodes key K) (htext : Base64.Spells text.toList plaintext) :
    Sends transitMount (.encrypt key plaintext)
      ⟨.write, T ++ "/encrypt/" ++ K, [], some (.object [("plaintext", .string text)])⟩
  | decrypt {key ciphertext T K : String} (ht : Encodes transitMount T) (hk : Encodes key K) :
    Sends transitMount (.decrypt key ciphertext)
      ⟨.write, T ++ "/decrypt/" ++ K, [], some (.object [("ciphertext", .string ciphertext)])⟩
  | secret {α : Type} {a : Secrets.Action α} {q : Request} (h : a.Sends q) :
    Sends transitMount (.secret a) q

end Service.Action

/-! ### Every request has its form -/

theorem Plan.request?_map {α β : Type} (f : α → β) (p : Plan α) :
    (p.map f).request? = p.request? := by
  cases p with
  | settled r => rfl
  | exchange q finish => rfl

/-- A plan that depends on an argument has a request only if the argument is accepted. -/
theorem Plan.request?_ofArgument {α β : Type} {a : Except ArgumentFault β} {f : β → Plan α}
    {q : Request} (h : (Plan.ofArgument a f).request? = some q) :
    ∃ b, a = .ok b ∧ (f b).request? = some q := by
  cases a with
  | error fault => exact absurd h (by simp [ofArgument, request?])
  | ok b => exact ⟨b, rfl, h⟩

theorem Call.request?_ofArgument {α β : Type} {a : Except ArgumentFault β} {f : β → Call α}
    {q : Request} (h : (Call.ofArgument a f).plan.request? = some q) :
    ∃ b, a = .ok b ∧ (f b).plan.request? = some q := by
  cases a with
  | error fault => exact absurd h (by simp [ofArgument, settled, direct, Plan.request?])
  | ok b => exact ⟨b, rfl, h⟩

theorem Call.plan_map {α β : Type} (f : α → β) (c : Call α) : (c.map f).plan = c.plan.map f := rfl

/-- A call whose plan is an exchange asks the backend for one answer. -/
theorem Call.run_of_plan {σ α : Type} {c : Call α} {q : Request} {finish : Response → Result α}
    (h : c.plan = .exchange q finish) (b : Backend σ) (session : Session σ) :
    (c.run b session).1 = (b.answer q session.state).1.bind finish ∧
      (c.run b session).2.state = (b.answer q session.state).2 := by
  rw [Call.run, h]
  exact ⟨rfl, rfl⟩

namespace Secrets

open Endpoint (Encodes encodes_of_require)

/-- An operation on a key sends something only if both names are accepted. -/
theorem request?_onKey {α : Type} {mount key : String} {f : Handle → String → Call α} {q : Request}
    (h : (onKey mount key f).plan.request? = some q) :
    ∃ m k, Argument.require .mount mount = .ok m ∧ Argument.require .secretKey key = .ok k ∧
      (f ⟨m⟩ k).plan.request? = some q := by
  obtain ⟨m, hm, h⟩ := Call.request?_ofArgument h
  obtain ⟨k, hk, h⟩ := Call.request?_ofArgument h
  exact ⟨m, k, hm, hk, h⟩

theorem plan_through {α : Type} (h : Handle) (p : Plan α) : (through h p).plan = p := rfl

/-- A read of accepted names is an exchange whose answer it finishes. -/
theorem plan_get {α β : Type} {mount key m k : String}
    (hm : Argument.require .mount mount = .ok m) (hk : Argument.require .secretKey key = .ok k)
    (version : Version) (decode : Json → Except Json.DecodeFault α)
    (g : Option (Versioned α) → β) :
    (onKey mount key fun h key => through h ((h.get key version decode).map g)).plan =
      .exchange ((Handle.mk m).getRequest k version) fun r =>
        ((Handle.mk m).finishGet k decode r).map g := by
  rw [onKey_accepted hm hk, plan_through,
    Handle.get_eq (h := ⟨m⟩) (Argument.accepted_of_require hm) hk, Plan.map]

theorem getRequest_eq (h : Handle) (key : String) (version : Version) :
    h.getRequest key version =
      ⟨.read, Endpoint.encodePath h.mount ++ "/data/" ++ Endpoint.encodePath key, version.query,
        none⟩ := by
  cases version with
  | latest => rfl
  | specific n => rfl

/-- A read sends the path of the secret and the version it asks for. -/
theorem request?_get {α β : Type} {mount key : String} {version : Version}
    {decode : Json → Except Json.DecodeFault α} {g : Option (Versioned α) → β} {q : Request}
    (h : (onKey mount key fun h key =>
      through h ((h.get key version decode).map g)).plan.request? = some q) :
    ∃ M K, Encodes mount M ∧ Encodes key K ∧
      q = ⟨.read, M ++ "/data/" ++ K, version.query, none⟩ := by
  obtain ⟨m, k, hm, hk, hq⟩ := request?_onKey h
  rw [plan_through, Plan.request?_map,
    Handle.get_eq (Argument.accepted_of_require hm) hk version decode, Plan.request?,
    Option.some_inj] at hq
  exact ⟨_, _, encodes_of_require hm, encodes_of_require hk, by rw [← hq, getRequest_eq]⟩

theorem request?_readScalar {mount key : String} {version : Version} {q : Request}
    (h : (readScalar mount key version).plan.request? = some q) :
    ∃ M K, Encodes mount M ∧ Encodes key K ∧
      q = ⟨.read, M ++ "/data/" ++ K, version.query, none⟩ := by
  rw [readScalar, Call.plan_map, Plan.request?_map] at h
  exact request?_get h

theorem request?_put {mount key : String} {h : Handle} {k : String} {payload : Json} {q : Request}
    (hm : Argument.require .mount mount = .ok h.mount)
    (hk : Argument.require .secretKey key = .ok k) (hq : (h.put k payload).request? = some q) :
    ∃ M K, Encodes mount M ∧ Encodes key K ∧
      q = ⟨.write, M ++ "/data/" ++ K, [], some (.object [("data", payload)])⟩ := by
  rw [Handle.put_eq (Argument.accepted_of_require hm) hk, Plan.request?, Option.some_inj] at hq
  exact ⟨_, _, encodes_of_require hm, encodes_of_require hk, hq.symm⟩

/-- The request in the plan of an operation on secrets has its form. -/
theorem Action.request?_sends {α : Type} {a : Secrets.Action α} {q : Request}
    (h : a.call.plan.request? = some q) : a.Sends q := by
  cases a with
  | write mount key value =>
    rw [call, Service.writeSecret, writeScalar] at h
    obtain ⟨m, k, hm, hk, hq⟩ := request?_onKey h
    rw [plan_through] at hq
    obtain ⟨M, K, hM, hK, rfl⟩ := request?_put hm hk hq
    exact .write hM hK
  | read mount key =>
    rw [call, Service.readSecret, Service.readSecretVersion] at h
    obtain ⟨M, K, hM, hK, rfl⟩ := request?_readScalar h
    exact .read hM hK
  | readVersion mount key version =>
    rw [call, Service.readSecretVersion] at h
    obtain ⟨M, K, hM, hK, rfl⟩ := request?_readScalar h
    exact .readVersion hM hK
  | readVersioned mount key version =>
    rw [call, Service.readVersionedSecret, readScalarVersioned] at h
    obtain ⟨M, K, hM, hK, rfl⟩ := request?_get h
    exact .readVersioned hM hK
  | writeMap mount key map =>
    rw [call, Service.writeSecretMap, Secrets.writeMap] at h
    obtain ⟨m, k, hm, hk, hq⟩ := request?_onKey h
    split at hq
    · exact absurd hq (by simp [Call.settled, Call.direct, Plan.request?])
    · next hmap =>
      rw [plan_through, Plan.request?_map] at hq
      obtain ⟨M, K, hM, hK, rfl⟩ := request?_put hm hk hq
      rw [StringMap.toJson_eq]
      exact .writeMap hM hK (by simpa using hmap)
  | readMap mount key =>
    rw [call, Service.readSecretMap, Service.readSecretMapVersion, Secrets.readMap] at h
    obtain ⟨M, K, hM, hK, rfl⟩ := request?_get h
    exact .readMap hM hK
  | readMapVersion mount key version =>
    rw [call, Service.readSecretMapVersion, Secrets.readMap] at h
    obtain ⟨M, K, hM, hK, rfl⟩ := request?_get h
    exact .readMapVersion hM hK
  | list mount =>
    rw [call, Service.listSecrets, Secrets.list] at h
    obtain ⟨m, hm, h⟩ := Call.request?_ofArgument h
    rw [plan_through, Handle.list_eq (Argument.accepted_of_require hm), Plan.request?,
      Option.some_inj] at h
    rw [← h]
    exact .list (encodes_of_require hm)

end Secrets

namespace Service

open Endpoint (Encodes encodes_encodePath encodes_of_require)

/-- The request in the plan of an operation has its form. -/
theorem Action.request?_sends {settings : Settings} {s : Service} (hs : ofSettings settings = .ok s)
    {α : Type} {a : Service.Action α} {q : Request} (h : (a.call s).plan.request? = some q) :
    a.Sends settings.transitMount q := by
  obtain ⟨hmount, hsegments⟩ := Settings.accepted_transitMount (toConfig_of_ofSettings hs)
  have ht : Encodes settings.transitMount (Endpoint.encodePath s.config.transitMount) :=
    encodes_encodePath hmount hsegments
  cases a with
  | health =>
    rw [← Option.some_inj.1 h]
    exact .health
  | serverVersion =>
    rw [call, Service.serverVersion, Call.plan_map, Plan.request?_map] at h
    rw [← Option.some_inj.1 h]
    exact .serverVersion
  | encrypt key plaintext =>
    rw [call, Service.encrypt, Call.direct, Transit.encrypt] at h
    dsimp only at h
    obtain ⟨k, hk, h⟩ := Plan.request?_ofArgument h
    rw [Plan.request?, Option.some_inj] at h
    rw [← h]
    exact .encrypt ht (encodes_of_require hk) (Base64.spells_iff.2 rfl)
  | decrypt key ciphertext =>
    rw [call, Service.decrypt, Call.direct, Transit.decrypt] at h
    dsimp only at h
    obtain ⟨k, hk, h⟩ := Plan.request?_ofArgument h
    rw [Plan.request?, Option.some_inj] at h
    rw [← h]
    exact .decrypt ht (encodes_of_require hk)
  | secret action => exact .secret (Secrets.Action.request?_sends h)

end Service

/-! ### Whole histories -/

/-- The backend that also keeps the requests it was handed, the first one first. -/
def Backend.logged {σ : Type} (b : Backend σ) : Backend (σ × List Request) where
  answer q s := ((b.answer q s.1).1, ((b.answer q s.1).2, s.2 ++ [q]))

/-- Carrying out a call hands over the request of its plan, and no other. -/
theorem Call.log_run {σ α : Type} (c : Call α) (b : Backend σ)
    (session : Session (σ × List Request)) :
    (c.run b.logged session).2.state.2 = session.state.2 ++ c.plan.request?.toList := by
  rw [run]
  cases c.plan with
  | settled r => exact (List.append_nil _).symm
  | exchange q finish => rfl

/-- Calls one after another hand over the requests of their plans, in this order. -/
theorem History.log_run {E : Type → Type u} (call : {α : Type} → E α → Call α) {σ : Type}
    (b : Backend σ) (history : History E) (session : Session (σ × List Request)) :
    (run (fun a => (call a).run b.logged) history session).2.state.2 =
      session.state.2 ++ history.flatMap fun a => (call a.2).plan.request?.toList := by
  induction history generalizing session with
  | nil => exact (List.append_nil _).symm
  | cons a rest ih =>
    rw [run_cons_snd, ih, Call.log_run, List.flatMap_cons, List.append_assoc]

namespace Service

variable {σ : Type} (s : Service) (b : Backend σ)

theorem run_logged (history : History Service.Action) (session : Session (σ × List Request)) :
    (History.run (s.act b.logged) history session).2.state.2 =
      session.state.2 ++ history.flatMap fun a => (a.2.call s).plan.request?.toList :=
  History.log_run (Action.call s) b history session

/-- **Every request has one of the forms.**  Whatever a service is configured with, whatever its
backend does and whatever was asked of it before, each request that it hands over has the form
of the operation that was asked for. -/
theorem forall_sent {settings : Settings} {s : Service} (hs : ofSettings settings = .ok s)
    (b : Backend σ) (state : σ) (history : History Service.Action) :
    ∀ q ∈ (History.run (s.act b.logged) history (.fresh (state, []))).2.state.2,
      ∃ a ∈ history, a.2.Sends settings.transitMount q := by
  intro q hq
  rw [run_logged, Session.fresh, List.nil_append, List.mem_flatMap] at hq
  obtain ⟨a, ha, hq⟩ := hq
  rw [Option.mem_toList] at hq
  exact ⟨a, ha, Action.request?_sends hs hq⟩

/-- Settings with a transit mount between slashes. -/
def slashedSettings : Settings :=
  ((Settings.new "https://vault.example.com:8200").withCredential (.token "t")).withTransitMount
    "/transit/"

theorem exists_slashed : ∃ s, ofSettings slashedSettings = .ok s := ⟨_, rfl⟩

/-- Writes of a text and of a map, which has a name twice, and an encryption. -/
def writeAndEncrypt : History Service.Action :=
  [⟨_, .secret (.write "secret" "db//url" "v")⟩,
   ⟨_, .secret (.writeMap "/secret" "db" [("user", "u"), ("pass", "p"), ("user", "w")])⟩,
   ⟨_, .encrypt "a b" [0x68, 0x69]⟩]

/-- They hand over one request each, and all requests have their form. -/
theorem forall_sent_writeAndEncrypt :
    ∃ s, ofSettings slashedSettings = .ok s ∧
      (History.run (s.act Script.backend.logged) writeAndEncrypt (.fresh ([], []))).2.state.2 =
        [⟨.write, "secret/data/db/url", [],
            some (.object [("data", .object [("value", .string "v")])])⟩,
         ⟨.write, "secret/data/db", [],
            some (.object [("data", .object [("pass", .string "p"), ("user", .string "w")])])⟩,
         ⟨.write, "transit/encrypt/a%20b", [],
            some (.object [("plaintext", .string "aGk=")])⟩] ∧
      ∀ q ∈ (History.run (s.act Script.backend.logged) writeAndEncrypt
          (.fresh ([], []))).2.state.2,
        ∃ a ∈ writeAndEncrypt, a.2.Sends slashedSettings.transitMount q := by
  obtain ⟨s, hs, hrequests⟩ : ∃ s, ofSettings slashedSettings = .ok s ∧
      (History.run (s.act Script.backend.logged) writeAndEncrypt (.fresh ([], []))).2.state.2 = _ :=
    ⟨_, rfl, rfl⟩
  exact ⟨s, hs, hrequests, forall_sent hs Script.backend [] writeAndEncrypt⟩

end Service
end Strongbox
