/-
Exchanges whose connection fails before a complete answer has arrived.

The connection is refused, or closed without an answer, or there is no answer in time, or the body
of an answer is cut short or does not end in time; and where an answer leads elsewhere, this may
befall the message that follows (`Wire.Client.BreaksOff`).  What the client tells of such a failure
it tells by kinds (`Wire.Client.TellsKinds`), and the transport makes an error of the first kind
that it knows (`Error.ofFailure`).  For a body that is cut short that is the kind of a body that
cannot be read; for the others it is one that says that the server is unavailable.

* `Transport.conclude_of_breaksOff` — such an exchange fails with what the client tells of it;
* `BreaksOff.isUnavailable_iff` — which of the errors say that the server is unavailable;
* `Transport.execute_breaksOff` — a request that gets as far as the connection fails so;
* `Service.act_breaksOff` — and so does every operation: none of them succeeds or finds nothing.
-/
import Strongbox.Proofs.Replies
import Strongbox.Proofs.Validation

namespace Strongbox

/-! ### Connections that fail -/

/-- Does the error say that the server is unavailable and that the call may be tried again? -/
def Error.IsUnavailable (e : Error) : Prop := e.kind = .backendUnavailable ∧ e.isRetryable = true

namespace Wire.Client

/-- The connection fails before there is a complete answer, from the reply to a message to `u` on,
if the exchange may go on to another place `hops` times.  Answers of the statuses 204 and 304 have
no body, and of an answer that leads elsewhere the body is not read. -/
inductive BreaksOff (c : Client) (setup : Setup) :
    Nat → Url → String → Reply → Peer → Break → Prop
  | refused {hops : Nat} {u : Url} {method : String} {peer : Peer} :
    BreaksOff c setup hops u method .refused peer (.refused u)
  | closed {hops : Nat} {u : Url} {method : String} {peer : Peer} :
    BreaksOff c setup hops u method .closed peer (.closed u)
  | silent {hops : Nat} {u : Url} {method : String} {peer : Peer} :
    BreaksOff c setup hops u method .silent peer (.silent u)
  | cut {hops : Nat} {u : Url} {method : String} {a : Answer} {peer : Peer}
    (htaken : c.next setup u method a.status a.headers = .take)
    (hbody : a.status ≠ 204 ∧ a.status ≠ 304) (hending : a.ending = .cut) :
    BreaksOff c setup hops u method (.answer a) peer .cut
  | stalled {hops : Nat} {u : Url} {method : String} {a : Answer} {peer : Peer}
    (htaken : c.next setup u method a.status a.headers = .take)
    (hbody : a.status ≠ 204 ∧ a.status ≠ 304) (hending : a.ending = .stalled) :
    BreaksOff c setup hops u method (.answer a) peer .stalled
  | led {hops : Nat} {u : Url} {method : String} {a : Answer} {hop : Hop} {peer : Peer} {b : Break}
    (hled : c.next setup u method a.status a.headers = .follow hop)
    (h : BreaksOff c setup hops hop.url hop.method peer.take.1 peer.take.2 b) :
    BreaksOff c setup (hops + 1) u method (.answer a) peer b

variable {c : Client} {setup : Setup} {hops : Nat} {u : Url} {method : String} {reply : Reply}
  {peer : Peer} {b : Break}

/-- By what the client tells of it, the failure of a connection says that the server is unavailable,
unless it cut the body of an answer short. -/
theorem BreaksOff.isUnavailable_iff (hkinds : c.TellsKinds)
    (h : c.BreaksOff setup hops u method reply peer b) :
    (Error.ofFailure (c.failure b)).IsUnavailable ↔ b ≠ .cut := by
  have htimeout : Error.timeout.IsUnavailable := ⟨rfl, rfl⟩
  have hnetwork : ∀ m, (Error.network m).IsUnavailable := fun _ => ⟨rfl, rfl⟩
  induction h with
  | refused =>
    obtain ⟨hlate, hconnect⟩ := hkinds.refused _
    rw [Error.ofFailure, hlate, hconnect]
    exact iff_of_true (hnetwork _) (by simp)
  | closed =>
    obtain ⟨hlate, hrequest⟩ := hkinds.closed _
    rw [Error.ofFailure, hlate, hrequest, Bool.or_true]
    exact iff_of_true (hnetwork _) (by simp)
  | silent =>
    rw [Error.ofFailure, hkinds.silent]
    exact iff_of_true htimeout (by simp)
  | stalled =>
    rw [Error.ofFailure, hkinds.stalled]
    exact iff_of_true htimeout (by simp)
  | cut =>
    obtain ⟨hlate, hconnect, hrequest, hdecode⟩ := hkinds.cut
    rw [Error.ofFailure, hlate, hconnect, hrequest, hdecode]
    exact iff_of_false (fun h => absurd h.1 (by simp [Error.kind])) (not_not_intro rfl)
  | led _ _ ih => exact ih

theorem TellsKinds.ofFailure_cut (hkinds : c.TellsKinds) :
    Error.ofFailure (c.failure .cut) = .deserialize (c.failure .cut).text := by
  obtain ⟨hlate, hconnect, hrequest, hdecode⟩ := hkinds.cut
  simp [Error.ofFailure, hlate, hconnect, hrequest, hdecode]

end Wire.Client

/-! ### Exchanges -/

namespace Transport

open Wire (Peer)

/-- Can a request for the URL be sent from the state: is there a token, and does what comes from
outside fit into headers? -/
structure CanSend (t : Transport) (q : Request) (u : Url) (s : State) : Prop where
  url : t.url? q = some u
  credential : ∃ c, (t.config.credential.header s.supply).1 = .ok c ∧ t.headersFit c = true

/-- The connection fails before the exchange of a request to `u` has a complete answer. -/
def BreaksOff (t : Transport) (q : Request) (u : Url) (peer : Peer) (b : Wire.Break) : Prop :=
  t.client.BreaksOff (setup t.config) t.client.hopLimit u (method q.operation) peer.take.1
    peer.take.2 b

/-- Bytes that are missing of a body are a failure of the exchange. -/
theorem read_of_ending {client : Wire.Client} {a : Wire.Answer}
    (hbody : a.status ≠ 204 ∧ a.status ≠ 304) :
    (a.ending = .cut → client.read a = .error .cut) ∧
      (a.ending = .stalled → client.read a = .error .stalled) := by
  have hbodiless : Wire.bodiless a.status = false := by simp [Wire.bodiless, hbody]
  constructor <;>
  · intro hending
    rw [Wire.Client.read, hbodiless, hending]
    rfl

/-- An exchange whose connection fails has the failure as its result. -/
theorem conclude_of_breaksOff {t : Transport} {setup : Wire.Setup} {hops : Nat} {u : Url}
    {method : String} {reply : Wire.Reply} {peer : Peer} {b : Wire.Break}
    (h : t.client.BreaksOff setup hops u method reply peer b) {m : Wire.Message}
    (hmethod : m.method = method) (id : String) :
    t.conclude id (t.client.follow setup hops u m reply peer).outcome = t.fail b := by
  induction h generalizing m with
  | refused => rw [Wire.Client.follow_refused, conclude]
  | closed => rw [Wire.Client.follow_of_ends rfl, conclude]
  | silent => rw [Wire.Client.follow_of_ends rfl, conclude]
  | cut htaken hbody hending =>
    rw [Wire.Client.follow_of_ends (by rw [Wire.Client.turn, hmethod, htaken]), conclude, respond,
      (read_of_ending hbody).1 hending]
  | stalled htaken hbody hending =>
    rw [Wire.Client.follow_of_ends (by rw [Wire.Client.turn, hmethod, htaken]), conclude, respond,
      (read_of_ending hbody).2 hending]
  | led hled _ ih =>
    rw [Wire.Client.follow_of_leads (by rw [Wire.Client.turn, hmethod, hled])]
    exact ih rfl

/-- A request that can be sent takes the next reply. -/
theorem execute_canSend {t : Transport} {q : Request} {u : Url} {s : State}
    (h : t.CanSend q u s) (ids : Nat → String) :
    ∃ c, (t.config.credential.header s.supply).1 = .ok c ∧
      (t.execute ids q s).1 = t.conclude (ids s.requests)
        (t.course u (t.message q u (ids s.requests) c) s.peer).outcome ∧
      (t.execute ids q s).2.trails = s.trails ++
        (trail? u (t.message q u (ids s.requests) c) s.peer.take.1
          (t.course u (t.message q u (ids s.requests) c) s.peer).followed).toList := by
  obtain ⟨c, hc, hfit⟩ := h.credential
  obtain ⟨supply, hheader⟩ : ∃ supply, t.config.credential.header s.supply = (.ok c, supply) :=
    ⟨_, Prod.ext hc rfl⟩
  refine ⟨c, hc, ?_⟩
  rw [execute, hheader]
  dsimp only
  rw [send, h.url]
  dsimp only
  rw [hfit, Bool.not_true, if_neg Bool.false_ne_true]
  exact ⟨rfl, rfl⟩

/-- A request that can be sent fails if the connection does. -/
theorem execute_breaksOff {t : Transport} {q : Request} {u : Url} {s : State} {b : Wire.Break}
    (h : t.CanSend q u s) (hpeer : t.BreaksOff q u s.peer b) (ids : Nat → String) :
    (t.execute ids q s).1 = t.fail b := by
  obtain ⟨c, -, hanswer, -⟩ := execute_canSend h ids
  rw [hanswer]
  exact conclude_of_breaksOff hpeer rfl _

end Transport

/-! ### Operations -/

namespace Service

open Argument (AllAccepted)

variable (s : Service) {t : Transport} (ids : Nat → String)

/-- An operation whose connection fails does so with the error of that. -/
theorem act_of_breaksOff {α : Type} {a : Service.Action α} {q : Request}
    (hq : (a.call s).plan.request? = some q) {session : Session Transport.State} {u : Url}
    {b : Wire.Break} (hsend : t.CanSend q u session.state)
    (hpeer : t.BreaksOff q u session.state.peer b) :
    (s.act (t.backend ids) a session).1 = .error (Error.ofFailure (t.client.failure b)) := by
  cases hplan : (a.call s).plan with
  | settled result =>
    rw [hplan, Plan.request?] at hq
    simp at hq
  | exchange q' finish =>
    rw [hplan, Plan.request?, Option.some_inj] at hq
    subst hq
    have hanswer : ((t.backend ids).answer q' session.state).1 = t.fail b :=
      Transport.execute_breaksOff hsend hpeer ids
    rw [act, (Call.run_of_plan hplan (t.backend ids) session).1, hanswer]
    rfl

/-- **Connections that fail are failures.**  Every operation on accepted names that asks the
server fails if the connection does before a complete answer has arrived, in whatever state of
the session.  The error is what becomes of the failure that the client tells, and says that the
server is unavailable and that the call may be tried again exactly if it is not the body of an
answer that was cut short; where it is, the error says that the body cannot be read. -/
theorem act_breaksOff (hkinds : t.client.TellsKinds) {α : Type} (a : Service.Action α)
    (h : AllAccepted a.names) (hne : ¬ a.IsEmptyWrite) :
    ∃ q, (a.call s).plan.request? = some q ∧
      ∀ (session : Session Transport.State) (u : Url) (b : Wire.Break),
        t.CanSend q u session.state → t.BreaksOff q u session.state.peer b →
          ∃ e, (s.act (t.backend ids) a session).1 = .error e ∧
            e = Error.ofFailure (t.client.failure b) ∧ (e.IsUnavailable ↔ b ≠ .cut) ∧
            (b = .cut → e = .deserialize (t.client.failure .cut).text) := by
  obtain ⟨q, hq⟩ := (Action.isExchange_call s a h hne).exists_request
  refine ⟨q, hq, fun session u b hsend hpeer => ?_⟩
  refine ⟨_, s.act_of_breaksOff ids hq hsend hpeer, rfl,
    Wire.Client.BreaksOff.isUnavailable_iff hkinds hpeer, ?_⟩
  rintro rfl
  exact hkinds.ofFailure_cut

/-- A read of a secret. -/
def dbRead : Service.Action (Option String) := .secret (.read "kv" "db")

/-- A session with a server on the machine itself that has these replies ready. -/
def awaiting (replies : List Wire.Reply) : Session Transport.State :=
  .fresh (.fresh localTransport (.listening replies))

/-- An answer that leads to another path of the server, and then none in time. -/
def movedThenSilent : List Wire.Reply :=
  [.answer ⟨307, [("location", Utf8.ofString "http://127.0.0.1:8200/v1/new")], [], .complete⟩,
    .silent]

/-- The start of an answer of success, whose connection is closed. -/
def cutReply : Wire.Reply := .answer ⟨200, [], Utf8.ofString "\x7b\"data\": ", .cut⟩

theorem accepted_dbRead : AllAccepted dbRead.names :=
  Argument.allAccepted_keyNames.2 ⟨⟨"kv", rfl⟩, "db", rfl⟩

/-- The read can be sent, whatever the replies to it. -/
theorem canSend_dbRead {q : Request} (hq : (dbRead.call localService).plan.request? = some q)
    (replies : List Wire.Reply) : ∃ u, localTransport.CanSend q u (awaiting replies).state := by
  have hurl :
      ((dbRead.call localService).plan.request?.bind localTransport.url?).isSome = true := by
    decide +kernel
  rw [hq, Option.bind_some] at hurl
  obtain ⟨u, hu⟩ := Option.isSome_iff_exists.1 hurl
  exact ⟨u, hu, (Credential.tokenHeader, "t"), rfl, by decide⟩

/-- A read that is led elsewhere and gets no answer there in time fails, and may be tried again. -/
theorem act_breaksOff_silent :
    localTransport.client.TellsKinds ∧ AllAccepted dbRead.names ∧ ¬ dbRead.IsEmptyWrite ∧
      ∃ q u b, (dbRead.call localService).plan.request? = some q ∧
        localTransport.CanSend q u (awaiting movedThenSilent).state ∧
        localTransport.BreaksOff q u (awaiting movedThenSilent).state.peer b ∧
        (localService.act (localTransport.backend Numeral.decimal) dbRead
          (awaiting movedThenSilent)).1 = .error .timeout ∧
        Error.timeout.IsUnavailable := by
  have hkinds : localTransport.client.TellsKinds := Wire.Standard.tellsKinds_client _ _
  obtain ⟨q, hq, hfails⟩ :=
    act_breaksOff localService Numeral.decimal hkinds dbRead accepted_dbRead id
  obtain ⟨u, hsend⟩ := canSend_dbRead hq movedThenSilent
  obtain ⟨hop, hled⟩ : ∃ hop, localTransport.client.next (Transport.setup localTransport.config) u
      (Transport.method q.operation) 307
      [("location", Utf8.ofString "http://127.0.0.1:8200/v1/new")] = .follow hop := ⟨_, rfl⟩
  have hpeer : localTransport.BreaksOff q u (awaiting movedThenSilent).state.peer
      (.silent hop.url) := .led hled .silent
  obtain ⟨e, hact, rfl, havailable, -⟩ := hfails (awaiting movedThenSilent) u _ hsend hpeer
  exact ⟨hkinds, accepted_dbRead, id, q, u, _, hq, hsend, hpeer, hact, havailable.2 (by simp)⟩

/-- A read whose answer is cut short is said to have found something that cannot be read, and not to
be worth another try. -/
theorem act_dbRead_of_cutReply :
    ∃ q u, (dbRead.call localService).plan.request? = some q ∧
      localTransport.CanSend q u (awaiting [cutReply]).state ∧
      localTransport.BreaksOff q u (awaiting [cutReply]).state.peer .cut ∧
      (localService.act (localTransport.backend Numeral.decimal) dbRead (awaiting [cutReply])).1 =
        .error (.deserialize "error decoding response body") ∧
      (Error.deserialize "error decoding response body").kind = .deserialize ∧
      (Error.deserialize "error decoding response body").isRetryable = false := by
  obtain ⟨q, hq⟩ := (Action.isExchange_call localService dbRead accepted_dbRead id).exists_request
  obtain ⟨u, hsend⟩ := canSend_dbRead hq [cutReply]
  have hpeer : localTransport.BreaksOff q u (awaiting [cutReply]).state.peer .cut :=
    .cut rfl (by decide) rfl
  exact ⟨q, u, hq, hsend, hpeer, act_of_breaksOff localService Numeral.decimal hq hsend hpeer, rfl,
    rfl⟩

end Service
end Strongbox
