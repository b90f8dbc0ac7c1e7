/-
Tokens out of sight.

Two credentials are alike if they are of one kind and give tokens to the same requests, whatever the
texts of the tokens are.  Of a message that shows a token the header can be masked; what is left
does not depend on the token, and a token decides only whether its header is well formed.  What
follows a message is made of it without a look at its headers, so that it is masked alike.  So the
clients of two configurations whose credentials are alike live through the same events, step by
step, and masked they send the same messages.

* `Credential.Like.isSome_tokenAt` — like credentials have tokens for the same requests;
* `Transport.message_masked` — a masked message is one whose token is the mask;
* `Wire.Client.follow_masked` — and a masked message is followed by masked ones;
* `Transport.Together.execute` — an exchange has the same answer for both clients;
* `Service.run_together` — and so has every event of a whole run;
* `Service.tokens_unseen` — no answer, no display and no message but for its header shows a token.
-/
import Strongbox.Proofs.Credentials
import Mathlib.Data.List.ReduceOption

namespace Strongbox

/-! ### Like credentials -/

namespace Credential

/-- Are two credentials of one kind, and do they have tokens for the same requests? -/
inductive Like : Credential → Credential → Prop
  | token (t u : String) : Like (.token t) (.token u)
  | bearer (t u : String) : Like (.bearer t) (.bearer u)
  | fixed (t u : String) : Like (.source (.fixed t)) (.source (.fixed u))
  | rotating {ts us : Supply}
    (h : ∀ n, ((source (.rotating ts)).tokenAt n).isSome =
      ((source (.rotating us)).tokenAt n).isSome) :
    Like (.source (.rotating ts)) (.source (.rotating us))

/-- The tokens that requests may show. -/
def tokens : Credential → List String
  | .token t => [t]
  | .bearer t => [t]
  | .source (.fixed t) => [t]
  | .source (.rotating ts) => ts.reduceOption

/-- May all tokens stand in a header? -/
def Legal (c : Credential) : Prop := ∀ t ∈ c.tokens, Wire.Header.isValue t = true

/-- What is shown of the source of tokens, if there is one that can be shown. -/
def sourceDisplay? : Credential → Option String
  | .source (.fixed _) => some fixedSourceDisplay
  | _ => none

variable {c k : Credential}

theorem Like.isBearer (h : c.Like k) : k.isBearer = c.isBearer := by
  cases h <;> rfl

theorem Like.display (h : c.Like k) : k.display = c.display := by
  cases h <;> rfl

theorem Like.sourceDisplay? (h : c.Like k) : k.sourceDisplay? = c.sourceDisplay? := by
  cases h <;> rfl

theorem Like.isSome_tokenAt (h : c.Like k) (n : Nat) :
    (k.tokenAt n).isSome = (c.tokenAt n).isSome := by
  cases h with
  | token t u => rfl
  | bearer t u => rfl
  | fixed t u => rfl
  | rotating h => exact (h n).symm

variable {n : Nat} {token : String}

theorem mem_tokens_of_tokenAt (h : c.tokenAt n = some token) : token ∈ c.tokens := by
  cases c with
  | token t => exact List.mem_singleton.2 (Option.some.inj h).symm
  | bearer t => exact List.mem_singleton.2 (Option.some.inj h).symm
  | source source =>
    cases source with
    | fixed t => exact List.mem_singleton.2 (Option.some.inj h).symm
    | rotating ts =>
      exact List.reduceOption_mem_iff.2 (List.mem_of_getElem? (Option.join_eq_some_iff.1 h))

/-- The header of a token is well formed if the token is. -/
theorem isValue_headerOf (h : Wire.Header.isValue token = true) :
    Wire.Header.isValue (c.headerOf token).2 = true := by
  rw [headerOf]
  split
  · have hbearer : Wire.Header.isValue "Bearer " = true := by decide
    rw [Wire.Header.isValue] at h hbearer ⊢
    rw [Utf8.ofString, String.toList_append, Utf8.bytes_append, List.all_append, Bool.and_eq_true]
    exact ⟨hbearer, h⟩
  · exact h

end Credential

/-! ### Masked messages -/

namespace Wire

/-- What stands in the place of a token. -/
def Header.mask : String := "****"

/-- The header without the token that it shows, if it shows one. -/
def Header.masked (h : String × String) : String × String :=
  if h.1 = "x-vault-token" then (h.1, mask)
  else if h.1 = "authorization" then (h.1, "Bearer " ++ mask)
  else h

/-- The message without the token that it shows. -/
def Message.masked (m : Message) : Message := { m with headers := m.headers.map Header.masked }

/-- The messages of an exchange without the token that they show. -/
def Trail.masked (trail : Trail) : Trail where
  url := trail.url
  message := trail.message.masked
  followed := trail.followed.map fun f => (f.1, f.2.masked)

namespace Header

theorem masked_fst (h : String × String) : (masked h).1 = h.1 := by
  rw [masked]
  split
  · rfl
  · split <;> rfl

/-- Headers are put in order by their names alone. -/
theorem insert_map_masked (h : String × String) (hs : List (String × String)) :
    insert (masked h) (hs.map masked) = (insert h hs).map masked := by
  induction hs with
  | nil => rfl
  | cons g hs ih =>
    rw [List.map_cons, insert, insert, masked_fst, masked_fst]
    split
    · rfl
    · rw [ih, List.map_cons]

theorem sort_map_masked (hs : List (String × String)) :
    sort (hs.map masked) = (sort hs).map masked := by
  induction hs with
  | nil => rfl
  | cons h hs ih =>
    rw [List.map_cons, sort, List.foldr_cons, ← sort, ih, insert_map_masked]
    rfl

/-- Of the header of a credential the token is masked, and nothing else. -/
theorem masked_headerOf (c : Credential) (token : String) :
    masked (Transport.headerName (c.headerOf token).1, (c.headerOf token).2) =
      (Transport.headerName (c.headerOf mask).1, (c.headerOf mask).2) := by
  have hplain : Transport.headerName Credential.tokenHeader = "x-vault-token" := by decide
  have hbearer : Transport.headerName Credential.bearerHeader = "authorization" := by decide
  rw [Credential.headerOf, Credential.headerOf]
  cases c.isBearer with
  | true => simp [masked, hbearer]
  | false => simp [masked, hplain]

end Header

/-- The message that follows a masked one is masked. -/
theorem Hop.message_masked (h : Hop) (m : Message) :
    h.message m.masked = (h.message m).masked := by
  have hreferer : (h.referer.toList.map fun r => ("referer", r)).map Header.masked =
      h.referer.toList.map fun r => ("referer", r) := by
    cases h.referer <;> simp [Header.masked]
  have hkept : (m.headers.map Header.masked).filter (fun p => !h.dropped.contains p.1) =
      (m.headers.filter fun p => !h.dropped.contains p.1).map Header.masked := by
    rw [List.filter_map]
    congr 1
    exact List.filter_congr fun p _ => by rw [Function.comp_apply, Header.masked_fst]
  rw [Hop.message, Hop.message, Message.masked, Message.masked, hkept, ← hreferer,
    ← List.map_append, Header.sort_map_masked, hreferer]

namespace Client

variable {c : Client} {setup : Setup} {u : Url} {m m' : Message}

/-- What a reply means does not depend on the headers of the message. -/
theorem turn_masked (reply : Reply) : c.turn setup u m.masked reply = c.turn setup u m reply := by
  cases reply <;> rfl

/-- A masked message has the same course, and is followed by masked ones. -/
theorem follow_masked (setup : Setup) (hops : Nat) (u : Url) (m : Message) (reply : Reply)
    (peer : Peer) :
    c.follow setup hops u m.masked reply peer =
      { c.follow setup hops u m reply peer with
        followed := (c.follow setup hops u m reply peer).followed.map fun f =>
          (f.1, f.2.masked) } := by
  induction hops generalizing u m reply peer with
  | zero =>
    rw [follow, follow, turn_masked]
    cases c.turn setup u m reply <;> rfl
  | succ hops ih =>
    cases hturn : c.turn setup u m reply with
    | ends outcome =>
      rw [follow_of_ends hturn, follow_of_ends ((turn_masked reply).trans hturn)]
      rfl
    | leads hop =>
      rw [follow_of_leads hturn, follow_of_leads ((turn_masked reply).trans hturn),
        Hop.message_masked, ih, List.map_append]
      cases peer.take.1.isReceived <;> rfl

/-- Messages that are the same when they are masked have the same course, and are followed by such
messages again. -/
theorem follow_of_masked_eq (c : Client) (h : m'.masked = m.masked) (setup : Setup) (hops : Nat)
    (u : Url) (reply : Reply) (peer : Peer) :
    (c.follow setup hops u m' reply peer).outcome = (c.follow setup hops u m reply peer).outcome ∧
      (c.follow setup hops u m' reply peer).peer = (c.follow setup hops u m reply peer).peer ∧
      ((c.follow setup hops u m' reply peer).followed.map fun f => (f.1, f.2.masked)) =
        (c.follow setup hops u m reply peer).followed.map fun f => (f.1, f.2.masked) := by
  have hsame := c.follow_masked setup hops u m' reply peer
  rw [h, follow_masked, Course.mk.injEq] at hsame
  exact ⟨hsame.1.symm, hsame.2.2.symm, hsame.2.1.symm⟩

/-- A message that follows shows a token in no more headers than the first one. -/
theorem Leads.length_values {followed : List (Url × Message)}
    (h : c.Leads setup u m followed) {n : Nat}
    (hm : (m.values "x-vault-token" ++ m.values "authorization").length ≤ n) :
    ∀ f ∈ followed, (f.2.values "x-vault-token" ++ f.2.values "authorization").length ≤ n := by
  refine h.forall_mem
    (P := fun _ m => (m.values "x-vault-token" ++ m.values "authorization").length ≤ n) hm ?_
  intro u m status headers hop _ hm
  have hle : ∀ name ≠ "referer", ((hop.message m).values name).length ≤ (m.values name).length := by
    intro name hname
    rw [hop.values_message m hname]
    split
    · exact Nat.zero_le _
    · exact le_rfl
  rw [List.length_append] at hm ⊢
  exact (Nat.add_le_add (hle _ (by decide)) (hle _ (by decide))).trans hm

end Client
end Wire

/-! ### Clients with another credential -/

/-- The configuration with another credential. -/
def Config.withCredential (c : Config) (k : Credential) : Config := { c with credential := k }

/-- The service whose configuration has another credential. -/
def Service.withCredential (s : Service) (k : Credential) : Service :=
  ⟨s.config.withCredential k, s.versioned⟩

namespace Transport

open Wire.Header (mask)

/-- The transport whose configuration has another credential. -/
def withCredential (t : Transport) (k : Credential) : Transport :=
  ⟨t.config.withCredential k, t.client⟩

variable {t : Transport} {k : Credential} {n : Nat} {s s' : State}

/-- A message whose token is masked is one whose token is the mask. -/
theorem message_masked (t : Transport) (q : Request) (u : Url) (id token : String) :
    (t.message q u id (t.config.credential.headerOf token)).masked =
      t.message q u id (t.config.credential.headerOf mask) := by
  have hspace : ((t.config.nameSpace.toList.map fun v => (headerName namespaceHeader, v)).map
      Wire.Header.masked) =
      t.config.nameSpace.toList.map fun v => (headerName namespaceHeader, v) := by
    have hname : headerName namespaceHeader = "x-vault-namespace" := by decide
    rw [hname]
    cases t.config.nameSpace <;> simp [Wire.Header.masked]
  have hbody : (bodyHeaders q.body).map Wire.Header.masked = bodyHeaders q.body := by
    cases q.body <;> simp [bodyHeaders, Wire.Header.masked]
  have hheaders : (t.headers id (t.config.credential.headerOf token) q.body).map
        Wire.Header.masked =
      t.headers id (t.config.credential.headerOf mask) q.body := by
    rw [headers, headers, ← Wire.Header.sort_map_masked, List.map_append, List.map_append, hspace,
      hbody]
    simp only [List.map_cons, List.map_nil, Wire.Header.masked_headerOf]
    simp [Wire.Header.masked]
  rw [message, message, Wire.Message.masked, hheaders]

/-- Masked messages of two clients whose credentials are alike are the same. -/
theorem message_withCredential (hlike : t.config.credential.Like k) (q : Request) (u : Url)
    (id token token' : String) :
    ((t.withCredential k).message q u id (k.headerOf token')).masked =
      (t.message q u id (t.config.credential.headerOf token)).masked := by
  have hheader : k.headerOf mask = t.config.credential.headerOf mask := by
    rw [Credential.headerOf, Credential.headerOf, hlike.isBearer]
  have hmasked : ((t.withCredential k).message q u id (k.headerOf token')).masked =
      (t.withCredential k).message q u id (k.headerOf mask) :=
    (t.withCredential k).message_masked q u id token'
  rw [hmasked, message_masked, hheader]
  rfl

/-- Headers are fit if the namespace is, since the token is. -/
theorem headersFit_headerOf {token : String} (h : Wire.Header.isValue token = true) :
    t.headersFit (t.config.credential.headerOf token) =
      t.config.nameSpace.all Wire.Header.isValue := by
  rw [headersFit, Credential.isValue_headerOf h, Bool.true_and]

/-- Do two exchanges end alike, with the same answer, the same left at the other end of the wire,
and the same messages when they are masked? -/
structure EndAlike (x x' : Result Response × State) : Prop where
  answer : x'.1 = x.1
  peer : x'.2.peer = x.2.peer
  trails : x'.2.trails.map Wire.Trail.masked = x.2.trails.map Wire.Trail.masked

/-- A request with a token is sent, and answered, as it is with another token. -/
theorem send_withCredential (hlike : t.config.credential.Like k) (s s' : State)
    {token token' : String} (htoken : Wire.Header.isValue token = true)
    (htoken' : Wire.Header.isValue token' = true) (hpeer : s'.peer = s.peer)
    (htrails : s'.trails.map Wire.Trail.masked = s.trails.map Wire.Trail.masked) (id : String)
    (q : Request) :
    EndAlike (t.send id (t.config.credential.headerOf token) q s)
      ((t.withCredential k).send id (k.headerOf token') q s') := by
  have htext : (t.withCredential k).urlText q.path = t.urlText q.path := rfl
  have hurl : (t.withCredential k).url? q = t.url? q := by rw [url?, url?, htext]
  have hfit : t.headersFit (t.config.credential.headerOf token) =
      t.config.nameSpace.all Wire.Header.isValue := headersFit_headerOf htoken
  have hfit' : (t.withCredential k).headersFit (k.headerOf token') =
      t.config.nameSpace.all Wire.Header.isValue :=
    headersFit_headerOf (t := t.withCredential k) htoken'
  -- from here on the token is read only by the message
  rw [send, send, hurl, hfit, hfit', hpeer]
  cases t.url? q with
  | none => exact ⟨rfl, hpeer, htrails⟩
  | some u =>
    dsimp only
    cases t.config.nameSpace.all Wire.Header.isValue with
    | false => exact ⟨rfl, hpeer, htrails⟩
    | true =>
      simp only [Bool.not_true, Bool.false_eq_true, if_false]
      have hmasked := message_withCredential hlike q u id token token'
      obtain ⟨houtcome, hleft, hfollowed⟩ := t.client.follow_of_masked_eq hmasked
        (setup t.config) t.client.hopLimit u s.peer.take.1 s.peer.take.2
      refine ⟨?_, hleft, ?_⟩
      · exact congrArg (t.conclude id) houtcome
      · rw [List.map_append, List.map_append, htrails, trail?, trail?]
        cases s.peer.take.1.isReceived with
        | false => rfl
        | true =>
          refine congrArg (s.trails.map Wire.Trail.masked ++ [·]) ?_
          show Wire.Trail.mk u _ _ = Wire.Trail.mk u _ _
          rw [hmasked]
          exact congrArg (Wire.Trail.mk u _) hfollowed

/-- The states of two clients whose credentials are alike, after a number of exchanges. -/
structure Together (t : Transport) (k : Credential) (n : Nat) (s s' : State) : Prop where
  carried : t.Carried n s
  carried' : (t.withCredential k).Carried n s'
  peer : s'.peer = s.peer
  trails : s'.trails.map Wire.Trail.masked = s.trails.map Wire.Trail.masked

theorem together_fresh (t : Transport) (k : Credential) (peer : Wire.Peer) :
    t.Together k 0 (.fresh t peer) (.fresh (t.withCredential k) peer) :=
  ⟨t.carried_fresh peer, (t.withCredential k).carried_fresh peer, rfl, rfl⟩

/-- An exchange has the same answer for both clients. -/
theorem Together.execute (hlike : t.config.credential.Like k)
    (hlegal : t.config.credential.Legal) (hlegal' : k.Legal) (h : t.Together k n s s')
    (ids : Nat → String) (q : Request) :
    ((t.withCredential k).execute ids q s').1 = (t.execute ids q s).1 ∧
      t.Together k (n + 1) (t.execute ids q s).2 ((t.withCredential k).execute ids q s').2 := by
  have halike : EndAlike (t.execute ids q s) ((t.withCredential k).execute ids q s') := by
    -- both have a token for this request, or neither has
    have hsome := hlike.isSome_tokenAt n
    cases htoken : t.config.credential.tokenAt n with
    | none =>
      have htoken' : k.tokenAt n = none := by
        rw [htoken] at hsome
        exact Option.isSome_eq_false_iff.1 hsome |> Option.isNone_iff_eq_none.1
      rw [h.carried.execute_noToken htoken, h.carried'.execute_noToken htoken']
      exact ⟨rfl, h.peer, h.trails⟩
    | some token =>
      obtain ⟨token', htoken'⟩ : ∃ token', k.tokenAt n = some token' := by
        rw [htoken] at hsome
        exact Option.isSome_iff_exists.1 hsome
      have hexecute' : (t.withCredential k).execute ids q s' =
          (t.withCredential k).send (ids n) (k.headerOf token') q
            ⟨k.supplyAfter (n + 1), s'.peer, s'.trails, n + 1⟩ :=
        h.carried'.execute_token htoken' ids q
      rw [h.carried.execute_token htoken, hexecute']
      exact send_withCredential hlike
        ⟨t.config.credential.supplyAfter (n + 1), s.peer, s.trails, n + 1⟩
        ⟨k.supplyAfter (n + 1), s'.peer, s'.trails, n + 1⟩
        (hlegal token (Credential.mem_tokens_of_tokenAt htoken))
        (hlegal' token' (Credential.mem_tokens_of_tokenAt htoken')) h.peer h.trails (ids n) q
  exact ⟨halike.answer, h.carried.execute ids q, h.carried'.execute ids q, halike.peer,
    halike.trails⟩

/-- The sessions of two clients: the same handles, and states that go together. -/
def SessionsTogether (t : Transport) (k : Credential) (session session' : Session State) : Prop :=
  session'.handles = session.handles ∧ ∃ n, t.Together k n session.state session'.state

/-- Whatever is asked for, both clients get the same answer. -/
theorem SessionsTogether.run (hlike : t.config.credential.Like k)
    (hlegal : t.config.credential.Legal) (hlegal' : k.Legal) {session session' : Session State}
    (h : t.SessionsTogether k session session') {α : Type} (c : Call α) (ids : Nat → String) :
    (c.run ((t.withCredential k).backend ids) session').1 = (c.run (t.backend ids) session).1 ∧
      t.SessionsTogether k (c.run (t.backend ids) session).2
        (c.run ((t.withCredential k).backend ids) session').2 := by
  obtain ⟨hhandles, n, htogether⟩ := h
  rw [Call.run, Call.run, hhandles]
  cases c.plan with
  | settled r => exact ⟨rfl, rfl, n, htogether⟩
  | exchange q finish =>
    obtain ⟨hanswer, hnext⟩ := htogether.execute hlike hlegal hlegal' ids q
    exact ⟨congrArg (·.bind finish) hanswer, rfl, n + 1, hnext⟩

end Transport

/-! ### Whole runs -/

namespace Service

variable {s : Service} {t : Transport} {k : Credential} {ids : Nat → String}

/-- What an operation asks for does not depend on the credential. -/
theorem Action.call_withCredential (s : Service) (k : Credential) {α : Type}
    (a : Service.Action α) : a.call (s.withCredential k) = a.call s := by
  cases a <;> rfl

/-- An event leads to the same for both clients. -/
theorem meet_together (hlike : t.config.credential.Like k) (hlegal : t.config.credential.Legal)
    (hlegal' : k.Legal) {session session' : Session Transport.State}
    (h : t.SessionsTogether k session session') {α : Type} (e : Service.Event α) :
    ((s.withCredential k).meet (t.withCredential k) ids e session').1 =
        (s.meet t ids e session).1 ∧
      t.SessionsTogether k (s.meet t ids e session).2
        ((s.withCredential k).meet (t.withCredential k) ids e session').2 := by
  cases e with
  | operation a =>
    rw [meet, meet, act, act, Action.call_withCredential]
    exact h.run hlike hlegal hlegal' (a.call s) ids
  | exchange q => exact h.run hlike hlegal hlegal' (.direct (.exchange q .ok)) ids
  | turn peer =>
    obtain ⟨hhandles, n, htogether⟩ := h
    exact ⟨rfl, hhandles, n, htogether.carried.turn peer, htogether.carried'.turn peer, rfl,
      htogether.trails⟩

/-- The answers to events. -/
def answers (s : Service) (t : Transport) (ids : Nat → String) (peer : Wire.Peer)
    (history : History Service.Event) : List (Σ α, Result α) :=
  (History.run (s.meet t ids) history (.fresh (.fresh t peer))).1

/-- Both clients have the same run. -/
theorem run_together (s : Service) (hlike : t.config.credential.Like k)
    (hlegal : t.config.credential.Legal) (hlegal' : k.Legal) (ids : Nat → String)
    (peer : Wire.Peer) (history : History Service.Event) :
    (s.withCredential k).answers (t.withCredential k) ids peer history =
        s.answers t ids peer history ∧
      t.SessionsTogether k (s.after t ids peer history)
        ((s.withCredential k).after (t.withCredential k) ids peer history) := by
  have hstep : ∀ e ∈ history, ∀ session session', t.SessionsTogether k session session' →
      (s.meet t ids e.2 session).1 =
          ((s.withCredential k).meet (t.withCredential k) ids e.2 session').1 ∧
        t.SessionsTogether k (s.meet t ids e.2 session).2
          ((s.withCredential k).meet (t.withCredential k) ids e.2 session').2 := by
    intro e _ session session' h
    obtain ⟨hanswer, hnext⟩ := meet_together hlike hlegal hlegal' h e.2
    exact ⟨hanswer.symm, hnext⟩
  have hfresh : t.SessionsTogether k (.fresh (.fresh t peer))
      (.fresh (.fresh (t.withCredential k) peer)) := ⟨rfl, 0, t.together_fresh k peer⟩
  obtain ⟨hanswers, hlast⟩ := History.run_related _ _ hstep hfresh
  exact ⟨hanswers.symm, hlast⟩

end Service

/-! ### What is shown -/

/-- What is shown of a configuration. -/
structure Config.Shown where
  address : String
  credential : String
  nameSpace : Option String
  engine : Engine
  transitMount : String
  timeoutMillis : Nat
  userAgentSuffix : Option String
  certificate : Option (List UInt8)
  telemetry : Telemetry
  allowRemoteHttp : Bool

/-- A configuration shows all that it holds, but of its credential only the kind. -/
def Config.shown (c : Config) : Config.Shown where
  address := c.address
  credential := c.credential.display
  nameSpace := c.nameSpace
  engine := c.engine
  transitMount := c.transitMount
  timeoutMillis := c.timeoutMillis
  userAgentSuffix := c.userAgentSuffix
  certificate := c.certificate
  telemetry := c.telemetry
  allowRemoteHttp := c.allowRemoteHttp

theorem Config.shown_withCredential {c : Config} {k : Credential} (h : c.credential.Like k) :
    (c.withCredential k).shown = c.shown := by
  rw [shown, withCredential, h.display]
  rfl

namespace Service

/-- What is shown of a client between two events: its configuration, the source of its tokens, the
service and the transport, and its handles. -/
structure Sight where
  config : Config.Shown
  source : Option String
  service : String
  transport : String
  handles : HandleCache

/-- What is shown of a client with this session. -/
def sight (s : Service) (t : Transport) (session : Session Transport.State) : Sight where
  config := s.config.shown
  source := t.config.credential.sourceDisplay?
  service := s.display session
  transport := t.display
  handles := session.handles

theorem sight_withCredential {s : Service} {t : Transport} {k : Credential}
    (hservice : s.config.credential.Like k) (htransport : t.config.credential.Like k)
    {session session' : Session Transport.State} (h : session'.handles = session.handles) :
    (s.withCredential k).sight (t.withCredential k) session' = s.sight t session := by
  have hconfig : (s.withCredential k).config.shown = s.config.shown :=
    Config.shown_withCredential hservice
  have hsource : (t.withCredential k).config.credential.sourceDisplay? =
      t.config.credential.sourceDisplay? := htransport.sourceDisplay?
  obtain ⟨handles, state⟩ := session'
  obtain rfl : handles = session.handles := h
  have hdisplay : (s.withCredential k).display ⟨session.handles, state⟩ = s.display session := rfl
  have hdisplay' : (t.withCredential k).display = t.display := rfl
  rw [sight, sight, hconfig, hsource, hdisplay, hdisplay']

end Service

/-! ### Two clients -/

/-- A message that shows its token does so in one header. -/
theorem Transport.Carries.one_header {t : Transport} {token : String} {m : Wire.Message}
    (h : t.Carries token m) :
    (m.values "x-vault-token" ++ m.values "authorization").length = 1 := by
  rw [h.plain, h.bearer]
  cases t.config.credential.isBearer <;> simp

namespace Service

/-- Do two clients live through the same events?  They get the same answers, show the same, leave
the other end of the wire in the same state, and have sent the same messages but for the value of
one header, the one that shows the token.  A message that follows another one may be without it. -/
structure Alike (s s' : Service) (t t' : Transport) (ids : Nat → String) (peer : Wire.Peer)
    (history : History Service.Event) : Prop where
  answers : s'.answers t' ids peer history = s.answers t ids peer history
  sight : s'.sight t' (s'.after t' ids peer history) = s.sight t (s.after t ids peer history)
  otherEnd : (s'.after t' ids peer history).state.peer = (s.after t ids peer history).state.peer
  requests : (s'.after t' ids peer history).state.requests =
    (s.after t ids peer history).state.requests
  trails : (s'.after t' ids peer history).state.trails.map Wire.Trail.masked =
    (s.after t ids peer history).state.trails.map Wire.Trail.masked
  oneHeader : ∀ trail ∈ (s.after t ids peer history).state.trails,
    (trail.message.values "x-vault-token" ++ trail.message.values "authorization").length = 1 ∧
      ∀ f ∈ trail.followed, (f.2.values "x-vault-token" ++ f.2.values "authorization").length ≤ 1

/-- The clients of two configurations whose credentials are alike cannot be told apart. -/
theorem alike_withCredential {s : Service} {t : Transport} {k : Credential}
    (hservice : s.config.credential.Like k) (htransport : t.config.credential.Like k)
    (hlegal : t.config.credential.Legal) (hlegal' : k.Legal) (ids : Nat → String)
    (peer : Wire.Peer) (history : History Service.Event) :
    Alike s (s.withCredential k) t (t.withCredential k) ids peer history := by
  obtain ⟨hanswers, hhandles, n, htogether⟩ :=
    run_together s htransport hlegal hlegal' ids peer history
  refine ⟨hanswers, sight_withCredential hservice htransport hhandles, htogether.peer,
    htogether.carried'.requests.trans htogether.carried.requests.symm, htogether.trails,
    fun trail htrail => ?_⟩
  obtain ⟨numbers, -, hshown⟩ := htogether.carried.sent
  have hone : List.Forall₂ (fun (trail : Wire.Trail) (_ : Nat) =>
      (∃ token, t.Bears token trail) ∧ True)
      (s.after t ids peer history).state.trails numbers :=
    hshown.flip.imp fun _ _ ⟨token, _, hbears⟩ => ⟨⟨token, hbears⟩, trivial⟩
  obtain ⟨token, hbears⟩ := ((List.forall₂_and_left _ _).1 hone).1 trail htrail
  exact ⟨hbears.first.one_header, hbears.chain.length_values hbears.first.one_header.le⟩

end Service

/-! ### Where clients come from -/

/-- Settings with another credential make the same configuration with that one, or fail alike. -/
theorem Settings.toConfig_withCredential (s : Settings) (c k : Credential) :
    (s.withCredential k).toConfig =
      (s.withCredential c).toConfig.map (·.withCredential k) := by
  have haddress (k) : (s.withCredential k).trimmedAddress = s.trimmedAddress := rfl
  have hmount (k) : (s.withCredential k).transitMount = s.transitMount := rfl
  have hcredential (k) : (s.withCredential k).credential = some k := rfl
  rw [toConfig, toConfig, haddress, hmount, hcredential, haddress, hmount, hcredential]
  cases parseAddress s.trimmedAddress with
  | error fault => rfl
  | ok u =>
    show (checkUrl u >>= _) = Except.map _ (checkUrl u >>= _)
    cases checkUrl u with
    | error fault => rfl
    | ok _ => cases checkTransitMount s.transitMount <;> rfl

theorem Transport.new_withCredential (client : Wire.Client) (c : Config) (k : Credential) :
    Transport.new client (c.withCredential k) =
      (Transport.new client c).map (·.withCredential k) := by
  have hsetup : setup (c.withCredential k) = setup c := rfl
  have hcertificate : (c.withCredential k).certificate = c.certificate := rfl
  rw [new, new, hsetup, hcertificate]
  cases c.certificate.bind client.rootFault? with
  | some cause => rfl
  | none => cases client.buildFault? (setup c) <;> rfl

namespace Service

theorem new_withCredential (c : Config) (k : Credential) :
    new (c.withCredential k) = (new c).map (·.withCredential k) := by
  have hengine : (c.withCredential k).engine = c.engine := rfl
  by_cases h : c.engine = .versioned
  · rw [new, new, dif_pos h, dif_pos (hengine.trans h)]
    rfl
  · rw [new, new, dif_neg h, dif_neg fun h' => h (hengine.symm.trans h')]
    rfl

theorem connect_withCredential (client : Wire.Client) (c : Config) (k : Credential) :
    connect client (c.withCredential k) =
      (connect client c).map fun p => (p.1.withCredential k, p.2.withCredential k) := by
  rw [connect, connect, new_withCredential, Transport.new_withCredential]
  cases new c with
  | error e => rfl
  | ok s => cases Transport.new client c <;> rfl

/-- **Tokens show nowhere but in their header.**  Take a configuration, and another one that differs
in the texts of its tokens: its credential is of the same kind and has tokens for the same requests,
and all tokens may stand in headers.  Settings that make the one make the other, or fail alike; both
show the same; a service of either does the same over any backend; and over HTTP they fail to
connect alike, or their clients cannot be told apart, whatever happens to them: every answer and
every display is the same, and so are the messages but for the value of one header. -/
theorem tokens_unseen (client : Wire.Client) {c : Config} {k : Credential}
    (hlike : c.credential.Like k) (hlegal : c.credential.Legal) (hlegal' : k.Legal) :
    (∀ s : Settings, Results.Related Eq (fun d d' => d' = d.withCredential k)
      (s.withCredential c.credential).toConfig (s.withCredential k).toConfig) ∧
    (c.withCredential k).shown = c.shown ∧
    Results.Related Eq
      (fun s s' : Service => ∀ {σ α : Type} (b : Backend σ) (a : Service.Action α)
        (session : Session σ), s'.act b a session = s.act b a session)
      (new c) (new (c.withCredential k)) ∧
    Results.Related Eq
      (fun p p' : Service × Transport => ∀ (ids : Nat → String) (peer : Wire.Peer)
        (history : History Service.Event), Alike p.1 p'.1 p.2 p'.2 ids peer history)
      (connect client c) (connect client (c.withCredential k)) := by
  refine ⟨fun s => ?_, Config.shown_withCredential hlike, ?_, ?_⟩
  · rw [s.toConfig_withCredential c.credential k]
    exact .of_map fun _ _ => rfl
  · rw [new_withCredential]
    refine .of_map fun s _ σ α b a session => ?_
    rw [act, act, Action.call_withCredential]
  · rw [connect_withCredential client]
    refine .of_map fun p hconnect ids peer history => ?_
    obtain ⟨hnew, htransport, -⟩ := connect_eq_ok hconnect
    have hservice : p.1.config = c := config_of_new hnew
    exact alike_withCredential (hservice ▸ hlike) (htransport ▸ hlike) (htransport ▸ hlegal) hlegal'
      ids peer history

open Wire.Standard (bare)

/-- A source that rotates among other tokens, and cannot give the second one either. -/
def otherTokens : Credential := .source (.rotating [some "c", none, some "d", some "e"])

/-- A read, a request of the transport itself, which finds no token, and a question for the
health. -/
def readAndAsk : History Service.Event :=
  oneRead ++ [⟨_, .exchange (.read "sys/policy")⟩, ⟨_, .operation .health⟩]

/-- The clients of two sources that rotate, at a server that leads elsewhere and then knows
nothing. -/
theorem tokens_unseen_rotating :
    ∃ s t, connect bare rotatingConfig = .ok (s, t) ∧ rotatingConfig.credential.Like otherTokens ∧
      rotatingConfig.credential.Legal ∧ otherTokens.Legal ∧
      (rotatingConfig.withCredential otherTokens).shown = rotatingConfig.shown ∧
      Alike s (s.withCredential otherTokens) t (t.withCredential otherTokens) Numeral.decimal
        (.listening [moved]) readAndAsk := by
  obtain ⟨s, t, hconnect⟩ : ∃ s t, connect bare rotatingConfig = .ok (s, t) := ⟨_, _, rfl⟩
  have hlike : rotatingConfig.credential.Like otherTokens := by
    refine .rotating fun n => ?_
    rcases n with _ | _ | _ | n <;> simp [Credential.tokenAt]
  have hlegal : rotatingConfig.credential.Legal := by
    show ∀ t ∈ ["a", "b"], Wire.Header.isValue t = true
    decide
  have hlegal' : otherTokens.Legal := by
    show ∀ t ∈ ["c", "d", "e"], Wire.Header.isValue t = true
    decide
  have hconnect' : connect bare (rotatingConfig.withCredential otherTokens) =
      .ok (s.withCredential otherTokens, t.withCredential otherTokens) := by
    rw [connect_withCredential, hconnect]
    rfl
  obtain ⟨-, hshown, -, hclients⟩ := tokens_unseen bare hlike hlegal hlegal'
  rw [hconnect, hconnect'] at hclients
  cases hclients with
  | ok halike => exact ⟨s, t, hconnect, hlike, hlegal, hlegal', hshown, halike _ _ _⟩

end Service
end Strongbox
