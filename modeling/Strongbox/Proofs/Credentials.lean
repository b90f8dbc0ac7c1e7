/-
Credentials over a whole run.

Everything that clients of one configuration ask for goes through one exchange of the transport,
which takes the next token before anything else.  So the tokens are counted by the requests:
`Credential.tokenAt` is the token of a request by its number, `Transport.Exchanged` tells how the
exchange of that number goes, and `Transport.Carried` what all exchanges so far have left behind.

The message of a request shows its token.  Where an answer leads elsewhere, the client makes the
message that follows, and it leaves the authorization out where that goes to another server
(`Wire.Client.Guards`).  So a token that is sent as a bearer's is missing from there on.

* `Credential.supplyAfter_rotating` — each request takes one token, until one is left;
* `Credential.header_supplyAfter` — the header of a request has the token of its number;
* `Transport.carries_message` — a message has its token in one header, and the namespace in one;
* `Transport.Bears.shows` — and what the messages that follow it have;
* `Transport.Carried.exchanged` — so it is with every exchange;
* `Service.carried_run` — and with every run of operations and bare requests.
-/
import Strongbox.Proofs.Replies
import Strongbox.Proofs.Validation
import Mathlib.Data.List.Forall2

namespace Strongbox

/-! ### The tokens of a source -/

/-- Is the token sent as that of a bearer? -/
def Credential.isBearer : Credential → Bool
  | .bearer _ => true
  | _ => false

/-- The token for a request, by its number, unless there is none to give.  A source that rotates
stays at its last one. -/
def Credential.tokenAt (c : Credential) (n : Nat) : Option String :=
  match c with
  | .token t => some t
  | .bearer t => some t
  | .source (.fixed t) => some t
  | .source (.rotating tokens) => (tokens[min n (tokens.length - 1)]?).join

/-- The header that shows a token, and its value. -/
def Credential.headerOf (c : Credential) (token : String) : String × String :=
  if c.isBearer then (bearerHeader, "Bearer " ++ token) else (tokenHeader, token)

theorem Supply.next_cons_of_ne_nil (t : Option String) {rest : Supply} (h : rest ≠ []) :
    Supply.next (t :: rest) = (t, rest) := by
  cases rest with
  | nil => exact absurd rfl h
  | cons u rest => rfl

/-- The next token of a source that has been asked before. -/
theorem Supply.next_drop (tokens : Supply) (n : Nat) :
    Supply.next (tokens.drop (min n (tokens.length - 1))) =
      ((tokens[min n (tokens.length - 1)]?).join,
        tokens.drop (min (n + 1) (tokens.length - 1))) := by
  by_cases hnil : tokens = []
  · subst hnil
    simp [Supply.next]
  · have hpos : 0 < tokens.length := List.length_pos_iff.2 hnil
    have hk : min n (tokens.length - 1) < tokens.length := by omega
    rw [List.drop_eq_getElem_cons hk, List.getElem?_eq_getElem hk]
    by_cases hlast : n < tokens.length - 1
    · have hmin : min n (tokens.length - 1) = n := Nat.min_eq_left hlast.le
      have hmin' : min (n + 1) (tokens.length - 1) = n + 1 := Nat.min_eq_left hlast
      have hrest : tokens.drop (min n (tokens.length - 1) + 1) ≠ [] := by
        rw [Ne, List.drop_eq_nil_iff]
        omega
      rw [next_cons_of_ne_nil _ hrest]
      simp only [hmin, hmin', Option.join_some]
    · -- the last token stays
      have hmin : min n (tokens.length - 1) = tokens.length - 1 := by omega
      have hmin' : min (n + 1) (tokens.length - 1) = tokens.length - 1 := by omega
      have hrest : tokens.drop (tokens.length - 1 + 1) = [] := by
        rw [List.drop_eq_nil_iff]
        omega
      simp only [hmin, hmin', hrest, Option.join_some]
      rw [List.drop_eq_getElem_cons (by omega), hrest]
      rfl

namespace Credential

/-- What a source that rotates gives, and what it keeps. -/
theorem header_rotating (tokens s : Supply) :
    (Credential.source (.rotating tokens)).header s =
      ((s.next.1.map fun t => (tokenHeader, t)).elim (.error noToken) .ok, s.next.2) := by
  rw [header]
  rcases s.next with ⟨_ | t, rest⟩ <;> rfl

/-- A source that rotates gives one token for each request, and keeps the last one. -/
theorem supplyAfter_rotating (tokens : Supply) (n : Nat) :
    (Credential.source (.rotating tokens)).supplyAfter n =
      tokens.drop (min n (tokens.length - 1)) := by
  induction n with
  | zero =>
    rw [Nat.zero_min, List.drop_zero]
    rfl
  | succ n ih => rw [supplyAfter, ih, header_rotating, Supply.next_drop]

/-- The header of a request shows the token of its number. -/
theorem header_supplyAfter (c : Credential) (n : Nat) :
    (c.header (c.supplyAfter n)).1 =
      ((c.tokenAt n).map c.headerOf).elim (.error noToken) .ok := by
  cases c with
  | token t => rfl
  | bearer t => rfl
  | source source =>
    cases source with
    | fixed t => rfl
    | rotating tokens => rw [supplyAfter_rotating, header_rotating, Supply.next_drop]; rfl

end Credential

/-! ### Messages that show their token -/

namespace Transport

/-- Does a message show the token in one header, by the kind of the credential, and the namespace,
if there is one, in one more? -/
structure Carries (t : Transport) (token : String) (m : Wire.Message) : Prop where
  plain : m.values "x-vault-token" = if t.config.credential.isBearer then [] else [token]
  bearer : m.values "authorization" =
    if t.config.credential.isBearer then ["Bearer " ++ token] else []
  nameSpace : m.values "x-vault-namespace" = t.config.nameSpace.toList

variable {t : Transport}

/-- The names of headers that show who sends a message. -/
def identityNames : List String := ["x-vault-token", "authorization", "x-vault-namespace"]

/-- The header of a message with such a name is its credential, or the namespace. -/
theorem values_message {name : String} (hname : name ∈ identityNames) {header value : String}
    (hheader : headerName header ≠ "x-vault-namespace") (q : Request) (u : Url)
    (id : String) :
    (t.message q u id (header, value)).values name =
      (if headerName header = name then some value
        else if "x-vault-namespace" = name then t.config.nameSpace else none).toList := by
  have hfixed : [("x-request-id", id), ("accept", "application/json"),
      ("accept-encoding", "gzip,br"), ("user-agent", userAgent t.config)].filter
        (·.1 == name) = [] :=
    Wire.Header.filter_eq_nil hname (by simp [identityNames])
  have hbody : (bodyHeaders q.body).filter (·.1 == name) = [] :=
    Wire.Header.filter_eq_nil hname (by cases q.body <;> simp [bodyHeaders, identityNames])
  have hspace : headerName namespaceHeader = "x-vault-namespace" := by decide
  have hlist : [("x-request-id", id), ("accept", "application/json"),
      ("accept-encoding", "gzip,br"), ("user-agent", userAgent t.config),
      (headerName header, value)] =
    [("x-request-id", id), ("accept", "application/json"), ("accept-encoding", "gzip,br"),
      ("user-agent", userAgent t.config)] ++ [(headerName header, value)] := rfl
  show ((Wire.Header.sort _).filter _).map _ = _
  rw [Wire.Header.filter_sort, List.filter_append, List.filter_append, hbody, List.append_nil,
    hlist, List.filter_append, hfixed, List.nil_append, List.map_append, hspace]
  -- the namespace does not share its name with the credential
  by_cases hc : headerName header = name
  · have hne : "x-vault-namespace" ≠ name := fun h => hheader (hc.trans h.symm)
    cases t.config.nameSpace <;> simp [hc, hne]
  · by_cases hn : "x-vault-namespace" = name
    · cases t.config.nameSpace <;> simp [hc, hn]
    · cases t.config.nameSpace <;> simp [hc, hn]

/-- A message with the header of a token shows it. -/
theorem carries_message (t : Transport) (q : Request) (u : Url) (id token : String) :
    t.Carries token (t.message q u id (t.config.credential.headerOf token)) := by
  have hplain : headerName Credential.tokenHeader = "x-vault-token" := by decide
  have hbearer : headerName Credential.bearerHeader = "authorization" := by decide
  cases hkind : t.config.credential.isBearer with
  | true =>
    have hne : headerName Credential.bearerHeader ≠ "x-vault-namespace" := by decide
    rw [Credential.headerOf, hkind, if_pos rfl]
    constructor
    · rw [values_message (by decide) hne, hbearer, hkind]
      simp
    · rw [values_message (by decide) hne, hbearer, hkind]
      simp
    · rw [values_message (by decide) hne, hbearer]
      simp
  | false =>
    have hne : headerName Credential.tokenHeader ≠ "x-vault-namespace" := by decide
    rw [Credential.headerOf, hkind, if_neg Bool.false_ne_true]
    constructor
    · rw [values_message (by decide) hne, hplain, hkind]
      simp
    · rw [values_message (by decide) hne, hplain, hkind]
      simp
    · rw [values_message (by decide) hne, hplain]
      simp

/-! ### Messages that follow -/

/-- The message of an exchange shows the token, and those that follow are made of it. -/
structure Bears (t : Transport) (token : String) (trail : Wire.Trail) : Prop where
  first : t.Carries token trail.message
  chain : t.client.Leads (setup t.config) trail.url trail.message trail.followed

/-- Do the messages of an exchange show the token, and the namespace?  The first one does, and so do
those that follow; but the token of a bearer is there only as long as all of them have gone to the
server of the first one. -/
structure Shows (t : Transport) (token : String) (trail : Wire.Trail) : Prop where
  first : t.Carries token trail.message
  followed : ∀ (before after : List (Url × Wire.Message)) (v : Url) (m : Wire.Message),
    trail.followed = before ++ (v, m) :: after →
      m.values "x-vault-token" = (if t.config.credential.isBearer then [] else [token]) ∧
      m.values "authorization" =
        (if t.config.credential.isBearer &&
            (before.map Prod.fst ++ [v]).all trail.url.isAtServerOf then ["Bearer " ++ token]
          else []) ∧
      m.values "x-vault-namespace" = t.config.nameSpace.toList

/-- Along a chain the headers of the token and of the namespace are kept. -/
theorem values_of_leads (hguards : t.client.Guards) {u : Url} {m : Wire.Message}
    {followed : List (Url × Wire.Message)} (h : t.client.Leads (setup t.config) u m followed) :
    ∀ f ∈ followed, f.2.values "x-vault-token" = m.values "x-vault-token" ∧
      f.2.values "x-vault-namespace" = m.values "x-vault-namespace" := by
  refine h.forall_mem (P := fun _ m' => m'.values "x-vault-token" = m.values "x-vault-token" ∧
    m'.values "x-vault-namespace" = m.values "x-vault-namespace") ⟨rfl, rfl⟩ ?_
  intro u m' status headers hop hnext hm'
  obtain ⟨htoken, hspace⟩ := hguards.keeps hnext
  rw [hop.values_message m' (by decide), hop.values_message m' (by decide), if_neg htoken,
    if_neg hspace]
  exact hm'

/-- Along a chain from `u` on the authorization is kept as long as it stays at the server of
`first`, if it has been `kept` until then. -/
theorem authorization_of_leads (hguards : t.client.Guards) {first u : Url} {m : Wire.Message}
    {value : List String} {kept : Bool} {followed : List (Url × Wire.Message)}
    (h : t.client.Leads (setup t.config) u m followed)
    (hm : m.values "authorization" = if kept then value else [])
    (hu : kept = true → ∀ w, first.isAtServerOf w = u.isAtServerOf w)
    (before after : List (Url × Wire.Message)) (v : Url) (m' : Wire.Message)
    (hfollowed : followed = before ++ (v, m') :: after) :
    m'.values "authorization" =
      if kept && (before.map Prod.fst ++ [v]).all first.isAtServerOf then value else [] := by
  induction h generalizing kept before with
  | done => exact absurd hfollowed (by simp)
  | @hop u m status headers hop rest hnext _ ih =>
    -- whether it is kept by the step
    have hstep : (hop.message m).values "authorization" =
        if kept && first.isAtServerOf hop.url then value else [] := by
      rw [hop.values_message m (by decide), hm]
      have hdropped := hguards.authorization hnext
      cases hkept : kept with
      | false => simp
      | true =>
        rw [hu hkept hop.url]
        cases hserver : u.isAtServerOf hop.url <;> simp [hdropped, hserver]
    cases before with
    | nil =>
      obtain ⟨hhead, -⟩ := List.cons.inj hfollowed
      obtain ⟨rfl, rfl⟩ := Prod.mk.inj hhead
      rw [hstep]
      simp
    | cons f before =>
      obtain ⟨rfl, hrest⟩ := List.cons.inj hfollowed
      have hserver : (kept && first.isAtServerOf hop.url) = true →
          ∀ w, first.isAtServerOf w = hop.url.isAtServerOf w := by
        intro hboth
        rw [Bool.and_eq_true] at hboth
        exact Url.isAtServerOf_congr hboth.2
      rw [ih hstep hserver before hrest, List.map_cons, List.cons_append, List.all_cons,
        Bool.and_assoc]

/-- Messages made of one that shows the token show it, and the namespace. -/
theorem Bears.shows (hguards : t.client.Guards) {token : String} {trail : Wire.Trail}
    (h : t.Bears token trail) : t.Shows token trail := by
  refine ⟨h.first, fun before after v m hfollowed => ?_⟩
  have hmem : (v, m) ∈ trail.followed := by simp [hfollowed]
  obtain ⟨htoken, hspace⟩ := values_of_leads hguards h.chain _ hmem
  refine ⟨htoken.trans h.first.plain, ?_, hspace.trans h.first.nameSpace⟩
  exact authorization_of_leads hguards h.chain h.first.bearer (fun _ _ => rfl) before after v m
    hfollowed

/-! ### Exchanges -/

/-- How the exchange with the number `n` goes.  If there is no token, nothing is sent and no reply
is taken; else a message may be sent, and it shows the token. -/
inductive Exchanged (t : Transport) (n : Nat) (s s' : State) (answer : Result Response) : Prop
  | noToken (hnone : t.config.credential.tokenAt n = none)
    (hanswer : answer = .error (.config "Failed to get auth header: no token available"))
    (hpeer : s'.peer = s.peer) (htrails : s'.trails = s.trails)
  | unsent {token : String} (hsome : t.config.credential.tokenAt n = some token)
    (hpeer : s'.peer = s.peer ∨ s.peer.take = (.refused, s'.peer)) (htrails : s'.trails = s.trails)
  | sent {token : String} {trail : Wire.Trail}
    (hsome : t.config.credential.tokenAt n = some token) (htrail : t.Bears token trail)
    (htrails : s'.trails = s.trails ++ [trail])

/-- The state after a number of exchanges: each of them has taken one token, and the messages that
were sent show the tokens of their exchanges, in this order. -/
structure Carried (t : Transport) (n : Nat) (s : State) : Prop where
  supply : s.supply = t.config.credential.supplyAfter n
  requests : s.requests = n
  sent : ∃ numbers : List Nat, numbers.Sublist (List.range n) ∧
    List.Forall₂ (fun k trail => ∃ token, t.config.credential.tokenAt k = some token ∧
      t.Bears token trail) numbers s.trails

theorem carried_fresh (t : Transport) (peer : Wire.Peer) : t.Carried 0 (.fresh t peer) :=
  ⟨rfl, rfl, [], .slnil, .nil⟩

variable {n : Nat} {s s' : State}

/-- Another end of the wire is of no account. -/
theorem Carried.turn (h : t.Carried n s) (peer : Wire.Peer) : t.Carried n { s with peer } :=
  ⟨h.supply, h.requests, h.sent⟩

/-- One more exchange, which has taken its token. -/
theorem Carried.succ (h : t.Carried n s) {answer : Result Response}
    (hexchanged : t.Exchanged n s s' answer)
    (hsupply : s'.supply = t.config.credential.supplyAfter (n + 1))
    (hrequests : s'.requests = n + 1) : t.Carried (n + 1) s' := by
  obtain ⟨numbers, hnumbers, hshown⟩ := h.sent
  -- the messages so far have the numbers that they had
  have hnumbers' : numbers.Sublist (List.range (n + 1)) := by
    rw [List.range_succ]
    exact hnumbers.trans (List.sublist_append_left _ _)
  refine ⟨hsupply, hrequests, ?_⟩
  cases hexchanged with
  | noToken _ _ _ htrails => exact ⟨numbers, hnumbers', htrails ▸ hshown⟩
  | unsent _ _ htrails => exact ⟨numbers, hnumbers', htrails ▸ hshown⟩
  | @sent token trail hsome htrail htrails =>
    refine ⟨numbers ++ [n], ?_, ?_⟩
    · rw [List.range_succ]
      exact hnumbers.append (.refl _)
    · rw [htrails]
      exact List.rel_append hshown (.cons ⟨token, hsome, htrail⟩ .nil)

/-- An exchange takes the token of its number before anything else, and fails without one. -/
theorem Carried.execute_noToken (h : t.Carried n s) (hnone : t.config.credential.tokenAt n = none)
    (ids : Nat → String) (q : Request) :
    t.execute ids q s = (.error Credential.noToken,
      ⟨t.config.credential.supplyAfter (n + 1), s.peer, s.trails, n + 1⟩) := by
  have hheader := t.config.credential.header_supplyAfter n
  rw [hnone] at hheader
  rw [execute, h.supply, h.requests, ← Prod.eta (t.config.credential.header _), hheader]
  rfl

/-- An exchange with a token sends its header. -/
theorem Carried.execute_token (h : t.Carried n s) {token : String}
    (hsome : t.config.credential.tokenAt n = some token) (ids : Nat → String) (q : Request) :
    t.execute ids q s = t.send (ids n) (t.config.credential.headerOf token) q
      ⟨t.config.credential.supplyAfter (n + 1), s.peer, s.trails, n + 1⟩ := by
  have hheader := t.config.credential.header_supplyAfter n
  rw [hsome] at hheader
  rw [execute, h.supply, h.requests, ← Prod.eta (t.config.credential.header _), hheader]
  rfl

/-- An exchange takes the token of its number, whatever comes of it. -/
theorem Carried.exchanged (h : t.Carried n s) (ids : Nat → String) (q : Request) :
    t.Exchanged n s (t.execute ids q s).2 (t.execute ids q s).1 ∧
      (t.execute ids q s).2.supply = t.config.credential.supplyAfter (n + 1) ∧
      (t.execute ids q s).2.requests = n + 1 := by
  cases htoken : t.config.credential.tokenAt n with
  | none =>
    rw [h.execute_noToken htoken]
    exact ⟨.noToken htoken rfl rfl rfl, rfl, rfl⟩
  | some token =>
    rw [h.execute_token htoken]
    rcases t.send_cases (ids n) (t.config.credential.headerOf token) q
      ⟨t.config.credential.supplyAfter (n + 1), s.peer, s.trails, n + 1⟩ with
      ⟨peer, hpeer, hsend⟩ | ⟨u, peer, followed, -, hleads, hsend⟩
    · rw [hsend]
      exact ⟨.unsent htoken hpeer rfl, rfl, rfl⟩
    · rw [hsend]
      exact ⟨.sent htoken ⟨t.carries_message q u (ids n) token, hleads⟩ rfl, rfl, rfl⟩

theorem Carried.execute (h : t.Carried n s) (ids : Nat → String) (q : Request) :
    t.Carried (n + 1) (t.execute ids q s).2 := by
  obtain ⟨hexchanged, hsupply, hrequests⟩ := h.exchanged ids q
  exact h.succ hexchanged hsupply hrequests

end Transport

/-! ### Whole runs -/

/-- What happens to the clients of one configuration: an operation of a service over HTTP, or of one
of its copies, a request that is handed to the transport itself, and another end of the wire. -/
inductive Service.Event : Type → Type 1 where
  | operation {α : Type} (a : Service.Action α) : Event α
  | exchange (q : Request) : Event Response
  | turn (peer : Wire.Peer) : Event Unit

namespace Service

open Argument (AllAccepted RejectedFor)

/-- The request that is made of an event. -/
def Event.request? (s : Service) {α : Type} : Service.Event α → Option Request
  | .operation a => (a.call s).plan.request?
  | .exchange q => some q
  | .turn _ => none

variable (s : Service) (t : Transport) (ids : Nat → String)

/-- What an event leads to. -/
def meet {α : Type} (e : Service.Event α) (session : Session Transport.State) :
    Result α × Session Transport.State :=
  match e with
  | .operation a => s.act (t.backend ids) a session
  | .exchange q => (Call.direct (.exchange q .ok)).run (t.backend ids) session
  | .turn peer => (.ok (), { session with state := { session.state with peer } })

/-- The number of requests that were made. -/
def asked (history : History Service.Event) : Nat :=
  (history.flatMap fun e => (e.2.request? s).toList).length

/-- The session after these events. -/
def after (peer : Wire.Peer) (history : History Service.Event) : Session Transport.State :=
  (History.run (s.meet t ids) history (.fresh (.fresh t peer))).2

variable {s}

/-- An event with a request is one exchange, and what fails there fails. -/
theorem meet_of_request {α : Type} {e : Service.Event α} {q : Request} (h : e.request? s = some q)
    (session : Session Transport.State) :
    (s.meet t ids e session).2.state = (t.execute ids q session.state).2 ∧
      ∀ error, (t.execute ids q session.state).1 = .error error →
        (s.meet t ids e session).1 = .error error := by
  cases e with
  | operation a =>
    rw [meet, act, Call.run]
    rw [Event.request?] at h
    cases hplan : (a.call s).plan with
    | settled r =>
      rw [hplan] at h
      exact absurd h.symm (Option.some_ne_none q)
    | exchange q' finish =>
      rw [hplan] at h
      obtain rfl : q' = q := Option.some_inj.1 h
      refine ⟨rfl, fun error herror => ?_⟩
      show (t.execute ids q' session.state).1.bind finish = .error error
      rw [herror]
      rfl
  | exchange q' =>
    obtain rfl : q' = q := Option.some_inj.1 h
    refine ⟨rfl, fun error herror => ?_⟩
    show (t.execute ids q' session.state).1.bind .ok = .error error
    rw [herror]
    rfl
  | turn peer => exact absurd h.symm (Option.some_ne_none q)

variable {t ids}

/-- An event takes one token if a request is made of it, and else none. -/
theorem carried_meet {α : Type} {e : Service.Event α} {n : Nat} {session : Session Transport.State}
    (h : t.Carried n session.state) :
    t.Carried (n + (e.request? s).toList.length) (s.meet t ids e session).2.state := by
  cases hq : e.request? s with
  | some q =>
    rw [(meet_of_request t ids hq session).1]
    exact h.execute ids q
  | none =>
    cases e with
    | operation a =>
      rw [meet, act, Call.run]
      rw [Event.request?] at hq
      cases hplan : (a.call s).plan with
      | settled r => exact h
      | exchange q finish =>
        rw [hplan] at hq
        exact absurd hq (Option.some_ne_none q)
    | exchange q => exact absurd hq (Option.some_ne_none q)
    | turn peer => exact h.turn peer

theorem carried_after (s : Service) (t : Transport) (ids : Nat → String) (peer : Wire.Peer)
    (history : History Service.Event) :
    t.Carried (s.asked history) (s.after t ids peer history).state := by
  induction history using List.reverseRecOn with
  | nil => exact t.carried_fresh peer
  | append_singleton history e ih =>
    rw [after, History.run_concat_snd, asked, List.flatMap_append, List.length_append,
      List.flatMap_singleton]
    exact carried_meet ih

/-- **Every exchange takes one token and shows it.**  After any run of operations of a service and
its copies, of requests that are handed to the transport itself, and of changes at the other end of
the wire, one token has been taken for each request, and every message that was sent shows the token
of its request in one header, and the namespace, if there is one, in one more.  So does every
message that follows it, unless the token is that of a bearer and the message is for another server,
or comes after one that was: then it has no credential.  What comes next takes the token of its
number, and without a token it fails and sends nothing; an operation with a rejected name and a
write of an empty map take none. -/
theorem carried_run (s : Service) {t : Transport} (hguards : t.client.Guards) (ids : Nat → String)
    (peer : Wire.Peer) (history : History Service.Event) :
    t.Carried (s.asked history) (s.after t ids peer history).state ∧
    (∀ token trail, t.Bears token trail → t.Shows token trail) ∧
    (∀ tokens, t.config.credential = .source (.rotating tokens) →
      (s.after t ids peer history).state.supply =
          tokens.drop (min (s.asked history) (tokens.length - 1)) ∧
        ∀ k < tokens.length, t.config.credential.tokenAt k = tokens[k]?.join) ∧
    (∀ {α : Type} (e : Service.Event α) (q : Request), e.request? s = some q →
      ∃ answer, t.Exchanged (s.asked history) (s.after t ids peer history).state
          (s.meet t ids e (s.after t ids peer history)).2.state answer ∧
        ∀ error, answer = .error error →
          (s.meet t ids e (s.after t ids peer history)).1 = .error error) ∧
    (∀ {α : Type} (a : Service.Action α), AllAccepted a.names → ¬ a.IsEmptyWrite →
      ∃ q, (Event.operation a).request? s = some q) ∧
    ∀ {α : Type} (a : Service.Action α),
      (∃ fault, RejectedFor a.names fault) ∨ (AllAccepted a.names ∧ a.IsEmptyWrite) →
        (s.meet t ids (.operation a) (s.after t ids peer history)).2 =
          s.after t ids peer history := by
  have hcarried := carried_after s t ids peer history
  refine ⟨hcarried, fun _ _ => Transport.Bears.shows hguards,
    fun tokens htokens => ⟨?_, fun k hk => ?_⟩, fun e q hq => ?_, fun a h hne => ?_,
    fun a h => ?_⟩
  · rw [hcarried.supply, htokens, Credential.supplyAfter_rotating]
  · rw [htokens, Credential.tokenAt, Nat.min_eq_left (Nat.le_sub_one_of_lt hk)]
  · obtain ⟨hstate, herror⟩ := meet_of_request t ids hq (s.after t ids peer history)
    refine ⟨_, ?_, herror⟩
    rw [hstate]
    exact (hcarried.exchanged ids q).1
  · exact (Action.isExchange_call s a h hne).exists_request
  · obtain ⟨r, hsettled⟩ : ∃ r, a.call s = Call.settled r := by
      rcases h with hrejected | ⟨haccepted, hempty⟩
      · obtain ⟨fault, -, hcall⟩ := Action.call_rejected s a hrejected
        exact ⟨_, hcall⟩
      · exact Action.call_emptyWrite s haccepted hempty
    rw [meet, act_of_settled s (t.backend ids) hsettled]

open Wire.Standard (bare)

/-- A configuration whose second token cannot be had. -/
def rotatingConfig : Config :=
  localSettings.configWith (.source (.rotating [some "a", none, some "b"])) "transit"

/-- A configuration whose token is that of a bearer. -/
def bearerConfig : Config := localSettings.configWith (.bearer "t") "transit"

/-- A read. -/
def oneRead : History Service.Event := [⟨_, .operation (.secret (.read "kv" "db"))⟩]

/-- An answer that leads to another server. -/
def moved : Wire.Reply :=
  .answer ⟨307, [("location", Utf8.ofString "https://other.example.com/v1/x")], [], .complete⟩

/-- A read that is led to another server, with a token that is none of a bearer: both messages show
it.  After the read, a request that is handed to the transport itself has no token; a read below a
mount that leaves its place takes none. -/
theorem carried_run_rotating :
    ∃ (s : Service) (t : Transport), connect bare rotatingConfig = .ok (s, t) ∧
      t.client.Guards ∧ s.asked oneRead = 1 ∧
      (∃ trail v m,
        (s.after t Numeral.decimal (.listening [moved]) oneRead).state.trails = [trail] ∧
          trail.followed = [(v, m)] ∧ t.Carries "a" trail.message ∧
          m.values "x-vault-token" = ["a"] ∧ m.values "authorization" = []) ∧
      (t.config.credential = .source (.rotating [some "a", none, some "b"]) ∧
        (s.after t Numeral.decimal (.listening [moved]) oneRead).state.supply =
          [none, some "b"] ∧
        t.config.credential.tokenAt 1 = none) ∧
      ((Event.exchange (.read "sys/health")).request? s = some (.read "sys/health") ∧
        ∃ answer, t.Exchanged 1 (s.after t Numeral.decimal (.listening [moved]) oneRead).state
            (s.meet t Numeral.decimal (.exchange (.read "sys/health"))
              (s.after t Numeral.decimal (.listening [moved]) oneRead)).2.state answer ∧
          ∀ error, answer = .error error →
            (s.meet t Numeral.decimal (.exchange (.read "sys/health"))
              (s.after t Numeral.decimal (.listening [moved]) oneRead)).1 = .error error) ∧
      (AllAccepted (Action.encrypt "k" []).names ∧ ¬ (Action.encrypt "k" []).IsEmptyWrite ∧
        ∃ q, (Event.operation (.encrypt "k" [])).request? s = some q) ∧
      (∃ fault, RejectedFor (Action.secret (.read ".." "db")).names fault) ∧
        (s.meet t Numeral.decimal (.operation (.secret (.read ".." "db")))
            (s.after t Numeral.decimal (.listening [moved]) oneRead)).2 =
          s.after t Numeral.decimal (.listening [moved]) oneRead := by
  obtain ⟨s, t, hconnect, hlengths⟩ : ∃ s t, connect bare rotatingConfig = .ok (s, t) ∧
      (s.after t Numeral.decimal (.listening [moved]) oneRead).state.trails.map
        (fun trail => trail.followed.length) = [1] := ⟨_, _, rfl, by decide +kernel⟩
  obtain ⟨-, hconfig, hclient⟩ := connect_eq_ok hconnect
  have hcredential : t.config.credential = .source (.rotating [some "a", none, some "b"]) := by
    rw [hconfig]
    rfl
  have hguards : t.client.Guards := hclient ▸ Wire.Standard.guards_client _ _
  have hasked : s.asked oneRead = 1 := rfl
  obtain ⟨hcarried, hshows, htokens, hexchange, haccept, hreject⟩ :=
    carried_run s hguards Numeral.decimal (.listening [moved]) oneRead
  rw [hasked] at hcarried htokens hexchange
  obtain ⟨hsupply, htokenAt⟩ := htokens _ hcredential
  -- the one exchange so far has the number zero, and its token is the first one
  obtain ⟨trail, v, m, htrail, hfollowed, hbears⟩ : ∃ trail v m,
      (s.after t Numeral.decimal (.listening [moved]) oneRead).state.trails = [trail] ∧
        trail.followed = [(v, m)] ∧ t.Bears "a" trail := by
    obtain ⟨numbers, hnumbers, hshown⟩ := hcarried.sent
    obtain ⟨trail, htrail, hlength⟩ := List.map_eq_singleton_iff.1 hlengths
    obtain ⟨⟨v, m⟩, hfollowed⟩ := List.length_eq_one_iff.1 hlength
    rw [htrail] at hshown
    obtain ⟨k, rfl⟩ := List.length_eq_one_iff.1 hshown.length_eq
    obtain rfl : k = 0 := by simpa using hnumbers
    obtain ⟨⟨token, htoken, hbears⟩, -⟩ := List.forall₂_cons.1 hshown
    rw [htokenAt 0 (by decide)] at htoken
    obtain rfl : "a" = token := Option.some_inj.1 htoken
    exact ⟨trail, v, m, htrail, hfollowed, hbears⟩
  have hplain : t.config.credential.isBearer = false := by
    rw [hcredential]
    rfl
  obtain ⟨htoken, hauthorization, -⟩ :=
    (hshows "a" trail hbears).followed [] [] v m hfollowed
  rw [hplain] at htoken hauthorization
  have hkey : AllAccepted (Action.encrypt "k" []).names :=
    Argument.allAccepted_singleton.2 ⟨"k", rfl⟩
  have hrejected : ∃ fault, RejectedFor (Action.secret (.read ".." "db")).names fault :=
    ⟨.dotSegment .mount, _, List.mem_cons_self, rfl⟩
  exact ⟨s, t, hconnect, hguards, hasked,
    ⟨trail, v, m, htrail, hfollowed, hbears.first, htoken, hauthorization⟩,
    ⟨hcredential, hsupply, htokenAt 1 (by decide)⟩,
    ⟨rfl, hexchange (.exchange (.read "sys/health")) _ rfl⟩,
    ⟨hkey, id, haccept _ hkey id⟩, hrejected, hreject _ (.inl hrejected)⟩

/-- A read with the token of a bearer that is led to another server asks there without any
credential. -/
theorem noCredential_of_moved :
    (localSettings.withCredential (.bearer "t")).toConfig = .ok bearerConfig ∧
      ((connect bare bearerConfig).toOption.map fun p =>
        (p.1.after p.2 Numeral.decimal (.listening [moved]) oneRead).state.trails.flatMap
          fun trail => trail.followed.map fun f =>
            (trail.message.values "authorization", String.ofList f.1.text,
              f.2.values "x-vault-token" ++ f.2.values "authorization")) =
        some [(["Bearer t"], "https://other.example.com/v1/x", [])] :=
  ⟨rfl, by decide +kernel⟩

end Service
end Strongbox
