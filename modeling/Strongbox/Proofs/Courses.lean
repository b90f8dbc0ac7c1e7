/-
Courses of exchanges.

An exchange starts with one message.  Where an answer leads elsewhere another message follows, made
of the one before it; so the messages of an exchange are a chain (`Client.Leads`), whatever client
sends them.  What is sent with which headers is therefore settled by the first message and by what
a step of the chain does to a header (`Hop.values_message`).

* `Client.follow_of_ends`, `Client.follow_of_leads` — a course by what its first reply means;
* `Client.leads_follow` — the messages that follow are a chain;
* `Client.Leads.forall_mem` — so what a step keeps holds of all of them;
* `Client.IsDirect`, `Client.TellsKinds`, `Client.Guards` — what clients are relied on for.  The
  client of `Wire.Standard` does all of it.
-/
import Strongbox.Wire.Standard
import Strongbox.Wire.Transport
import Mathlib.Data.List.Basic

namespace Strongbox

/-- URLs at one server are at the same servers. -/
theorem Url.isAtServerOf_congr {u v : Url} (h : u.isAtServerOf v = true) (w : Url) :
    u.isAtServerOf w = v.isAtServerOf w := by
  simp only [isAtServerOf, Bool.and_eq_true, beq_iff_eq] at h
  rw [isAtServerOf, isAtServerOf, h.1, h.2]

namespace Wire

/-! ### Headers -/

namespace Header

theorem perm_insert (h : String × String) (headers : List (String × String)) :
    (insert h headers).Perm (h :: headers) := by
  induction headers with
  | nil => exact .refl _
  | cons g rest ih =>
    rw [insert]
    split
    · exact .refl _
    · exact (ih.cons g).trans (.swap h g rest)

/-- Sorted headers are the same headers. -/
theorem perm_sort (headers : List (String × String)) : (sort headers).Perm headers := by
  induction headers with
  | nil => exact .refl _
  | cons h rest ih => exact (perm_insert h (sort rest)).trans (ih.cons h)

/-- A header is put in front of those of its name. -/
theorem filter_insert (name : String) (h : String × String) (headers : List (String × String)) :
    (insert h headers).filter (·.1 == name) = (h :: headers).filter (·.1 == name) := by
  induction headers with
  | nil => rfl
  | cons g rest ih =>
    rw [insert]
    split
    · rfl
    · next hle =>
      -- `g` goes before `h`, so it has another name
      have hne : g.1 ≠ h.1 := fun heq => hle (heq ▸ Std.le_refl _)
      rw [List.filter_cons, ih]
      by_cases hg : g.1 = name
      · have hh : h.1 ≠ name := fun hh => hne (hg.trans hh.symm)
        simp [hg, hh]
      · simp [List.filter_cons, hg]

/-- Headers of one name stay in their order. -/
theorem filter_sort (name : String) (headers : List (String × String)) :
    (sort headers).filter (·.1 == name) = headers.filter (·.1 == name) := by
  induction headers with
  | nil => rfl
  | cons h rest ih =>
    rw [sort, List.foldr_cons, ← sort, filter_insert, List.filter_cons, ih, List.filter_cons]

theorem first?_eq_none_iff {name : String} {headers : List (String × List UInt8)} :
    first? name headers = none ↔ ∀ h ∈ headers, h.1 ≠ name := by
  simp [first?]

/-- Headers of other names have none of the name. -/
theorem filter_eq_nil {names : List String} {name : String} (hname : name ∈ names)
    {headers : List (String × String)} (h : ∀ p ∈ headers, p.1 ∉ names) :
    headers.filter (·.1 == name) = [] := by
  refine List.filter_eq_nil_iff.2 fun p hp heq => h p hp ?_
  rwa [beq_iff_eq.1 heq]

end Header

/-- The values of the headers of a name. -/
def Message.values (m : Message) (name : String) : List String :=
  (m.headers.filter (·.1 == name)).map (·.2)

/-- The message that follows has the headers of the one before it, but those that are left out. -/
theorem Hop.values_message (h : Hop) (m : Message) {name : String} (hname : name ≠ "referer") :
    (h.message m).values name = if name ∈ h.dropped then [] else m.values name := by
  have hreferer : (h.referer.toList.map fun r => ("referer", r)).filter (·.1 == name) = [] := by
    refine List.filter_eq_nil_iff.2 fun p hp heq => hname ?_
    obtain ⟨r, -, rfl⟩ := List.mem_map.1 hp
    exact (beq_iff_eq.1 heq).symm
  rw [Message.values, Hop.message, Header.filter_sort, List.filter_append, hreferer,
    List.append_nil, List.filter_filter]
  split
  · next hdropped =>
    rw [List.filter_eq_nil_iff.2, List.map_nil]
    intro p _ hp
    simp only [Bool.and_eq_true, beq_iff_eq] at hp
    rw [hp.1] at hp
    simp [hdropped] at hp
  · next hkept =>
    rw [Message.values]
    congr 1
    refine List.filter_congr fun p _ => ?_
    by_cases hp : p.1 = name <;> simp [hp, hkept]

namespace Client

variable {c : Client} {setup : Setup} {hops : Nat} {u : Url} {m : Message} {reply : Reply}
  {peer : Peer} {hop : Hop}

/-! ### Courses -/

/-- An exchange goes on only after an answer that leads elsewhere. -/
theorem turn_eq_leads_iff : c.turn setup u m reply = .leads hop ↔
    ∃ a, reply = .answer a ∧ c.next setup u m.method a.status a.headers = .follow hop := by
  cases reply with
  | answer a =>
    rw [turn]
    cases hnext : c.next setup u m.method a.status a.headers <;> simp [hnext]
  | _ => simp [turn]

theorem follow_of_ends {outcome : Except Break Answer}
    (h : c.turn setup u m reply = .ends outcome) :
    c.follow setup hops u m reply peer = ⟨outcome, [], peer⟩ := by
  cases hops <;> rw [follow, h]

/-- A message that nobody takes is followed by none. -/
theorem follow_refused (c : Client) (setup : Setup) (hops : Nat) (u : Url) (m : Message)
    (peer : Peer) : c.follow setup hops u m .refused peer = ⟨.error (.refused u), [], peer⟩ :=
  follow_of_ends rfl

theorem follow_of_leads (h : c.turn setup u m reply = .leads hop) :
    c.follow setup (hops + 1) u m reply peer =
      { c.follow setup hops hop.url (hop.message m) peer.take.1 peer.take.2 with
        followed := (if peer.take.1.isReceived then [(hop.url, hop.message m)] else []) ++
          (c.follow setup hops hop.url (hop.message m) peer.take.1 peer.take.2).followed } := by
  rw [follow, h]

/-- The messages that may follow one to `u`: each is made of the one before it. -/
inductive Leads (c : Client) (setup : Setup) : Url → Message → List (Url × Message) → Prop
  | done {u : Url} {m : Message} : Leads c setup u m []
  | hop {u : Url} {m : Message} {status : Nat} {headers : List (String × List UInt8)} {hop : Hop}
    {rest : List (Url × Message)} (h : c.next setup u m.method status headers = .follow hop)
    (hrest : Leads c setup hop.url (hop.message m) rest) :
    Leads c setup u m ((hop.url, hop.message m) :: rest)

theorem leads_follow (c : Client) (setup : Setup) (hops : Nat) (u : Url) (m : Message)
    (reply : Reply) (peer : Peer) :
    c.Leads setup u m (c.follow setup hops u m reply peer).followed := by
  induction hops generalizing u m reply peer with
  | zero =>
    rw [follow]
    split <;> exact .done
  | succ hops ih =>
    cases hturn : c.turn setup u m reply with
    | ends outcome =>
      rw [follow_of_ends hturn]
      exact .done
    | leads hop =>
      obtain ⟨a, -, hnext⟩ := turn_eq_leads_iff.1 hturn
      rw [follow_of_leads hturn]
      dsimp only
      cases hreply : peer.take.1 with
      | refused =>
        -- nobody got the message, so the chain ends before it
        rw [follow_refused]
        exact .done
      | closed | silent | answer a => exact .hop hnext (ih _ _ _ _)

/-- What a step of the chain keeps holds of all messages that follow. -/
theorem Leads.forall_mem {P : Url → Message → Prop} {followed : List (Url × Message)}
    (h : c.Leads setup u m followed) (hm : P u m)
    (hstep : ∀ {u m status headers hop}, c.next setup u m.method status headers = .follow hop →
      P u m → P hop.url (hop.message m)) : ∀ f ∈ followed, P f.1 f.2 := by
  induction h with
  | done => exact fun f hf => absurd hf List.not_mem_nil
  | hop hnext _ ih =>
    have hnew := hstep hnext hm
    exact List.forall_mem_cons.2 ⟨hnew, ih hnew⟩

/-! ### What clients are relied on for -/

/-- An answer that names no other place is taken, and a body that is in no encoding is as it
comes. -/
structure IsDirect (c : Client) : Prop where
  next : ∀ (setup : Setup) (u : Url) (method : String) (status : Nat)
    (headers : List (String × List UInt8)), (∀ h ∈ headers, h.1 ≠ "location") →
      c.next setup u method status headers = .take
  decode : ∀ (headers : List (String × List UInt8)) (body : List UInt8),
    (∀ h ∈ headers, h.1 ≠ "content-encoding") → c.decode headers body = some body

/-- What is told of a connection that fails: that time was up, if it was; else that the request
failed, if there was no answer to it, and if there was one that its body cannot be read. -/
structure TellsKinds (c : Client) : Prop where
  silent : ∀ u, (c.failure (.silent u)).isTimeout = true
  stalled : (c.failure .stalled).isTimeout = true
  refused : ∀ u, (c.failure (.refused u)).isTimeout = false ∧
    (c.failure (.refused u)).isConnect = true
  closed : ∀ u, (c.failure (.closed u)).isTimeout = false ∧
    (c.failure (.closed u)).isRequest = true
  cut : (c.failure .cut).isTimeout = false ∧ (c.failure .cut).isConnect = false ∧
    (c.failure .cut).isRequest = false ∧ (c.failure .cut).isDecode = true

/-- A message that follows has the headers of a service, but at another server no
authorization. -/
structure Guards (c : Client) : Prop where
  keeps : ∀ {setup u method status headers hop},
    c.next setup u method status headers = .follow hop →
      "x-vault-token" ∉ hop.dropped ∧ "x-vault-namespace" ∉ hop.dropped
  authorization : ∀ {setup u method status headers hop},
    c.next setup u method status headers = .follow hop →
      ("authorization" ∈ hop.dropped ↔ u.isAtServerOf hop.url = false)

end Client

namespace Standard

variable (isAnchor : List UInt8 → Bool) (unpack : String → List UInt8 → Option (List UInt8))

theorem isDirect_client : (client isAnchor unpack).IsDirect where
  next setup u method status headers h := by
    show nextOf setup u method status headers = .take
    rw [nextOf, location?, Header.first?_eq_none_iff.2 h]
    split
    · next hnone => exact absurd hnone (by simp)
    · rfl
  decode headers body h := by
    show decodeBy unpack headers body = some body
    rw [decodeBy, encoding?, Header.first?_eq_none_iff.2 h]
    rfl

theorem tellsKinds_client : (client isAnchor unpack).TellsKinds :=
  ⟨fun _ => rfl, rfl, fun _ => ⟨rfl, rfl⟩, fun _ => ⟨rfl, rfl⟩, rfl, rfl, rfl, rfl⟩

/-- Where the client goes on it leaves out what its table says. -/
theorem exists_hopTo {setup : Setup} {u : Url} {method : String} {status : Nat}
    {headers : List (String × List UInt8)} {hop : Hop}
    (h : nextOf setup u method status headers = .follow hop) :
    ∃ keeps v, hop = hopTo keeps u v method := by
  rw [nextOf] at h
  split at h
  · next keeps v _ _ =>
    split at h
    · exact ⟨keeps, v, (Next.follow.inj h).symm⟩
    · exact absurd h (by simp)
  · exact absurd h (by simp)

theorem guards_client : (client isAnchor unpack).Guards where
  keeps h := by
    obtain ⟨keeps, v, rfl⟩ := exists_hopTo h
    rw [hopTo]
    cases keeps <;> split <;> simp [bodyNames, sensitiveNames]
  authorization {setup u method status headers hop} h := by
    obtain ⟨keeps, v, rfl⟩ := exists_hopTo h
    rw [hopTo]
    cases keeps <;> cases u.isAtServerOf v <;> simp [bodyNames, sensitiveNames]

end Standard

end Wire
end Strongbox
