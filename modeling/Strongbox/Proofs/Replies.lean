/-
Runs over HTTP, and runs on plain answers.

`Wire.Reads` says which answer a reply is: its status, its body if that is JSON, and an id; a body
of success that is no JSON is a failure.  A service over HTTP gives the same results, one by one,
as it gives on a backend that has nothing but these answers, in their order
(`Backend.recorded`).  Of the HTTP client nothing is used but that it takes an answer that names no
other place, and leaves a body as it is that is in no encoding (`Wire.Client.IsDirect`).

* `Wire.reads_iff` — an answer is read in exactly one way, as `Wire.Answer.responseTo` says;
* `Transport.follow_of_isWhole`, `respond_of_isWhole` — and so the transport reads it;
* `execute_answered` — an exchange takes the next reply, and its answer is the one that is read;
* `run_mirrors` — so a whole run gives the results of the run on the answers;
* `run_refines` — and on a reply without success the status decides how an operation goes.
-/
import Strongbox.Proofs.Percent
import Strongbox.Proofs.Placement
import Strongbox.Proofs.Verdicts

namespace Strongbox

/-! ### Header values that are text -/

namespace Wire.Header

/-- Is the byte a printable ASCII character, a blank or a tab? -/
def IsText (value : List UInt8) : Prop := ∀ b ∈ value, b = 0x09 ∨ (0x20 ≤ b ∧ b < 0x7F)

theorem all_isTextByte_iff {value : List UInt8} : value.all isTextByte = true ↔ IsText value := by
  simp [IsText, isTextByte]

/-- The text of ASCII bytes is written with these bytes. -/
theorem ofString_of_isText {value : List UInt8} (h : IsText value) :
    Utf8.ofString (String.ofList (value.map fun b => Char.ofNat b.toNat)) = value := by
  have hchar : ∀ b ∈ value, (Char.ofNat b.toNat).toNat = b.toNat ∧ b.toNat < 128 := by
    intro b hb
    have hlt : b.toNat < 128 := by
      rcases h b hb with rfl | ⟨_, hlt⟩
      · decide
      · have hlt : b.toNat < 127 := by simpa using UInt8.lt_iff_toNat_lt.1 hlt
        omega
    exact ⟨Percent.toNat_ofNat_of_lt hlt, hlt⟩
  rw [Utf8.ofString, String.toList_ofList, Utf8.bytes_of_forall_lt, List.map_map]
  · refine (List.map_congr_left fun b hb => ?_).trans (List.map_id value)
    rw [Function.comp_apply, (hchar b hb).1]
    exact UInt8.ofNat_toNat
  · intro c hc
    obtain ⟨b, hb, rfl⟩ := List.mem_map.1 hc
    rw [(hchar b hb).1]
    exact (hchar b hb).2

theorem text?_eq_some_iff {value : List UInt8} {s : String} :
    text? value = some s ↔ IsText value ∧ Utf8.ofString s = value := by
  rw [text?]
  split
  · next hall =>
    have htext := all_isTextByte_iff.1 hall
    rw [Option.some_inj]
    constructor
    · rintro rfl
      exact ⟨htext, ofString_of_isText htext⟩
    · rintro ⟨_, hs⟩
      have hbytes := (ofString_of_isText htext).trans hs.symm
      exact String.toList_injective (Utf8.bytes_injective hbytes)
  · next hall => exact iff_of_false (by simp) fun h => hall (all_isTextByte_iff.2 h.1)

theorem first?_eq_some_iff {name : String} {headers : List (String × List UInt8)}
    {value : List UInt8} : first? name headers = some value ↔
      ∃ before after, headers = before ++ (name, value) :: after ∧ ∀ h ∈ before, h.1 ≠ name := by
  rw [first?, Option.map_eq_some_iff]
  constructor
  · rintro ⟨⟨n, v⟩, hfind, rfl⟩
    obtain ⟨hn, before, after, rfl, hbefore⟩ := List.find?_eq_some_iff_append.1 hfind
    obtain rfl : n = name := by simpa using hn
    exact ⟨before, after, rfl, fun h hh => by simpa using hbefore h hh⟩
  · rintro ⟨before, after, rfl, hbefore⟩
    refine ⟨(name, value), List.find?_eq_some_iff_append.2 ⟨by simp, before, after, rfl, ?_⟩, rfl⟩
    exact fun h hh => by simpa using hbefore h hh

end Wire.Header

/-! ### The answer that a reply is -/

namespace Wire

open Header (IsText)

/-- The id of the answer that headers belong to, if `sent` was sent: the first one that they name,
if it is text, and else the one that was sent. -/
inductive NamesId (sent : String) (headers : List (String × List UInt8)) : String → Prop
  | named {before after : List (String × List UInt8)} {value : List UInt8} {id : String}
    (hheaders : headers = before ++ ("x-request-id", value) :: after)
    (hbefore : ∀ h ∈ before, h.1 ≠ "x-request-id") (htext : IsText value)
    (hid : Utf8.ofString id = value) : NamesId sent headers id
  | noText {before after : List (String × List UInt8)} {value : List UInt8}
    (hheaders : headers = before ++ ("x-request-id", value) :: after)
    (hbefore : ∀ h ∈ before, h.1 ≠ "x-request-id") (htext : ¬ IsText value) :
    NamesId sent headers sent
  | unnamed (hheaders : ∀ h ∈ headers, h.1 ≠ "x-request-id") : NamesId sent headers sent

/-- The bytes of a body that arrive: answers of some statuses have none. -/
def Answer.received (a : Answer) : List UInt8 := if bodiless a.status then [] else a.body

/-- The answer that a reply is, if `sent` is the id that was sent: a body that is empty or, without
success, no JSON is none, and a body of success that is no JSON makes the exchange fail. -/
inductive Reads (sent : String) : Reply → Result Response → Prop
  | empty {a : Answer} {id : String} (hbody : a.received = []) (hid : NamesId sent a.headers id) :
    Reads sent (.answer a) (.ok ⟨a.status, none, some id⟩)
  | json {a : Answer} {id : String} {v : Json} (hbody : a.received ≠ [])
    (hread : Json.readBytes a.received = .ok v) (hid : NamesId sent a.headers id) :
    Reads sent (.answer a) (.ok ⟨a.status, some v, some id⟩)
  | noJson {a : Answer} {id : String} {f : Json.ReadFault} (hbody : a.received ≠ [])
    (hread : Json.readBytes a.received = .error f) (hstatus : ¬ (200 ≤ a.status ∧ a.status < 300))
    (hid : NamesId sent a.headers id) : Reads sent (.answer a) (.ok ⟨a.status, none, some id⟩)
  | fault {a : Answer} {f : Json.ReadFault} (hbody : a.received ≠ [])
    (hread : Json.readBytes a.received = .error f) (hstatus : 200 ≤ a.status ∧ a.status < 300) :
    Reads sent (.answer a) (.error (.deserialize f.message))

/-- A reply that arrives completely, in no encoding, and that does not lead elsewhere.  The names
of its headers are in small letters. -/
inductive Reply.IsWhole : Reply → Prop
  | answer {a : Answer} (hending : a.ending = .complete)
    (hencoding : ∀ h ∈ a.headers, h.1 ≠ "content-encoding")
    (hlocation : ∀ h ∈ a.headers, h.1 ≠ "location") : IsWhole (.answer a)

theorem Reply.IsWhole.exists_answer {reply : Reply} (h : reply.IsWhole) :
    ∃ a, reply = .answer a := by
  cases h
  exact ⟨_, rfl⟩

theorem namesId_iff {sent id : String} {headers : List (String × List UInt8)} :
    NamesId sent headers id ↔ Transport.responseId sent headers = id := by
  rw [Transport.responseId]
  constructor
  · intro h
    cases h with
    | named hheaders hbefore htext hid =>
      rw [Header.first?_eq_some_iff.2 ⟨_, _, hheaders, hbefore⟩, Option.bind_some,
        Header.text?_eq_some_iff.2 ⟨htext, hid⟩, Option.getD_some]
    | @noText before after value hheaders hbefore htext =>
      have hnone : Header.text? value = none := Option.eq_none_iff_forall_ne_some.2 fun s hs =>
        htext (Header.text?_eq_some_iff.1 hs).1
      rw [Header.first?_eq_some_iff.2 ⟨_, _, hheaders, hbefore⟩, Option.bind_some, hnone,
        Option.getD_none]
    | unnamed hheaders =>
      rw [Header.first?_eq_none_iff.2 hheaders, Option.bind_none, Option.getD_none]
  · rintro rfl
    cases hfirst : Header.first? "x-request-id" headers with
    | none => exact .unnamed (Header.first?_eq_none_iff.1 hfirst)
    | some value =>
      obtain ⟨before, after, hheaders, hbefore⟩ := Header.first?_eq_some_iff.1 hfirst
      rw [Option.bind_some]
      cases htext : Header.text? value with
      | none =>
        refine .noText hheaders hbefore fun hvalue => ?_
        have hsome := Header.text?_eq_some_iff.2 ⟨hvalue, Header.ofString_of_isText hvalue⟩
        rw [htext] at hsome
        exact absurd hsome (by simp)
      | some s =>
        obtain ⟨hvalue, hs⟩ := Header.text?_eq_some_iff.1 htext
        exact .named hheaders hbefore hvalue hs

/-- What an answer is read as. -/
def Answer.responseTo (sent : String) (a : Answer) : Result Response :=
  (Transport.readBody a.status a.received).map fun v =>
    ⟨a.status, v, some (Transport.responseId sent a.headers)⟩

theorem reads_iff {sent : String} {a : Answer} {response : Result Response} :
    Reads sent (.answer a) response ↔ response = a.responseTo sent := by
  have hid : NamesId sent a.headers (Transport.responseId sent a.headers) := namesId_iff.2 rfl
  rw [Answer.responseTo, Transport.readBody]
  constructor
  · intro hreads
    cases hreads with
    | empty hbody hid =>
      rw [hbody, ← namesId_iff.1 hid]
      rfl
    | json hbody hjson hid =>
      rw [if_neg (by simpa using hbody), hjson, ← namesId_iff.1 hid]
      rfl
    | noJson hbody hjson hstatus hid =>
      rw [if_neg (by simpa using hbody), hjson, ← namesId_iff.1 hid]
      dsimp only
      rw [if_neg hstatus]
      rfl
    | fault hbody hjson hstatus =>
      rw [if_neg (by simpa using hbody), hjson]
      dsimp only
      rw [if_pos hstatus]
      rfl
  · rintro rfl
    by_cases hbody : a.received = []
    · rw [hbody]
      exact .empty hbody hid
    · rw [if_neg (by simpa using hbody)]
      cases hjson : Json.readBytes a.received with
      | ok v => exact .json hbody hjson hid
      | error f =>
        dsimp only
        split
        · next hstatus => exact .fault hbody hjson hstatus
        · next hstatus => exact .noJson hbody hjson hstatus hid

/-- A reply without success is an answer with its status, whatever its body. -/
theorem Reads.of_not_success {sent : String} {a : Answer} {response : Result Response}
    (h : Reads sent (.answer a) response) (hstatus : ¬ (200 ≤ a.status ∧ a.status < 300)) :
    ∃ r, response = .ok r ∧ r.status = a.status := by
  cases h with
  | empty _ _ => exact ⟨_, rfl, rfl⟩
  | json _ _ _ => exact ⟨_, rfl, rfl⟩
  | noJson _ _ _ _ => exact ⟨_, rfl, rfl⟩
  | fault _ _ hsuccess => exact absurd hsuccess hstatus

/-- The reply to a request, by its number; when none is left, the server knows nothing. -/
def Peer.replyTo (replies : List Reply) (n : Nat) : Reply := replies.getD n nothing

theorem Peer.take_drop (replies : List Reply) (n : Nat) :
    (Peer.listening (replies.drop n)).take =
      (replyTo replies n, .listening (replies.drop (n + 1))) := by
  rw [replyTo, List.getD_eq_getElem?_getD, ← List.head?_drop, ← List.tail_drop]
  cases replies.drop n <;> rfl

theorem Peer.isWhole_replyTo {replies : List Reply} (h : ∀ r ∈ replies, r.IsWhole) (n : Nat) :
    (replyTo replies n).IsWhole := by
  rw [replyTo, List.getD_eq_getElem?_getD]
  cases hn : replies[n]? with
  | none => exact .answer rfl (by simp) (by simp)
  | some r => exact h r (List.mem_of_getElem? hn)

end Wire

/-! ### Exchanges -/

/-- What is left of the tokens after a number of requests. -/
def Credential.supplyAfter (c : Credential) : Nat → Supply
  | 0 => c.supply
  | n + 1 => (c.header (c.supplyAfter n)).2

namespace Transport

open Wire (Peer)

/-- Is there a credential for a request, by its number, and is it fit for a header? -/
def HasCredential (t : Transport) (n : Nat) : Prop :=
  ∃ c, (t.config.credential.header (t.config.credential.supplyAfter n)).1 = .ok c ∧
    t.headersFit c = true

/-- An answer that arrives completely is the last one of its exchange. -/
theorem follow_of_isWhole {client : Wire.Client} (hdirect : client.IsDirect) {a : Wire.Answer}
    (h : (Wire.Reply.answer a).IsWhole) (setup : Wire.Setup) (hops : Nat) (u : Url)
    (m : Wire.Message) (peer : Peer) :
    client.follow setup hops u m (.answer a) peer = ⟨.ok a, [], peer⟩ := by
  cases h with
  | answer _ _ hlocation =>
    refine Wire.Client.follow_of_ends ?_
    rw [Wire.Client.turn, hdirect.next setup u m.method a.status a.headers hlocation]

/-- It is the response that it is read as. -/
theorem respond_of_isWhole {t : Transport} (hdirect : t.client.IsDirect) {a : Wire.Answer}
    (h : (Wire.Reply.answer a).IsWhole) (id : String) : t.respond id a = a.responseTo id := by
  cases h with
  | answer hending hencoding _ =>
    have hread : t.client.read a = .ok a.received := by
      rw [Wire.Client.read, Wire.Answer.received, hending, hdirect.decode _ _ hencoding]
      split <;> rfl
    rw [respond, hread]
    rfl

/-- A message carries the id of its request. -/
theorem requestId_mem_headers (t : Transport) (q : Request) (u : Url) (id : String)
    (credential : String × String) :
    ("x-request-id", id) ∈ (t.message q u id credential).headers :=
  (Wire.Header.perm_sort _).mem_iff.2 List.mem_cons_self

/-- The state after a number of requests, each of which was sent as one message with its id, and
answered. -/
structure Answered (t : Transport) (ids : Nat → String) (replies : List Wire.Reply) (n : Nat)
    (s : State) : Prop where
  supply : s.supply = t.config.credential.supplyAfter n
  peer : s.peer = .listening (replies.drop n)
  requests : s.requests = n
  sent : s.trails.length = n
  named : ∀ k trail, s.trails[k]? = some trail →
    trail.followed = [] ∧ ("x-request-id", ids k) ∈ trail.message.headers

theorem answered_fresh (t : Transport) (ids : Nat → String) (replies : List Wire.Reply) :
    t.Answered ids replies 0 (.fresh t (.listening replies)) :=
  ⟨rfl, rfl, rfl, rfl, fun _ _ hk => absurd hk (by simp [State.fresh])⟩

variable {t : Transport} {ids : Nat → String} {replies : List Wire.Reply} {n : Nat} {s : State}

/-- One more message with its id. -/
theorem Answered.named_append (h : t.Answered ids replies n s) {new : Wire.Trail}
    (hfollowed : new.followed = []) (hid : ("x-request-id", ids n) ∈ new.message.headers) (k : Nat)
    (trail : Wire.Trail) (htrail : (s.trails ++ [new])[k]? = some trail) :
    trail.followed = [] ∧ ("x-request-id", ids k) ∈ trail.message.headers := by
  by_cases hk : k < s.trails.length
  · rw [List.getElem?_append_left hk] at htrail
    exact h.named k trail htrail
  · rw [List.getElem?_append_right (Nat.le_of_not_lt hk), List.getElem?_singleton] at htrail
    split at htrail
    · next hlast =>
      have hkn : k = n := by
        have hlength := h.sent
        omega
      obtain rfl := Option.some.inj htrail
      exact ⟨hfollowed, hkn ▸ hid⟩
    · exact absurd htrail (by simp)

/-- An exchange takes the next reply, and its answer is the one that is read. -/
theorem execute_answered (hdirect : t.client.IsDirect) {q : Request}
    (h : t.Answered ids replies n s) {a : Wire.Answer} (hreply : Peer.replyTo replies n = .answer a)
    (hwhole : (Wire.Reply.answer a).IsWhole) (hurl : (t.url? q).isSome = true)
    (hcred : t.HasCredential n) :
    (t.execute ids q s).1 = a.responseTo (ids n) ∧
      t.Answered ids replies (n + 1) (t.execute ids q s).2 := by
  obtain ⟨u, hu⟩ := Option.isSome_iff_exists.1 hurl
  obtain ⟨c, hc, hfit⟩ := hcred
  have hheader : t.config.credential.header s.supply =
      (.ok c, t.config.credential.supplyAfter (n + 1)) := by
    rw [h.supply]
    exact Prod.ext hc rfl
  have hcourse : t.course u (t.message q u (ids n) c) (.listening (replies.drop n)) =
      ⟨.ok a, [], .listening (replies.drop (n + 1))⟩ := by
    rw [course, Peer.take_drop, hreply, follow_of_isWhole hdirect hwhole]
  have hexecute : t.execute ids q s =
      (a.responseTo (ids n),
        ⟨t.config.credential.supplyAfter (n + 1), .listening (replies.drop (n + 1)),
          s.trails ++ [⟨u, t.message q u (ids n) c, []⟩], n + 1⟩) := by
    rw [execute, hheader]
    dsimp only
    rw [send, hu]
    dsimp only
    rw [hfit, Bool.not_true, if_neg Bool.false_ne_true, h.peer, h.requests, hcourse,
      Peer.take_drop, hreply, ← respond_of_isWhole hdirect hwhole]
    rfl
  rw [hexecute]
  refine ⟨rfl, rfl, rfl, rfl, ?_, h.named_append rfl (t.requestId_mem_headers q u (ids n) c)⟩
  rw [List.length_append, h.sent, List.length_singleton]

end Transport

/-! ### Whole runs -/

/-- The backend that has nothing but answers, one for each request, in their order. -/
def Backend.recorded (answers : Nat → Result Response) : Backend Nat :=
  ⟨fun _ n => (answers n, n + 1)⟩

namespace Service

open Wire (Peer Reads)

variable (s : Service)

/-- The requests that a history hands over, in their order. -/
def requests (history : History Service.Action) : List Request :=
  history.flatMap fun a => (a.2.call s).plan.request?.toList

/-- A run on a server that has these replies ready. -/
def runOverHttp (t : Transport) (ids : Nat → String) (replies : List Wire.Reply)
    (history : History Service.Action) : List (Σ α, Result α) × Session Transport.State :=
  History.run (s.act (t.backend ids)) history (.fresh (.fresh t (.listening replies)))

/-- A run on these answers. -/
def runOnAnswers (answers : Nat → Result Response) (history : History Service.Action) :
    List (Σ α, Result α) × Session Nat :=
  History.run (s.act (Backend.recorded answers)) history (.fresh 0)

/-- Answers are counted by the requests that take them. -/
theorem state_act_recorded (answers : Nat → Result Response) {α : Type} (a : Service.Action α)
    (session : Session Nat) :
    (s.act (Backend.recorded answers) a session).2.state =
      session.state + (a.call s).plan.request?.toList.length := by
  rw [act, Call.run]
  cases (a.call s).plan <;> rfl

theorem state_run_recorded (answers : Nat → Result Response) (history : History Service.Action)
    (session : Session Nat) :
    (History.run (s.act (Backend.recorded answers)) history session).2.state =
      session.state + (s.requests history).length := by
  induction history generalizing session with
  | nil => rfl
  | cons a rest ih =>
    rw [History.run_cons_snd, ih, state_act_recorded, requests, requests, List.flatMap_cons,
      List.length_append, Nat.add_assoc]

theorem state_runOnAnswers (answers : Nat → Result Response) (history : History Service.Action) :
    (s.runOnAnswers answers history).2.state = (s.requests history).length :=
  (s.state_run_recorded answers history (.fresh 0)).trans (Nat.zero_add _)

/-- What an operation that sends a request makes of the answer to it. -/
theorem getElem?_runOnAnswers {answers : Nat → Result Response} {α : Type} {a : Service.Action α}
    {q : Request} {finish : Response → Result α} (hplan : (a.call s).plan = .exchange q finish)
    (before after : History Service.Action) :
    (s.runOnAnswers answers (before ++ ⟨α, a⟩ :: after)).1[before.length]? =
      some ⟨α, (answers (s.requests before).length).bind finish⟩ := by
  have hresult := (Call.run_of_plan hplan (Backend.recorded answers)
    (s.runOnAnswers answers before).2).1
  rw [state_runOnAnswers] at hresult
  rw [runOnAnswers, History.getElem?_run]
  exact congrArg (fun result => some (⟨α, result⟩ : Σ α, Result α)) hresult

/-- A session over HTTP of which all requests were answered, and a session on plain answers that has
come as far. -/
structure Mirrors (t : Transport) (ids : Nat → String) (replies : List Wire.Reply)
    (session : Session Transport.State) (plain : Session Nat) : Prop where
  handles : session.handles = plain.handles
  answered : t.Answered ids replies plain.state session.state

/-- A bound on the number of requests. -/
def AtMost (n : Nat) (plain : Session Nat) : Prop := plain.state ≤ n

variable {s : Service} {t : Transport} {ids : Nat → String} {replies : List Wire.Reply}
  {answers : Nat → Result Response}

/-- An operation gives the same result over HTTP and on the answer that the reply to it is. -/
theorem Mirrors.act (hdirect : t.client.IsDirect) {session : Session Transport.State}
    {plain : Session Nat} (h : Mirrors t ids replies session plain)
    (hwhole : ∀ n, (Peer.replyTo replies n).IsWhole)
    (hanswers : ∀ n, Reads (ids n) (Peer.replyTo replies n) (answers n))
    {α : Type} {a : Service.Action α}
    (hurl : ∀ q ∈ (a.call s).plan.request?, (t.url? q).isSome = true)
    (hcred : (a.call s).plan.request?.isSome = true → t.HasCredential plain.state) :
    (s.act (t.backend ids) a session).1 = (s.act (Backend.recorded answers) a plain).1 ∧
      Mirrors t ids replies (s.act (t.backend ids) a session).2
        (s.act (Backend.recorded answers) a plain).2 := by
  obtain ⟨handles, state⟩ := session
  obtain ⟨handles', n⟩ := plain
  obtain rfl : handles = handles' := h.handles
  rw [Service.act, Service.act, Call.run, Call.run]
  cases hplan : (a.call s).plan with
  | settled result => exact ⟨rfl, rfl, h.answered⟩
  | exchange q finish =>
    rw [hplan] at hurl hcred
    obtain ⟨answer, hreply⟩ := (hwhole n).exists_answer
    have hanswer := Transport.execute_answered hdirect h.answered hreply (hreply ▸ hwhole n)
      (hurl q rfl) (hcred rfl)
    have hread : answers n = answer.responseTo (ids n) :=
      Wire.reads_iff.1 (hreply ▸ hanswers n)
    refine ⟨?_, rfl, hanswer.2⟩
    show (t.execute ids q state).1.bind finish = (answers n).bind finish
    rw [hanswer.1, hread]

/-- A run over HTTP gives the results of a run on the answers that its replies are, and in the end
all its requests were answered. -/
theorem run_mirrors (hdirect : t.client.IsDirect) (history : History Service.Action)
    (hwhole : ∀ n, (Peer.replyTo replies n).IsWhole)
    (hanswers : ∀ n, Reads (ids n) (Peer.replyTo replies n) (answers n))
    (hurl : ∀ q ∈ s.requests history, (t.url? q).isSome = true)
    (hcred : ∀ n < (s.requests history).length, t.HasCredential n) :
    (s.runOverHttp t ids replies history).1 = (s.runOnAnswers answers history).1 ∧
      Mirrors t ids replies (s.runOverHttp t ids replies history).2
        (s.runOnAnswers answers history).2 := by
  have hback : ∀ a ∈ history, ∀ plain, AtMost (s.requests history).length
      (s.act (Backend.recorded answers) a.2 plain).2 →
        AtMost (s.requests history).length plain := by
    intro a _ plain hbound
    rw [AtMost, state_act_recorded] at hbound
    exact Nat.le_of_add_right_le hbound
  have hstep : ∀ a ∈ history, ∀ session plain, Mirrors t ids replies session plain →
      AtMost (s.requests history).length (s.act (Backend.recorded answers) a.2 plain).2 →
        (s.act (t.backend ids) a.2 session).1 = (s.act (Backend.recorded answers) a.2 plain).1 ∧
          Mirrors t ids replies (s.act (t.backend ids) a.2 session).2
            (s.act (Backend.recorded answers) a.2 plain).2 := by
    intro a ha session plain hmirrors hbound
    refine hmirrors.act hdirect hwhole hanswers (fun q hq => ?_) fun hsome => ?_
    · exact hurl q (List.mem_flatMap.2 ⟨a, ha, Option.mem_toList.2 hq⟩)
    · -- a request is counted, so its number is below the number of requests
      obtain ⟨q, hq⟩ := Option.isSome_iff_exists.1 hsome
      rw [AtMost, state_act_recorded, hq] at hbound
      exact hcred plain.state hbound
  refine History.run_simulation _ _ hback hstep ⟨rfl, t.answered_fresh ids replies⟩ ?_
  exact Nat.le_of_eq (s.state_runOnAnswers answers history)

/-- **HTTP is no more than its answers.**  In every run over HTTP of which the requests can be sent
and the replies arrive completely, every request is sent as one message with its id, and the results
are, one by one, those of the run on the answers that the replies are.  And where the reply to an
operation is without success, its status decides how the operation goes, whatever the body; only
an operation that asks for the health is told it by a body that reports it. -/
theorem run_refines (s : Service) {t : Transport} (hdirect : t.client.IsDirect)
    (ids : Nat → String) {history : History Service.Action} (hwhole : ∀ r ∈ replies, r.IsWhole)
    (hurl : ∀ q ∈ s.requests history, (t.url? q).isSome = true)
    (hcred : ∀ n < (s.requests history).length, t.HasCredential n) :
    (∀ n < (s.requests history).length, ∃ trail,
      (s.runOverHttp t ids replies history).2.state.trails[n]? = some trail ∧
        trail.followed = [] ∧ ("x-request-id", ids n) ∈ trail.message.headers) ∧
    ∃ answers : Nat → Result Response,
      (∀ n response, Reads (ids n) (Peer.replyTo replies n) response ↔ response = answers n) ∧
      (s.runOverHttp t ids replies history).1 = (s.runOnAnswers answers history).1 ∧
      ∀ (before after : History Service.Action) {α : Type} (a : Service.Action α) (q : Request)
          (answer : Wire.Answer),
        history = before ++ ⟨α, a⟩ :: after → (a.call s).plan.request? = some q →
        Peer.replyTo replies (s.requests before).length = .answer answer →
        ¬ (200 ≤ answer.status ∧ answer.status < 300) →
          ∃ r result, answers (s.requests before).length = .ok r ∧ r.status = answer.status ∧
            (s.runOverHttp t ids replies history).1[before.length]? = some ⟨α, result⟩ ∧
            ((∀ value, a.verdict answer.status = .report value → ∀ f, ¬ r.Garbles f) →
              (a.verdict answer.status).Describes r result) := by
  have hall := Peer.isWhole_replyTo hwhole
  choose answer hanswer using fun n => (hall n).exists_answer
  have hreads : ∀ n response, Reads (ids n) (Peer.replyTo replies n) response ↔
      response = (answer n).responseTo (ids n) := by
    intro n response
    rw [hanswer n, Wire.reads_iff]
  obtain ⟨hresults, _, hanswered⟩ := run_mirrors hdirect history hall
    (fun n => (hreads n _).2 rfl) hurl hcred
  refine ⟨fun n hn => ?_, fun n => (answer n).responseTo (ids n), hreads, hresults,
    fun before after α a q answer hhistory hq hreply hstatus => ?_⟩
  · have hsent := hanswered.sent.trans (s.state_runOnAnswers _ history)
    obtain ⟨trail, htrail⟩ :
        ∃ trail, (s.runOverHttp t ids replies history).2.state.trails[n]? = some trail :=
      ⟨_, List.getElem?_eq_getElem (hsent.symm ▸ hn)⟩
    exact ⟨trail, htrail, hanswered.named n trail htrail⟩
  · obtain ⟨finish, hplan⟩ : ∃ finish, (a.call s).plan = .exchange q finish := by
      cases hplan : (a.call s).plan with
      | settled result => exact absurd hq (by simp [hplan, Plan.request?])
      | exchange q' finish =>
        rw [hplan, Plan.request?, Option.some_inj] at hq
        exact ⟨finish, by rw [hq]⟩
    have hread := (hreads (s.requests before).length _).2 rfl
    rw [hreply] at hread
    obtain ⟨r, hr, hrstatus⟩ := hread.of_not_success hstatus
    have hsuccess : r.isSuccess = false := by
      rw [← Bool.not_eq_true, Response.isSuccess_iff, hrstatus]
      exact hstatus
    have hmakes := Action.obeys s a q finish hplan r hsuccess
    rw [hrstatus] at hmakes
    refine ⟨r, finish r, hr, hrstatus, ?_, hmakes.describes⟩
    rw [hresults, hhistory, getElem?_runOnAnswers s hplan, hr]
    rfl

open Wire.Standard (bare)

/-- The configuration for a server on the machine itself. -/
def localConfig : Config := localSettings.configWith (.token "t") "transit"

/-- The service of a server on the machine itself. -/
def localService : Service := ⟨localConfig, rfl⟩

/-- The transport to a server on the machine itself. -/
def localTransport : Transport := ⟨localConfig, bare⟩

/-- An error page of a proxy, a refusal without a word, and a page that comes with success. -/
def pages : List Wire.Reply :=
  [.answer ⟨502, [("x-request-id", Utf8.ofString "edge 1")], Utf8.ofString "<html>", .complete⟩,
    .answer ⟨400, [], [], .complete⟩, .answer ⟨200, [], Utf8.ofString "<html>", .complete⟩]

theorem isWhole_of_mem_pages : ∀ r ∈ pages, r.IsWhole := by
  intro r hr
  simp only [pages, List.mem_cons, List.not_mem_nil, or_false] at hr
  rcases hr with rfl | rfl | rfl <;> exact .answer rfl (by decide) (by decide)

/-- A read, an encryption and a read. -/
def readAndEncrypt : History Service.Action :=
  [⟨_, .secret (.read "kv" "db")⟩, ⟨_, .encrypt "k" []⟩, ⟨_, .secret (.read "kv" "db")⟩]

theorem hasCredential_local (n : Nat) : localTransport.HasCredential n :=
  ⟨(Credential.tokenHeader, "t"), rfl, by decide⟩

/-- A read that meets an error page and an encryption that is refused give what the run on answers
gives, and an HTTP error and a failure to encrypt. -/
theorem run_refines_pages :
    localTransport.client.IsDirect ∧ (∀ r ∈ pages, r.IsWhole) ∧
      (∀ q ∈ localService.requests readAndEncrypt, (localTransport.url? q).isSome = true) ∧
      (∀ n < (localService.requests readAndEncrypt).length, localTransport.HasCredential n) ∧
      (∀ n < (localService.requests readAndEncrypt).length, ∃ trail,
        (localService.runOverHttp localTransport Numeral.decimal pages
            readAndEncrypt).2.state.trails[n]? = some trail ∧
          trail.followed = [] ∧ ("x-request-id", Numeral.decimal n) ∈ trail.message.headers) ∧
      ∃ answers : Nat → Result Response,
        (∀ n response,
          Reads (Numeral.decimal n) (Peer.replyTo pages n) response ↔ response = answers n) ∧
        (localService.runOverHttp localTransport Numeral.decimal pages readAndEncrypt).1 =
          (localService.runOnAnswers answers readAndEncrypt).1 ∧
        (∃ r result, answers 0 = .ok r ∧ r.status = 502 ∧
          (localService.runOverHttp localTransport Numeral.decimal pages readAndEncrypt).1[0]? =
            some ⟨Option String, result⟩ ∧
          Verdict.http.Describes r result) ∧
        ∃ r result, answers 1 = .ok r ∧ r.status = 400 ∧
          (localService.runOverHttp localTransport Numeral.decimal pages readAndEncrypt).1[1]? =
            some ⟨String, result⟩ ∧
          Verdict.encryption.Describes r result := by
  have hdirect : localTransport.client.IsDirect := Wire.Standard.isDirect_client _ _
  have hurl : ∀ q ∈ localService.requests readAndEncrypt,
      (localTransport.url? q).isSome = true := List.all_eq_true.1 (by decide +kernel)
  have hcred : ∀ n < (localService.requests readAndEncrypt).length,
      localTransport.HasCredential n := fun n _ => hasCredential_local n
  obtain ⟨hsent, answers, hreads, hresults, hdecides⟩ :=
    run_refines localService hdirect Numeral.decimal isWhole_of_mem_pages hurl hcred
  obtain ⟨r, result, hr, hstatus, hresult, hread⟩ :=
    hdecides [] _ (.secret (.read "kv" "db")) _ _ rfl rfl rfl (by decide)
  obtain ⟨r', result', hr', hstatus', hresult', hrefused⟩ :=
    hdecides [_] _ (.encrypt "k" []) _ _ rfl rfl rfl (by decide)
  -- neither of them asks for the health
  have hhttp : ∀ value, (Verdict.http : Verdict (Option String)) ≠ .report value := by simp
  have hrefusal : ∀ value, (Verdict.encryption : Verdict String) ≠ .report value := by simp
  exact ⟨hdirect, isWhole_of_mem_pages, hurl, hcred, hsent, answers, hreads, hresults,
    ⟨r, result, hr, hstatus, hresult, hread fun value h => absurd h (hhttp value)⟩,
    r', result', hr', hstatus', hresult', hrefused fun value h => absurd h (hrefusal value)⟩

/-- A reply of a server that is sealed. -/
def sealedReply (body : String) : Wire.Reply := .answer ⟨503, [], Utf8.ofString body, .complete⟩

/-- The health that a server tells with one reply. -/
def healthFrom (reply : Wire.Reply) : Result Health :=
  (localService.act (localTransport.backend fun _ => "id") .health
    (.fresh (.fresh localTransport (.listening [reply])))).1

/-- A report of a server that is sealed. -/
def sealedReport : String :=
  "\x7b\"initialized\":true,\"sealed\":true,\"version\":\"1.15.0\"\x7d"

/-- The health is read from the body of an answer without success: of two replies with the same
status, which arrive completely, one makes an error with that status, and the other tells the
health. -/
theorem health_reads_body :
    (localTransport.url? (.read Endpoint.health)).isSome = true ∧
      localTransport.HasCredential 0 ∧
      (sealedReply "<html>").IsWhole ∧ (sealedReply sealedReport).IsWhole ∧
      (∃ m id, healthFrom (sealedReply "<html>") = .error (.http 503 m id)) ∧
      healthFrom (sealedReply sealedReport) =
        .ok ⟨true, true, false, "1.15.0", none, none, none⟩ := by
  refine ⟨by decide +kernel, hasCredential_local 0, .answer rfl (by decide) (by decide),
    .answer rfl (by decide) (by decide), ⟨"empty health response", some "id", ?_⟩, ?_⟩
  · decide +kernel
  · decide +kernel

end Service
end Strongbox
