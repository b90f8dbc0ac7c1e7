/-
The server in memory answers like the reference store.

A history of the server is made of operations on secrets, asked for by any copy of a client, and
of versions that are seeded and deleted behind the client's back (`Step`).  The cells of the
server represent a reference store (`Represents`), and every step keeps that:

* `scalar_eq`, `entries_eq` — the client decodes payloads as the reference store reads them;
* `finishGet_read`, `finishPut_write`, `finishList_list` — one exchange with the server;
* `agrees_answer`, `Step.agrees` — an operation, and a step;
* `run_eq_ledger` — so all answers of a history are those of the reference store;
* `bounded_run` — no secret gets more versions than the history has steps.
-/
import Strongbox.Proofs.Answers
import Strongbox.Proofs.Cells
import Strongbox.Proofs.Ledger
import Strongbox.Proofs.Numerals
import Strongbox.Proofs.Records
import Strongbox.Proofs.Requests
import Strongbox.Proofs.Routes

namespace Strongbox

/-! ### What payloads are read as -/

namespace Ledger

theorem text_eq (v : Json) : text v = (Json.asText v).mapError Json.DecodeFault.message := by
  cases v <;> rfl

/-- A walk over the members of an object keeps the last text that is named `value`. -/
theorem foldlM_scalar (members : List (String × Json)) (r : ScalarRecord) :
    (members.foldlM ScalarRecord.shape.putMember r).mapError Json.DecodeFault.message =
      ((members.filter (·.1 == "value")).mapM fun m => text m.2).map fun texts =>
        (texts.getLast?.map ScalarRecord.mk).getD r := by
  induction members generalizing r with
  | nil => rfl
  | cons m members ih =>
    obtain ⟨name, v⟩ := m
    rw [List.foldlM_cons, List.filter_cons]
    by_cases hname : name = "value"
    · subst hname
      rw [Json.Shape.putMember_self rfl, if_pos (by simp), List.mapM_cons, text_eq]
      cases Json.asText v with
      | error f => rfl
      | ok s =>
        refine (ih ⟨s⟩).trans ?_
        cases (members.filter (·.1 == "value")).mapM fun m => text m.2 with
        | error f => rfl
        | ok texts =>
          refine congrArg Except.ok ?_
          show (texts.getLast?.map ScalarRecord.mk).getD ⟨s⟩ =
            ((s :: texts).getLast?.map ScalarRecord.mk).getD r
          rw [List.getLast?_cons]
          cases texts.getLast? <;> rfl
    · rw [Json.Shape.putMember_of_ne rfl hname, if_neg (by simpa using hname)]
      exact ih r

/-- An object without a member of the name is no scalar secret. -/
theorem ofMembers_scalar (members : List (String × Json)) :
    (ScalarRecord.shape.ofMembers members).mapError Json.DecodeFault.message =
      ((members.foldlM ScalarRecord.shape.putMember ScalarRecord.shape.blank).mapError
        Json.DecodeFault.message >>= fun r =>
          if (members.filter (·.1 == "value")).isEmpty then .error "missing field `value`"
          else .ok r) := by
  have hlookup : (Json.lookup "value" members).isNone =
      (members.filter (·.1 == "value")).isEmpty := by
    induction members with
    | nil => rfl
    | cons m members ih =>
      obtain ⟨name, v⟩ := m
      rw [Json.lookup, List.filter_cons]
      by_cases hname : name = "value"
      · rw [if_pos hname, if_pos (by simpa using hname)]
        rfl
      · rw [if_neg hname, if_neg (by simpa using hname), ih]
  have hmissing : ScalarRecord.shape.missing? members =
      ScalarRecord.shape.fields.find? fun _ => (Json.lookup "value" members).isNone := rfl
  have hmessage : (Json.DecodeFault.missing "value").message = "missing field `value`" := by decide
  rw [Json.Shape.ofMembers, hmissing, ← hlookup, ← hmessage]
  cases members.foldlM ScalarRecord.shape.putMember ScalarRecord.shape.blank with
  | error f => rfl
  | ok r => cases (Json.lookup "value" members).isNone <;> rfl

/-- The client decodes a scalar secret as the reference store reads it. -/
theorem scalar_eq (v : Json) :
    (scalar v).map ScalarRecord.mk =
      (ScalarRecord.decode v).mapError Json.DecodeFault.message := by
  cases v with
  | object members =>
    show _ = (ScalarRecord.shape.ofMembers members).mapError Json.DecodeFault.message
    rw [ofMembers_scalar, foldlM_scalar, scalar]
    cases members.filter (·.1 == "value") with
    | nil => rfl
    | cons m named =>
      rw [List.mapM_cons]
      cases text m.2 with
      | error f => rfl
      | ok s =>
        cases named.mapM fun m => text m.2 with
        | error f => rfl
        | ok texts =>
          dsimp only [bind, Except.bind, pure, Except.pure, Except.map]
          rw [List.getLast?_cons]
          rfl
  | array items =>
    cases items with
    | nil =>
      have hlabel : ScalarRecord.shape.sizedLabel = "struct SecretRecord with 1 element" := by
        decide +kernel
      rw [ScalarRecord.decode, Json.Shape.decode, Json.Shape.ofItems_nil rfl, hlabel]
      rfl
    | cons w rest =>
      rw [scalar, ScalarRecord.decode, Json.Shape.decode, Json.Shape.ofItems_cons rfl, text_eq]
      cases Json.asText w with
      | error f => rfl
      | ok s => cases rest <;> rfl
  | _ => rfl

/-- The text of a scalar secret is that of the record that is read. -/
theorem read_scalar (l : Ledger) (mount key : String) (version : Version) :
    l.read mount key version scalar =
      (l.read mount key version fun v => (scalar v).map ScalarRecord.mk).map fun v =>
        v.map fun v => v.map ScalarRecord.value := by
  rw [read_map]
  refine congrArg (l.read mount key version) (funext fun v => ?_)
  cases scalar v <;> rfl

/-- The client decodes a composite secret as the reference store reads it. -/
theorem entries_eq (v : Json) :
    entries v = (StringMap.decode v).mapError Json.DecodeFault.message := by
  cases v with
  | object members =>
    rw [entries, StringMap.decode, Json.asMap]
    induction members with
    | nil => rfl
    | cons m members ih =>
      rw [List.mapM_cons, List.mapM_cons, ih, text_eq]
      cases Json.asText m.2 with
      | error f => rfl
      | ok s =>
        show _ = Except.mapError _ (members.mapM _ >>= _)
        cases members.mapM fun m => (Json.asText m.2).map fun a => (m.1, a) <;> rfl
  | _ => rfl

end Ledger

namespace Memory

open Endpoint (encodePath)

/-! ### Representation -/

/-- A version of the server as one of the reference store. -/
def record (v : Stored) : Ledger.Record := ⟨v.data, v.deleted⟩

/-- The cells of a server hold the versions of a reference store. -/
structure Represents (st : Store) (l : Ledger) : Prop where
  ordered : Ordered st.cells
  versions : ∀ m k, (versionsIn st.cells m k).map record = l.versions m k

theorem map_markDeleted (version : Nat) (vs : List Stored) :
    (markDeleted version vs).map record =
      (vs.map record).modify (version - 1) fun r => { r with deleted := true } := by
  refine List.ext_getElem? fun i => ?_
  rw [markDeleted, List.getElem?_map, List.getElem?_modify, List.getElem?_modify,
    List.getElem?_map]
  cases vs[i]? with
  | none => rfl
  | some v =>
    show some (record (if version - 1 = i then _ else v)) =
      some (if version - 1 = i then _ else record v)
    split <;> rfl

theorem represents_empty : Represents empty .empty := ⟨ordered_nil, fun _ _ => rfl⟩

namespace Represents

variable {st : Store} {l : Ledger} (h : Represents st l)
include h

theorem length_eq (m k : String) :
    (versionsIn st.cells m k).length = (l.versions m k).length := by
  rw [← h.versions, List.length_map]

theorem of_cells {st' : Store} (hcells : st'.cells = st.cells) : Represents st' l := by
  obtain ⟨hordered, hversions⟩ := h
  rw [← hcells] at hordered hversions
  exact ⟨hordered, hversions⟩

/-- A server that has counted a request represents the same store. -/
theorem counted : Represents { st with requests := st.requests + 1 } l := h.of_cells rfl

theorem push (mount key : String) (payload : Json) {st' : Store}
    (hcells : st'.cells = Memory.push mount key ⟨payload, false⟩ st.cells) :
    Represents st' (l.append mount key payload) := by
  refine ⟨hcells ▸ ordered_push h.ordered, fun m k => ?_⟩
  show _ = if mount = m ∧ key = k then l.versions m k ++ [⟨payload, false⟩] else l.versions m k
  rw [hcells, versionsIn_push h.ordered, ← h.versions]
  split
  · exact List.map_append
  · rfl

theorem delete (mount key : String) {version : Nat} (hv : 0 < version) :
    Represents (deleteVersion mount key version st) (l.delete mount key version) := by
  refine ⟨ordered_delete version h.ordered, fun m k => ?_⟩
  show _ = if mount = m ∧ key = k then
    (l.versions m k).modify (version - 1) fun r => { r with deleted := true } else l.versions m k
  rw [versionsIn_delete hv, ← h.versions]
  split
  · exact map_markDeleted version _
  · rfl

end Represents

/-! ### One exchange -/

variable {st : Store} {l : Ledger} {m k : String}

theorem requested?_query (version : Version) : requested? version.query = version.number? := by
  cases version with
  | latest => rfl
  | specific n =>
    have hstart : ∀ c ∈ (Numeral.decimal n.value).toList.head?, c ≠ '+' := by
      rintro c hc rfl
      have hdigit := Numeral.isDigit_of_mem_decimal (List.mem_of_mem_head? hc)
      exact absurd hdigit (by decide)
    have hsmall : n.value < UInt64.size := lt_trans n.bounded (by decide)
    have hfind : (Version.specific n).query.find? (·.1 == "version") =
        some ("version", Numeral.decimal n.value) := rfl
    rw [requested?, hfind]
    dsimp only [bind, Option.bind]
    split
    · next rest heq => exact absurd rfl (hstart '+' (by rw [heq]; rfl))
    · rw [Numeral.read?_decimal, Option.filter_some, if_pos (by simpa using hsmall)]
      rfl

/-- The answer to a read, as the operation reads it, is that of the reference store, if its reader
reads what the operation decodes. -/
theorem finishGet_read {α : Type} (h : Represents st l)
    (hbound : (l.versions (encodePath m) (encodePath k)).length < UInt32.size)
    (version : Version) {decode : Json → Except Json.DecodeFault α}
    {reader : Json → Except String α}
    (hreader : ∀ v, reader v = (decode v).mapError Json.DecodeFault.message) :
    (Handle.mk m).finishGet k decode (read (encodePath m) (encodePath k) version.query st) =
      l.read m k version reader := by
  rw [read, versions?_eq st h.ordered, requested?_query, Ledger.read, Ledger.find?, ← h.versions]
  generalize hvs : versionsIn st.cells (encodePath m) (encodePath k) = vs
  have hlen : vs.length < UInt32.size := by
    rw [← hvs, h.length_eq]
    exact hbound
  rw [List.length_map, List.getElem?_map]
  by_cases hnil : vs = []
  · subst hnil
    rfl
  · rw [if_neg hnil]
    dsimp only
    -- the number of a version is positive, whether it is asked for or the latest one
    have hpos : version.number?.getD vs.length ≠ 0 := by
      cases version with
      | latest => simpa [Version.number?] using hnil
      | specific n => exact Nat.pos_iff_ne_zero.1 n.positive
    rw [if_neg hpos]
    cases hget : vs[version.number?.getD vs.length - 1]? with
    | none => rfl
    | some v =>
      obtain ⟨payload, deleted⟩ := v
      have hnumber : version.number?.getD vs.length < UInt32.size := by
        have hlt := (List.getElem?_eq_some_iff.1 hget).1
        omega
      cases deleted with
      | true => rfl
      | false =>
        show (Handle.mk m).finishGet k decode (success (dataOf (entry payload
          (metadata (version.number?.getD vs.length) false)))) = _
        rw [finishGet_success hnumber, Option.map_some, record]
        dsimp only
        cases payload.isNull with
        | true => rfl
        | false =>
          rw [if_neg Bool.false_ne_true, if_neg Bool.false_ne_true]
          dsimp only
          rw [hreader]
          cases decode payload <;> rfl

theorem finishPut_write (h : Represents st l) (payload : Json)
    (hbound : ((l.write m k payload).2.versions (encodePath m) (encodePath k)).length <
      UInt32.size) :
    Handle.finishPut (write (encodePath m) (encodePath k) (some (dataOf payload)) st).1 =
        (l.write m k payload).1 ∧
      Represents (write (encodePath m) (encodePath k) (some (dataOf payload)) st).2
        (l.write m k payload).2 := by
  have hrep : Represents (write (encodePath m) (encodePath k) (some (dataOf payload)) st).2
      (l.write m k payload).2 := h.push _ _ payload rfl
  refine ⟨?_, hrep⟩
  show Handle.finishPut (success (dataOf (metadata (versionsIn (write (encodePath m) (encodePath k)
    (some (dataOf payload)) st).2.cells (encodePath m) (encodePath k)).length false))) = _
  rw [hrep.length_eq, finishPut_success hbound]
  rfl

theorem listedName_eq (key : String) : listedName key = Ledger.shown key := by
  have hspan := List.takeWhile_append_dropWhile (p := (· != '/')) (l := key.toList)
  -- the part of the key before its first slash is its first segment
  rw [listedName, Ledger.shown]
  cases hdrop : key.toList.dropWhile (· != '/') with
  | nil =>
    -- without a slash the key is its only segment
    rw [hdrop, List.append_nil] at hspan
    have hslash : '/' ∉ key.toList := fun hmem => by
      simpa using List.dropWhile_eq_nil_iff.1 hdrop '/' hmem
    rw [hspan, Text.pieces_of_not_mem hslash, if_neg (by rw [String.length_toList]; omega)]
  | cons c rest =>
    have hc : c = '/' := by
      simpa using Text.head?_dropWhile (· != '/') key.toList c (by rw [hdrop]; rfl)
    have hslash : '/' ∉ key.toList.takeWhile (· != '/') := fun hmem => by
      simpa using List.mem_takeWhile_imp hmem
    have hpieces : Text.pieces '/' key.toList =
        key.toList.takeWhile (· != '/') :: Text.pieces '/' rest := by
      conv_lhs => rw [← hspan, hdrop, hc]
      rw [Text.pieces_append_cons, Text.pieces_of_not_mem hslash, List.singleton_append]
    have hlen : (key.toList.takeWhile (· != '/')).length < key.length := by
      have htotal := congrArg List.length hspan
      rw [hdrop, List.length_append, List.length_cons, String.length_toList] at htotal
      omega
    obtain ⟨q, qs, hq⟩ := List.exists_cons_of_ne_nil (Text.pieces_ne_nil '/' rest)
    rw [if_pos hlen, hpieces, hq]

theorem finishList_list (h : Represents st l) (mount : String) :
    Handle.finishList (list mount st) = .ok (l.names mount) := by
  -- both lists are in order and without repetition, so their members decide
  have hnames : sortedNames ((st.cells.filter (·.mount == mount)).map fun c => listedName c.key) =
      l.names mount := by
    obtain ⟨hsorted, hmem⟩ := sortedNames_facts
      ((st.cells.filter (·.mount == mount)).map fun c => listedName c.key)
    refine hsorted.eq_of_mem_iff (sortedLT_inOrder _) fun n => ?_
    rw [hmem, Ledger.names, mem_inOrder, Finset.mem_image, List.mem_map]
    constructor
    · rintro ⟨c, hc, rfl⟩
      obtain ⟨hc, hmount⟩ := List.mem_filter.1 hc
      refine ⟨c.key, ?_, (listedName_eq c.key).symm⟩
      have hne := (versionsIn_ne_nil_iff h.ordered).2 ⟨c, hc, by simpa using hmount, rfl⟩
      rw [l.mem_keys, ← h.versions]
      exact fun hnil => hne (List.map_eq_nil_iff.1 hnil)
    · rintro ⟨key, hkey, rfl⟩
      rw [l.mem_keys, ← h.versions] at hkey
      obtain ⟨c, hc, hmount, rfl⟩ := (versionsIn_ne_nil_iff h.ordered).1 fun hnil =>
        hkey (List.map_eq_nil_iff.2 hnil)
      exact ⟨c, List.mem_filter.2 ⟨hc, by simpa using hmount⟩, listedName_eq c.key⟩
  rw [list]
  dsimp only
  split
  · next hempty =>
    rw [List.isEmpty_iff.1 hempty] at hnames
    rw [← hnames]
    rfl
  · rw [← hnames]
    exact finishList_success _

/-! ### Operations -/

/-- Two runs of an operation agree: the answers are the same, and the server represents the
reference store afterwards. -/
def Agrees {α : Type} (x : Result α × Session Store) (y : Result α × Ledger) : Prop :=
  x.1 = y.1 ∧ Represents x.2.state y.2

theorem run_through {α : Type} (handle : Handle) (p : Plan α) (session : Session Store) :
    (Secrets.through handle p).run backend session =
      ((p.run backend session.state).1,
        ⟨session.handles.touch handle.mount, (p.run backend session.state).2⟩) := rfl

theorem run_call_map {α β : Type} (f : α → β) (c : Call α) (session : Session Store) :
    (c.map f).run backend session =
      ((c.run backend session).1.map f, (c.run backend session).2) := by
  obtain ⟨mount, plan⟩ := c
  cases plan with
  | settled r => rfl
  | exchange q finish => rfl

theorem Agrees.map {α β : Type} {c : Call α} {session : Session Store} {y : Result α × Ledger}
    (h : Agrees (c.run backend session) y) (f : α → β) :
    Agrees ((c.map f).run backend session) (y.1.map f, y.2) := by
  rw [run_call_map]
  exact ⟨congrArg (Except.map f) h.1, h.2⟩

theorem Agrees.through_map {α β : Type} {handle : Handle} {p : Plan α} {session : Session Store}
    {r : Result α} {l : Ledger} (h : Agrees ((Secrets.through handle p).run backend session) (r, l))
    (f : α → β) : Agrees ((Secrets.through handle (p.map f)).run backend session) (r.map f, l) :=
  h.map f

theorem run_exchange {α : Type} (q : Request) (finish : Response → Result α) (st : Store) :
    (Plan.exchange q finish).run backend st =
      (finish (respond q { st with requests := st.requests + 1 }).1,
        (respond q { st with requests := st.requests + 1 }).2) := rfl

variable {session : Session Store} {mount key : String}

theorem Routable.of_segments {a b : String} (h : Routable a)
    (hs : Endpoint.segments b.toList = Endpoint.segments a.toList) : Routable b := by
  obtain ⟨hencrypt, hdecrypt, hdata⟩ := h
  rw [← hs] at hencrypt hdecrypt hdata
  exact ⟨hencrypt, hdecrypt, hdata⟩

/-- A rejected name is the answer of both; accepted names go on. -/
theorem agrees_onKey {α : Type} {f : Handle → String → Call α}
    {g : String → String → Result α × Ledger} (h : Represents session.state l)
    (hroute : ∀ m, Argument.require .mount mount = .ok m → Routable mount)
    (hbound : (l.onKey mount key g).2.Bounded)
    (hfg : ∀ m k, Argument.Accepted m → Routable m → Argument.require .secretKey key = .ok k →
      (g m k).2.Bounded → Agrees ((f ⟨m⟩ k).run backend session) (g m k)) :
    Agrees ((Secrets.onKey mount key f).run backend session) (l.onKey mount key g) := by
  rw [Ledger.onKey] at hbound ⊢
  cases hm : Argument.require .mount mount with
  | error fault =>
    rw [Secrets.onKey_rejected (Or.inl hm)]
    exact ⟨rfl, h⟩
  | ok m =>
    rw [hm] at hbound
    cases hk : Argument.require .secretKey key with
    | error fault =>
      rw [Secrets.onKey_rejected (Or.inr ⟨⟨m, hm⟩, hk⟩)]
      exact ⟨rfl, h⟩
    | ok k =>
      rw [hk] at hbound
      rw [Secrets.onKey_accepted hm hk]
      exact hfg m k (Argument.accepted_of_require hm)
        ((hroute m hm).of_segments (Argument.segments_of_require hm)) hk hbound

theorem respond_read {m : String} (hm : Argument.Accepted m) (h : Routable m) (k : String)
    (version : Version) (st : Store) :
    respond ((Handle.mk m).getRequest k version) st =
      (read (encodePath m) (encodePath k) version.query st, st) := by
  have hpath : ((Handle.mk m).getRequest k version).path = Endpoint.secret m k := by
    rw [Secrets.getRequest_eq]
    rfl
  rw [respond, hpath, route_secret hm h, Secrets.getRequest_eq]
  rfl

theorem respond_write {m : String} (hm : Argument.Accepted m) (h : Routable m) (k : String)
    (body : Json) (st : Store) :
    respond (.write (Endpoint.secret m k) body) st =
      write (encodePath m) (encodePath k) (some body) st := by
  have hroute : route (Request.write (Endpoint.secret m k) body).path = _ := route_secret hm h k
  rw [respond, hroute]
  rfl

theorem respond_listing {m : String} (hm : Argument.Accepted m) (h : Routable m) (st : Store) :
    respond (.list (Endpoint.listing m "")) st = (list (encodePath m) st, st) := by
  have hroute : route (Request.list (Endpoint.listing m "")).path = _ := route_listing hm h
  rw [respond, hroute]

/-- A read agrees with that of the reference store. -/
theorem agrees_get {α : Type} (h : Represents session.state l) (hm : Argument.Accepted m)
    (hroute : Routable m) (hk : Argument.require .secretKey key = .ok k) (hbound : l.Bounded)
    (version : Version) {decode : Json → Except Json.DecodeFault α}
    {reader : Json → Except String α}
    (hreader : ∀ v, reader v = (decode v).mapError Json.DecodeFault.message) :
    Agrees ((Secrets.through ⟨m⟩ (Handle.get ⟨m⟩ k version decode)).run backend session)
      (l.read m k version reader, l) := by
  rw [run_through, Handle.get_eq (h := ⟨m⟩) hm hk, run_exchange, respond_read hm hroute]
  exact ⟨finishGet_read h.counted (hbound _ _) version hreader, h.counted⟩

theorem agrees_put (h : Represents session.state l) (hm : Argument.Accepted m)
    (hroute : Routable m) (hk : Argument.require .secretKey key = .ok k) (payload : Json)
    (hbound : (l.write m k payload).2.Bounded) :
    Agrees ((Secrets.through ⟨m⟩ (Handle.put ⟨m⟩ k payload)).run backend session)
      (l.write m k payload) := by
  rw [run_through, Handle.put_eq (h := ⟨m⟩) hm hk, run_exchange, respond_write hm hroute]
  exact finishPut_write h.counted payload (hbound _ _)

theorem agrees_list (h : Represents session.state l) (hm : Argument.Accepted m)
    (hroute : Routable m) :
    Agrees ((Secrets.through ⟨m⟩ (Handle.list ⟨m⟩ "")).run backend session)
      (.ok (l.names (encodePath m)), l) := by
  rw [run_through, Handle.list_eq (h := ⟨m⟩) hm, run_exchange, respond_listing hm hroute]
  exact ⟨finishList_list h.counted _, h.counted⟩

section

variable (hroute : ∀ m, Argument.require .mount mount = .ok m → Routable mount)
include hroute

theorem agrees_readScalarVersioned (h : Represents session.state l) (version : Version)
    (hbound : (l.answer (.readVersioned mount key version)).2.Bounded) :
    Agrees ((Secrets.readScalarVersioned mount key version).run backend session)
      (l.answer (.readVersioned mount key version)) := by
  rw [Ledger.answer] at hbound ⊢
  rw [Secrets.readScalarVersioned]
  refine agrees_onKey h hroute hbound fun m k hm hr hk hb => ?_
  rw [Ledger.read_scalar]
  exact (agrees_get h hm hr hk hb version Ledger.scalar_eq).through_map _

theorem agrees_readScalar (h : Represents session.state l) (version : Version)
    (hbound : (l.answer (.readVersion mount key version)).2.Bounded) :
    Agrees ((Secrets.readScalar mount key version).run backend session)
      (l.answer (.readVersion mount key version)) := by
  rw [Ledger.answer_readVersion] at hbound ⊢
  rw [Secrets.readScalar]
  dsimp only at hbound
  exact (agrees_readScalarVersioned hroute h version hbound).map fun v => v.map Versioned.data

theorem agrees_readMap (h : Represents session.state l) (version : Version)
    (hbound : (l.answer (.readMapVersion mount key version)).2.Bounded) :
    Agrees ((Secrets.readMap mount key version).run backend session)
      (l.answer (.readMapVersion mount key version)) := by
  rw [Ledger.answer] at hbound ⊢
  rw [Secrets.readMap]
  exact agrees_onKey h hroute hbound fun m k hm hr hk hb =>
    (agrees_get h hm hr hk hb version Ledger.entries_eq).through_map _

theorem agrees_writeScalar (h : Represents session.state l) (value : String)
    (hbound : (l.answer (.write mount key value)).2.Bounded) :
    Agrees ((Secrets.writeScalar mount key value).run backend session)
      (l.answer (.write mount key value)) := by
  rw [Ledger.answer] at hbound ⊢
  rw [Secrets.writeScalar]
  exact agrees_onKey h hroute hbound fun m k hm hr hk hb => agrees_put h hm hr hk _ hb

theorem agrees_writeMap (h : Represents session.state l) (map : StringMap)
    (hbound : (l.answer (.writeMap mount key map)).2.Bounded) :
    Agrees ((Secrets.writeMap mount key map).run backend session)
      (l.answer (.writeMap mount key map)) := by
  rw [Ledger.answer] at hbound ⊢
  rw [Secrets.writeMap]
  refine agrees_onKey h hroute hbound fun m k hm hr hk hb => ?_
  cases map with
  | nil => exact ⟨rfl, h⟩
  | cons e map =>
    rw [if_neg (List.cons_ne_nil e map)] at hb ⊢
    rw [StringMap.toJson_eq]
    exact (agrees_put h hm hr hk (.object (StringMap.members (e :: map))) hb).through_map some

theorem agrees_listSecrets (h : Represents session.state l) :
    Agrees ((Secrets.list mount).run backend session) (l.answer (.list mount)) := by
  rw [Ledger.answer, Secrets.list]
  cases hm : Argument.require .mount mount with
  | error fault => exact ⟨rfl, h⟩
  | ok m =>
    exact agrees_list h (Argument.accepted_of_require hm)
      ((hroute m hm).of_segments (Argument.segments_of_require hm))

end

/-- An operation agrees with what the reference store answers. -/
theorem agrees_answer {α : Type} (a : Secrets.Action α) (h : Represents session.state l)
    (hroute : ∀ m, Argument.require .mount a.mount = .ok m → Routable a.mount)
    (hbound : (l.answer a).2.Bounded) : Agrees (a.call.run backend session) (l.answer a) := by
  cases a with
  | write mount key value =>
    show Agrees ((Secrets.writeScalar mount key value).run backend session) _
    exact agrees_writeScalar hroute h value hbound
  | read mount key =>
    rw [Ledger.answer_read] at hbound ⊢
    show Agrees ((Secrets.readScalar mount key .latest).run backend session) _
    exact agrees_readScalar hroute h .latest hbound
  | readVersion mount key version =>
    show Agrees ((Secrets.readScalar mount key version).run backend session) _
    exact agrees_readScalar hroute h version hbound
  | readVersioned mount key version =>
    show Agrees ((Secrets.readScalarVersioned mount key version).run backend session) _
    exact agrees_readScalarVersioned hroute h version hbound
  | writeMap mount key map =>
    show Agrees ((Secrets.writeMap mount key map).run backend session) _
    exact agrees_writeMap hroute h map hbound
  | readMap mount key =>
    rw [Ledger.answer_readMap] at hbound ⊢
    show Agrees ((Secrets.readMap mount key .latest).run backend session) _
    exact agrees_readMap hroute h .latest hbound
  | readMapVersion mount key version =>
    show Agrees ((Secrets.readMap mount key version).run backend session) _
    exact agrees_readMap hroute h version hbound
  | list mount =>
    show Agrees ((Secrets.list mount).run backend session) _
    exact agrees_listSecrets hroute h

/-! ### Whole histories -/

/-- A step of a history: an operation that a copy of a client asks for, or a change of a version
that no client asked for. -/
inductive Step : Type → Type 1 where
  | ask {α : Type} (action : Secrets.Action α) : Step α
  | seed (mount key : String) (payload : Json) : Step Unit
  | delete (mount key : String) (version : Nat) (positive : 0 < version) : Step Unit

namespace Step

/-- What a step does in a session of the server. -/
def onServer {α : Type} (s : Service) : Step α → Session Store → Result α × Session Store
  | ask a, session => s.act backend (.secret a) session
  | seed mount key payload, session =>
    (.ok (), { session with state := Memory.seed mount key payload session.state })
  | delete mount key version _, session =>
    (.ok (), { session with state := deleteVersion mount key version session.state })

/-- What a step does in the reference store. -/
def onLedger {α : Type} : Step α → Ledger → Result α × Ledger
  | ask a, l => l.answer a
  | seed mount key payload, l => (.ok (), l.append mount key payload)
  | delete mount key version _, l => (.ok (), l.delete mount key version)

/-- An operation of the step, if it accepts its mount, is one that the server can route. -/
def Routable {α : Type} : Step α → Prop
  | ask a => ∀ m, Argument.require .mount a.mount = .ok m → Memory.Routable a.mount
  | seed _ _ _ => True
  | delete _ _ _ _ => True

theorem grows {α : Type} (e : Step α) (l : Ledger) : l.Grows (e.onLedger l).2 := by
  cases e with
  | ask a => exact Ledger.grows_answer a
  | seed mount key payload => exact Ledger.grows_append payload
  | delete mount key version positive => exact Ledger.grows_delete version

theorem agrees {α : Type} (s : Service) (e : Step α) (h : Represents session.state l)
    (hroute : e.Routable) (hbound : (e.onLedger l).2.Bounded) :
    Agrees (e.onServer s session) (e.onLedger l) := by
  cases e with
  | ask a =>
    show Agrees (a.call.run backend session) (l.answer a)
    exact agrees_answer a h hroute hbound
  | seed mount key payload => exact ⟨rfl, h.push mount key payload rfl⟩
  | delete mount key version positive => exact ⟨rfl, h.delete mount key positive⟩

end Step

/-- **The server is a store of versions.**  In every history of a new server, each answer is that
of the reference store, as long as no secret has 2³² versions. -/
theorem run_eq_ledger (s : Service) {history : History Step}
    (hroute : ∀ e ∈ history, e.2.Routable)
    (hbound : (History.run Step.onLedger history .empty).2.Bounded) :
    (History.run (Step.onServer s) history (.fresh empty)).1 =
      (History.run Step.onLedger history .empty).1 :=
  History.run_eq_of_simulation (Step.onServer s) Step.onLedger
    (fun e _ l hb => hb.of_grows (e.2.grows l))
    (fun e he _ _ hrep hb => e.2.agrees s hrep (hroute e he) hb) represents_empty hbound

/-- A secret has no more versions than there were steps. -/
theorem length_run_le (history : History Step) (l : Ledger) (m k : String) :
    ((History.run Step.onLedger history l).2.versions m k).length ≤
      (l.versions m k).length + history.length := by
  induction history generalizing l with
  | nil => exact le_rfl
  | cons e rest ih =>
    rw [History.run_cons_snd, List.length_cons]
    have hstep := (e.2.grows l m k).2
    have hrest := ih (e.2.onLedger l).2
    omega

/-- A history of fewer than 2³² steps keeps within the bound. -/
theorem bounded_run {history : History Step} (h : history.length < UInt32.size) :
    (History.run Step.onLedger history .empty).2.Bounded := fun m k => by
  have hle := length_run_le history .empty m k
  have hnone : (Ledger.empty.versions m k).length = 0 := rfl
  omega

/-- Writes in two spellings of one key, versions that nobody asked for, and reads of all kinds. -/
def busyHistory : History Step :=
  [⟨_, .ask (.write "team/kv" "db/url" "a")⟩,
   ⟨_, .ask (.writeMap "/team//kv/" "db//url/" [("user", "u"), ("pass", "p"), ("user", "v")])⟩,
   ⟨_, .ask (.readMap "team/kv" "db/url")⟩,
   ⟨_, .ask (.readVersion "team/kv" "db/url" (.specific ⟨1, by decide, by decide⟩))⟩,
   ⟨_, .seed "team/kv" "db/url" (.bool true)⟩,
   ⟨_, .delete "team/kv" "db/url" 1 (by decide)⟩,
   ⟨_, .ask (.read "team/kv" "db/url")⟩,
   ⟨_, .ask (.readVersioned "team/kv" "db/url" (.specific ⟨1, by decide, by decide⟩))⟩,
   ⟨_, .ask (.list "team/kv")⟩,
   ⟨_, .ask (.list "team/../kv")⟩]

/-- What is said of the version that was seeded. -/
def busyFault : String :=
  "secret team/kv/db/url version 3: invalid type: boolean `true`, expected struct SecretRecord"

/-- What the history is answered: the map is read back with the last of its users, the scalar secret
before it is deleted, and the seeded version is no text. -/
def busyAnswers : List (Σ α, Result α) :=
  [⟨_, .ok (Ledger.metadata 1)⟩,
   ⟨_, .ok (some (Ledger.metadata 2))⟩,
   ⟨_, .ok [("pass", "p"), ("user", "v")]⟩,
   ⟨_, .ok (some "a")⟩,
   ⟨Unit, .ok ()⟩,
   ⟨Unit, .ok ()⟩,
   ⟨Option String, .error (.deserialize busyFault)⟩,
   ⟨Option (Versioned String), .ok none⟩,
   ⟨_, .ok ["db/"]⟩,
   ⟨List String, .error (.invalidArgument
     "Vault K/V path must not contain '.' or '..' segments")⟩]

/-- The reference store with some versions of the one secret of the history. -/
def busyLedger (payloads : List Json) : Ledger :=
  payloads.foldl (fun l payload => l.append "team/kv" "db/url" payload) .empty

theorem names_busyLedger (payload : Json) (payloads : List Json) :
    (busyLedger (payload :: payloads)).names "team/kv" = ["db/"] := by
  have hkeys : ∀ (l : Ledger) (payloads : List Json), l.keys "team/kv" = {"db/url"} →
      (payloads.foldl (fun l payload => l.append "team/kv" "db/url" payload) l).keys "team/kv" =
        {"db/url"} := by
    intro l payloads hl
    induction payloads generalizing l with
    | nil => exact hl
    | cons payload payloads ih =>
      refine ih _ ?_
      show insert "db/url" (l.keys "team/kv") = {"db/url"}
      rw [hl, Finset.pair_eq_singleton]
  rw [Ledger.names, busyLedger, List.foldl_cons, hkeys _ payloads rfl, Finset.image_singleton,
    inOrder, Finset.sort_singleton]
  rfl

theorem run_onLedger_busyHistory :
    (History.run Step.onLedger busyHistory .empty).1 = busyAnswers := by
  have hmembers : StringMap.members [("user", "u"), ("pass", "p"), ("user", "v")] =
      [("pass", .string "p"), ("user", .string "v")] :=
    Json.object.inj ((StringMap.toJson_eq _).symm.trans rfl)
  have hmessage : "secret " ++ "team/kv" ++ "/" ++ "db/url" ++ " version " ++ Numeral.decimal 3 ++
      ": " ++ Ledger.unexpected (.bool true) "struct SecretRecord" = busyFault := by
    decide +kernel
  have hnames : ((busyLedger [.object [("value", .string "a")],
      .object [("pass", .string "p"), ("user", .string "v")], .bool true]).delete
        "team/kv" "db/url" 1).names "team/kv" = ["db/"] :=
    names_busyLedger (.object [("value", .string "a")]) [_, .bool true]
  have hwrite : Step.onLedger (.ask (.write "team/kv" "db/url" "a")) .empty =
      (.ok (Ledger.metadata 1), busyLedger [.object [("value", .string "a")]]) := rfl
  have hmap : Step.onLedger (.ask (.writeMap "/team//kv/" "db//url/"
      [("user", "u"), ("pass", "p"), ("user", "v")]))
        (busyLedger [.object [("value", .string "a")]]) =
      (.ok (some (Ledger.metadata 2)), busyLedger [.object [("value", .string "a")],
        .object [("pass", .string "p"), ("user", .string "v")]]) := by
    rw [Step.onLedger, Ledger.answer, hmembers]
    rfl
  rw [busyHistory, busyAnswers, ← hmessage, ← hnames, History.run_cons_of_eq _ hwrite,
    History.run_cons_of_eq _ hmap]
  rfl

theorem run_eq_ledger_busyHistory :
    ∃ s, Service.ofSettings Service.slashedSettings = .ok s ∧
      (∀ e ∈ busyHistory, e.2.Routable) ∧
      (History.run Step.onLedger busyHistory .empty).2.Bounded ∧
      (History.run (Step.onServer s) busyHistory (.fresh empty)).1 =
        (History.run Step.onLedger busyHistory .empty).1 ∧
      (History.run Step.onLedger busyHistory .empty).1 = busyAnswers := by
  -- the mounts are read one by one; the last one is not accepted
  obtain ⟨s, hs⟩ : ∃ s, Service.ofSettings Service.slashedSettings = .ok s := ⟨_, rfl⟩
  have hroute : ∀ e ∈ busyHistory, e.2.Routable := by
    have hteam : Routable "team/kv" := ⟨by decide, by decide, by decide⟩
    have hspelled : Routable "/team//kv/" := ⟨by decide, by decide, by decide⟩
    have hrejected : (Argument.require .mount "team/../kv").toOption = none := by decide
    intro e he
    simp only [busyHistory, List.mem_cons, List.not_mem_nil, or_false] at he
    rcases he with rfl | rfl | rfl | rfl | rfl | rfl | rfl | rfl | rfl | rfl
    · exact fun _ _ => hteam
    · exact fun _ _ => hspelled
    · exact fun _ _ => hteam
    · exact fun _ _ => hteam
    · trivial
    · trivial
    · exact fun _ _ => hteam
    · exact fun _ _ => hteam
    · exact fun _ _ => hteam
    · intro m hm
      have hm' : Argument.require .mount "team/../kv" = .ok m := hm
      rw [hm'] at hrejected
      exact absurd hrejected (Option.some_ne_none m)
  have hbound : (History.run Step.onLedger busyHistory .empty).2.Bounded :=
    bounded_run (by decide)
  exact ⟨s, hs, hroute, hbound, run_eq_ledger s hroute hbound, run_onLedger_busyHistory⟩

end Memory
end Strongbox
