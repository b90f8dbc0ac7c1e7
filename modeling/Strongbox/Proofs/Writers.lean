/-
Callers at the same time lose no write.

Any number of callers write and read secrets of the server in memory, each its own operations one
after another, and their steps mix in any order (`Traffic`).  Every write that the server has
carried out keeps its version: the numbers that the writers of a secret are given are the next ones
above those that were there, each given once, and behind each number lies what its writer wrote.

* `run_written`, `run_unwritten`, `run_number`, `run_sought` — what one operation does to the
  server, and what it is answered;
* `scalarSeen_toJson`, `mapSeen_toJson` — a payload is read as what was written;
* `Kept` — what holds between the server and the callers at all times;
* `Kept.of_steps`, `kept_run` — a step keeps it, and so does every schedule;
* `writes_kept` — the numbers of the writers, and what later reads are answered.
-/
import Strongbox.Proofs.Callers
import Strongbox.Proofs.Records
import Strongbox.Proofs.Refinement
import Strongbox.Proofs.Validation

namespace Strongbox

/-! ### What an operation writes and reads -/

/-- What is read of a version that a server has, if it has one: its payload, read as a type. -/
def Handle.seen {α : Type} (h : Handle) (key : String) (decode : Json → Except Json.DecodeFault α) :
    Option (Nat × Json) → Result (Option (Versioned α))
  | none => .ok none
  | some (number, payload) => h.readEntry key decode ⟨some payload, Memory.liveMetadata number⟩

theorem Handle.seen_some {α : Type} (h : Handle) (key : String)
    (decode : Json → Except Json.DecodeFault α) {payload : Json} (n : Nat)
    (hnull : payload.isNull = false) :
    h.seen key decode (some (n, payload)) =
      match decode payload with
      | .ok x => .ok (some ⟨x, Memory.liveMetadata n⟩)
      | .error f => .error (h.payloadFault key n f) := by
  cases payload with
  | null => exact absurd hnull (by decide)
  | _ => rfl

/-- A name of a place without the slashes at its ends. -/
def Argument.trimmed (v : String) : String := String.ofList (Text.trimSlashes v.toList)

theorem Argument.eq_trimmed {n : ArgumentName} {v t : String} (h : require n v = .ok t) :
    t = trimmed v := by
  obtain ⟨-, -, -, ht⟩ := require_eq_ok h
  rw [trimmed, ← ht, String.ofList_toList]

namespace Secrets.Action

open Endpoint (encodePath)

variable {α : Type}

/-- The secret that an operation writes to, as the server names it, and the payload. -/
def written? : Secrets.Action α → Option ((String × String) × Json)
  | .write mount key value =>
    some ((encodePath mount, encodePath key), ScalarRecord.toJson ⟨value⟩)
  | .writeMap mount key map => some ((encodePath mount, encodePath key), StringMap.toJson map)
  | _ => none

/-- The secret that an operation reads, as the server names it, and the version it asks for. -/
def sought? : Secrets.Action α → Option ((String × String) × Version)
  | .read mount key => some ((encodePath mount, encodePath key), .latest)
  | .readVersion mount key version => some ((encodePath mount, encodePath key), version)
  | .readVersioned mount key version => some ((encodePath mount, encodePath key), version)
  | .readMap mount key => some ((encodePath mount, encodePath key), .latest)
  | .readMapVersion mount key version => some ((encodePath mount, encodePath key), version)
  | _ => none

/-- The number of the version that a writer is told. -/
def number? : Secrets.Action α → α → Option Nat
  | .write _ _ _, metadata => some metadata.version
  | .writeMap _ _ _, metadata => metadata.map VersionMetadata.version
  | _, _ => none

/-- What a read of a scalar secret makes of a version with its number, if there is one. -/
def scalarSeen (mount key : String) (found : Option (Nat × Json)) :
    Result (Option (Versioned String)) :=
  ((Handle.mk (Argument.trimmed mount)).seen (Argument.trimmed key) ScalarRecord.decode found).map
    fun v => v.map fun v => v.map ScalarRecord.value

/-- What a read of a composite secret makes of a version with its number, if there is one. -/
def mapSeen (mount key : String) (found : Option (Nat × Json)) : Result StringMap :=
  ((Handle.mk (Argument.trimmed mount)).seen (Argument.trimmed key) StringMap.decode found).map
    fun v => (v.map Versioned.data).getD []

/-- What an operation that reads a secret makes of a version with its number, if there is one. -/
def reading? : Secrets.Action α → Option (Nat × Json) → Option (Result α)
  | .read mount key, found => some ((scalarSeen mount key found).map fun v => v.map Versioned.data)
  | .readVersion mount key _, found =>
    some ((scalarSeen mount key found).map fun v => v.map Versioned.data)
  | .readVersioned mount key _, found => some (scalarSeen mount key found)
  | .readMap mount key, found => some (mapSeen mount key found)
  | .readMapVersion mount key _, found => some (mapSeen mount key found)
  | _, _ => none

/-- The operations that callers may ask for: their names are accepted, the server routes their
mount, and no empty map is written. -/
structure Admitted (a : Secrets.Action α) : Prop where
  accepted : Argument.AllAccepted a.names
  routable : Memory.Routable a.mount
  not_empty : ¬ (Service.Action.secret a).IsEmptyWrite

theorem isNull_of_written? {p : String × String} {payload : Json} {a : Secrets.Action α}
    (h : a.written? = some (p, payload)) : payload.isNull = false := by
  cases a with
  | write mount key value => rw [← (Prod.mk.inj (Option.some_inj.1 h)).2]; rfl
  | writeMap mount key map => rw [← (Prod.mk.inj (Option.some_inj.1 h)).2]; rfl
  | _ => exact absurd h (by simp [written?])

end Secrets.Action

/-! ### One operation -/

namespace Ledger

open Endpoint (encodePath)
open Secrets.Action (Admitted)

variable {α : Type} {a : Secrets.Action α} {p : String × String} {l : Ledger}

/-- A version that is found is not null. -/
theorem isNull_of_find? {m k : String} {version : Version} {number : Nat} {payload : Json}
    (h : l.find? m k version = some (number, payload)) : payload.isNull = false := by
  rw [find?] at h
  split at h
  · split at h
    · exact absurd h (by simp)
    · next hnull =>
      rw [Option.some_inj, Prod.mk.injEq] at h
      rw [← h.2]
      simpa using hnull
  · exact absurd h (by simp)

theorem read_eq_seen (m k : String) (version : Version)
    {decode : Json → Except Json.DecodeFault α} {reader : Json → Except String α}
    (hreader : ∀ v, reader v = (decode v).mapError Json.DecodeFault.message) :
    l.read m k version reader =
      (Handle.mk m).seen k decode (l.find? (encodePath m) (encodePath k) version) := by
  rw [read]
  cases hfind : l.find? (encodePath m) (encodePath k) version with
  | none => rfl
  | some found =>
    obtain ⟨number, payload⟩ := found
    rw [Handle.seen_some _ k decode number (isNull_of_find? hfind)]
    dsimp only
    rw [hreader]
    cases decode payload <;> rfl

theorem onKey_snd {mount key : String} {f : String → String → Result α × Ledger}
    (h : ∀ m k, (f m k).2 = l) : (l.onKey mount key f).2 = l := by
  rw [onKey]
  split
  · rfl
  · split
    · rfl
    · exact h _ _

/-- Only a write changes the store. -/
theorem answer_unwritten (h : a.written? = none) : (l.answer a).2 = l := by
  cases a with
  | write mount key value => exact absurd h (by simp [Secrets.Action.written?])
  | writeMap mount key map => exact absurd h (by simp [Secrets.Action.written?])
  | list mount =>
    rw [answer]
    split <;> rfl
  | _ =>
    rw [answer]
    exact onKey_snd fun _ _ => rfl

/-- The names of an accepted operation on a key, and what is left of them. -/
theorem exists_require {mount key : String}
    (h : Argument.AllAccepted (Secrets.keyNames mount key)) :
    ∃ m k, Argument.require .mount mount = .ok m ∧ Argument.require .secretKey key = .ok k ∧
      encodePath m = encodePath mount ∧ encodePath k = encodePath key := by
  obtain ⟨⟨m, hm⟩, k, hk⟩ := Argument.allAccepted_keyNames.1 h
  exact ⟨m, k, hm, hk, Endpoint.encodePath_eq_iff.2 (Argument.segments_of_require hm),
    Endpoint.encodePath_eq_iff.2 (Argument.segments_of_require hk)⟩

/-- A write adds its payload, and is told the number of the new version. -/
theorem answer_written (ha : a.Admitted) {payload : Json} (h : a.written? = some (p, payload)) :
    (l.answer a).2 = l.append p.1 p.2 payload ∧
      ∃ x, (l.answer a).1 = .ok x ∧ a.number? x = some ((l.versions p.1 p.2).length + 1) := by
  obtain ⟨haccepted, -, hne⟩ := ha
  cases a with
  | write mount key value =>
    obtain ⟨m, k, hm, hk, hM, hK⟩ := exists_require haccepted
    obtain ⟨rfl, rfl⟩ := Prod.mk.inj (Option.some_inj.1 h)
    rw [answer, onKey_ok hm hk, write, hM, hK]
    refine ⟨rfl, _, rfl, ?_⟩
    rw [Secrets.Action.number?, versions_append_self]
    exact congrArg some List.length_append
  | writeMap mount key map =>
    obtain ⟨m, k, hm, hk, hM, hK⟩ := exists_require haccepted
    obtain ⟨rfl, rfl⟩ := Prod.mk.inj (Option.some_inj.1 h)
    have hmap : map ≠ [] := hne
    rw [answer, onKey_ok hm hk, if_neg hmap, ← StringMap.toJson_eq, write, hM, hK]
    refine ⟨rfl, _, rfl, ?_⟩
    rw [Secrets.Action.number?, versions_append_self]
    exact congrArg some List.length_append
  | _ => exact absurd h (by simp [Secrets.Action.written?])

theorem answer_readVersioned {mount key : String}
    (h : Argument.AllAccepted (Secrets.keyNames mount key)) (version : Version) :
    (l.answer (.readVersioned mount key version)).1 =
      Secrets.Action.scalarSeen mount key
        (l.find? (encodePath mount) (encodePath key) version) := by
  obtain ⟨m, k, hm, hk, hM, hK⟩ := exists_require h
  rw [answer, onKey_ok hm hk, read_scalar, read_eq_seen m k version scalar_eq, hM, hK,
    Argument.eq_trimmed hm, Argument.eq_trimmed hk]
  rfl

theorem answer_readMapVersion {mount key : String}
    (h : Argument.AllAccepted (Secrets.keyNames mount key)) (version : Version) :
    (l.answer (.readMapVersion mount key version)).1 =
      Secrets.Action.mapSeen mount key (l.find? (encodePath mount) (encodePath key) version) := by
  obtain ⟨m, k, hm, hk, hM, hK⟩ := exists_require h
  rw [answer, onKey_ok hm hk, read_eq_seen m k version entries_eq, hM, hK,
    Argument.eq_trimmed hm, Argument.eq_trimmed hk]
  rfl

/-- A read makes its answer of the version that it finds. -/
theorem answer_sought (ha : Argument.AllAccepted a.names) {version : Version}
    (h : a.sought? = some (p, version)) :
    a.reading? (l.find? p.1 p.2 version) = some (l.answer a).1 := by
  cases a with
  | write mount key value => exact absurd h (by simp [Secrets.Action.sought?])
  | writeMap mount key map => exact absurd h (by simp [Secrets.Action.sought?])
  | list mount => exact absurd h (by simp [Secrets.Action.sought?])
  | read mount key =>
    obtain ⟨rfl, rfl⟩ := Prod.mk.inj (Option.some_inj.1 h)
    rw [answer_read, answer_readVersion, answer_readVersioned ha, Secrets.Action.reading?]
  | readVersion mount key version =>
    obtain ⟨rfl, rfl⟩ := Prod.mk.inj (Option.some_inj.1 h)
    rw [answer_readVersion, answer_readVersioned ha, Secrets.Action.reading?]
  | readVersioned mount key version =>
    obtain ⟨rfl, rfl⟩ := Prod.mk.inj (Option.some_inj.1 h)
    rw [answer_readVersioned ha, Secrets.Action.reading?]
  | readMap mount key =>
    obtain ⟨rfl, rfl⟩ := Prod.mk.inj (Option.some_inj.1 h)
    rw [answer_readMap, answer_readMapVersion ha, Secrets.Action.reading?]
  | readMapVersion mount key version =>
    obtain ⟨rfl, rfl⟩ := Prod.mk.inj (Option.some_inj.1 h)
    rw [answer_readMapVersion ha, Secrets.Action.reading?]

end Ledger

/-! ### Payloads are read back -/

namespace Secrets.Action

/-- A scalar secret is read as the value that was written. -/
theorem scalarSeen_toJson (mount key value : String) (n : Nat) :
    scalarSeen mount key (some (n, ScalarRecord.toJson ⟨value⟩)) =
      .ok (some ⟨value, Memory.liveMetadata n⟩) := rfl

/-- A composite secret is read as the map that was written. -/
theorem mapSeen_toJson (mount key : String) {map : StringMap}
    (h : map.Pairwise fun e f => e.1 < f.1) (n : Nat) :
    mapSeen mount key (some (n, map.toJson)) = .ok map := by
  rw [mapSeen, Handle.seen_some _ _ _ n rfl, StringMap.decode_toJson h]
  rfl

end Secrets.Action

/-! ### One operation on the server -/

namespace Memory

open Endpoint (encodePath)
open Secrets.Action (Admitted)

variable {α : Type} {a : Secrets.Action α} {p : String × String} {payload : Json}
  {session : Session Store} {l : Ledger}

/-- The versions of a secret of the server. -/
def Store.versionsOf (st : Store) (p : String × String) : List Stored :=
  versionsIn st.cells p.1 p.2

/-- No secret of the server has more versions than fit 32 bits. -/
def Store.Bounded (st : Store) : Prop := ∀ p, (st.versionsOf p).length < UInt32.size

/-- Every state of the server is that of a reference store. -/
theorem exists_represents {st : Store} (h : Ordered st.cells) : ∃ l, Represents st l := by
  refine ⟨⟨fun m k => (versionsIn st.cells m k).map record,
    fun m => ((st.cells.filter (·.mount == m)).map Cell.key).toFinset, fun m k => ?_⟩, h,
    fun _ _ => rfl⟩
  rw [List.mem_toFinset, ne_eq, List.map_eq_nil_iff, ← ne_eq, versionsIn_ne_nil_iff h, List.mem_map]
  constructor
  · rintro ⟨c, hc, rfl⟩
    obtain ⟨hc, hm⟩ := List.mem_filter.1 hc
    exact ⟨c, hc, by simpa using hm, rfl⟩
  · rintro ⟨c, hc, hm, rfl⟩
    exact ⟨c, List.mem_filter.2 ⟨hc, by simpa using hm⟩, rfl⟩

theorem respond_of_ne_write {q : Request} (h : q.operation ≠ .write) (st : Store) :
    (respond q st).2 = st := by
  rw [respond]
  cases route q.path with
  | secret mount key =>
    dsimp only
    rw [if_neg h]
  | _ => rfl

/-- Nothing but a write changes what the server has. -/
theorem run_unwritten (ha : a.Admitted) (h : a.written? = none) :
    (a.call.run backend session).2.state.cells = session.state.cells := by
  obtain ⟨q, finish, hplan⟩ := a.isExchange_call ha.accepted ha.not_empty
  have hsends : a.Sends q := Secrets.Action.request?_sends (by rw [hplan, Plan.request?])
  have hread : q.operation ≠ .write := by
    cases hsends with
    | write _ _ => exact absurd h (by simp [Secrets.Action.written?])
    | writeMap _ _ _ => exact absurd h (by simp [Secrets.Action.written?])
    | _ =>
      intro hwrite
      cases hwrite
  rw [(Call.run_of_plan hplan backend session).2]
  show (respond q _).2.cells = _
  rw [respond_of_ne_write hread]

theorem through_map {β : Type} (handle : Handle) (plan : Plan α) (f : α → β) :
    Secrets.through handle (plan.map f) = (Secrets.through handle plan).map f := rfl

theorem cells_put {m k key : String} (hm : Argument.Accepted m) (hroute : Routable m)
    (hk : Argument.require .secretKey key = .ok k) :
    ((Secrets.through ⟨m⟩ (Handle.put ⟨m⟩ k payload)).run backend session).2.state.cells =
      push (encodePath m) (encodePath k) ⟨payload, false⟩ session.state.cells := by
  rw [run_through, Handle.put_eq (h := ⟨m⟩) hm hk, run_exchange, respond_write hm hroute]
  rfl

/-- A write adds a version with its payload to its secret. -/
theorem run_written (ha : a.Admitted) (h : a.written? = some (p, payload)) :
    (a.call.run backend session).2.state.cells =
      push p.1 p.2 ⟨payload, false⟩ session.state.cells := by
  obtain ⟨haccepted, hroute, hne⟩ := ha
  cases a with
  | write mount key value =>
    obtain ⟨m, k, hm, hk, hM, hK⟩ := Ledger.exists_require haccepted
    obtain ⟨rfl, rfl⟩ := Prod.mk.inj (Option.some_inj.1 h)
    rw [Secrets.Action.call, Service.writeSecret, Secrets.writeScalar, Secrets.onKey_accepted hm hk,
      cells_put (Argument.accepted_of_require hm)
        (hroute.of_segments (Argument.segments_of_require hm)) hk, hM, hK]
  | writeMap mount key map =>
    obtain ⟨m, k, hm, hk, hM, hK⟩ := Ledger.exists_require haccepted
    obtain ⟨rfl, rfl⟩ := Prod.mk.inj (Option.some_inj.1 h)
    have hmap : ¬ map.isEmpty = true := by simpa [Service.Action.IsEmptyWrite] using hne
    rw [Secrets.Action.call, Service.writeSecretMap, Secrets.writeMap,
      Secrets.onKey_accepted hm hk, if_neg hmap, through_map, run_call_map,
      cells_put (Argument.accepted_of_require hm)
        (hroute.of_segments (Argument.segments_of_require hm)) hk, hM, hK]
  | _ => exact absurd h (by simp [Secrets.Action.written?])

/-- An operation of the server answers what the reference store does. -/
theorem represents_run (h : Represents session.state l) (ha : a.Admitted) :
    Represents (a.call.run backend session).2.state (l.answer a).2 := by
  cases hw : a.written? with
  | none =>
    rw [Ledger.answer_unwritten hw]
    exact h.of_cells (run_unwritten ha hw)
  | some w =>
    rw [(Ledger.answer_written ha hw).1]
    exact h.push w.1.1 w.1.2 w.2 (run_written ha hw)

theorem Represents.bounded {st : Store} (h : Represents st l) (hb : st.Bounded) : l.Bounded :=
  fun m k => by
    rw [← h.length_eq m k]
    exact hb (m, k)

theorem run_answer (h : Represents session.state l) (ha : a.Admitted)
    (hb : (a.call.run backend session).2.state.Bounded) :
    (a.call.run backend session).1 = (l.answer a).1 :=
  (agrees_answer a h (fun _ _ => ha.routable) ((represents_run h ha).bounded hb)).1

/-- A writer is told the number of the version that it adds. -/
theorem run_number (hordered : Ordered session.state.cells) (ha : a.Admitted)
    (h : a.written? = some (p, payload)) (hb : (a.call.run backend session).2.state.Bounded) :
    ∃ x, (a.call.run backend session).1 = .ok x ∧
      a.number? x = some ((session.state.versionsOf p).length + 1) := by
  obtain ⟨l, hl⟩ := exists_represents hordered
  rw [run_answer hl ha hb, Store.versionsOf, hl.length_eq]
  exact (Ledger.answer_written ha h).2

/-- A version of a secret is found under its number, and the last one without a number. -/
theorem find?_of_versionsOf {st : Store} (hl : Represents st l) {n : Nat} {version : Version}
    (hn : version.number?.getD (st.versionsOf p).length = n)
    (hnull : payload.isNull = false)
    (h : (st.versionsOf p)[n - 1]? = some ⟨payload, false⟩) :
    l.find? p.1 p.2 version = some (n, payload) := by
  rw [Store.versionsOf] at hn h
  rw [Ledger.find?, ← hl.versions, List.length_map, hn, List.getElem?_map, h]
  show (if payload.isNull then none else some (n, payload)) = _
  rw [hnull, if_neg Bool.false_ne_true]

/-- A read only looks. -/
theorem written?_of_sought? {version : Version} (h : a.sought? = some (p, version)) :
    a.written? = none := by
  cases a with
  | write mount key value => exact absurd h (by simp [Secrets.Action.sought?])
  | writeMap mount key map => exact absurd h (by simp [Secrets.Action.sought?])
  | _ => rfl

theorem run_read (h : Represents session.state l) (ha : a.Admitted) (hb : session.state.Bounded)
    {version : Version} (hs : a.sought? = some (p, version)) :
    a.reading? (l.find? p.1 p.2 version) = some (a.call.run backend session).1 := by
  have hcells : (a.call.run backend session).2.state.cells = session.state.cells :=
    run_unwritten ha (written?_of_sought? hs)
  have hb' : (a.call.run backend session).2.state.Bounded := fun p' => by
    rw [Store.versionsOf, hcells]
    exact hb p'
  rw [run_answer h ha hb']
  exact Ledger.answer_sought ha.accepted hs

/-- A read of a version that was written is what it makes of the payload. -/
theorem run_sought (hordered : Ordered session.state.cells) (ha : a.Admitted)
    (hb : session.state.Bounded) {version : Version} (h : a.sought? = some (p, version)) {n : Nat}
    (hn : version.number?.getD (session.state.versionsOf p).length = n)
    (hnull : payload.isNull = false)
    (hget : (session.state.versionsOf p)[n - 1]? = some ⟨payload, false⟩) :
    a.reading? (some (n, payload)) = some (a.call.run backend session).1 := by
  obtain ⟨l, hl⟩ := exists_represents hordered
  rw [← find?_of_versionsOf hl hn hnull hget]
  exact run_read hl ha hb h

/-- A read depends on nothing but the versions of its secret. -/
theorem run_sought_congr {session' : Session Store} (hordered : Ordered session.state.cells)
    (hordered' : Ordered session'.state.cells) (ha : a.Admitted) (hb : session.state.Bounded)
    (hb' : session'.state.Bounded) {version : Version} (h : a.sought? = some (p, version))
    (hsame : session'.state.versionsOf p = session.state.versionsOf p) :
    (a.call.run backend session').1 = (a.call.run backend session).1 := by
  obtain ⟨l, hl⟩ := exists_represents hordered
  obtain ⟨l', hl'⟩ := exists_represents hordered'
  have hfind : l'.find? p.1 p.2 version = l.find? p.1 p.2 version := by
    rw [Store.versionsOf, Store.versionsOf] at hsame
    rw [Ledger.find?, Ledger.find?, ← hl.versions, ← hl'.versions, hsame]
  have hread := run_read hl' ha hb' h
  rw [hfind, run_read hl ha hb h, Option.some_inj] at hread
  exact hread.symm

/-! ### What an operation adds -/

/-- The versions that an operation adds to a secret. -/
def added (a : Secrets.Action α) (p : String × String) : List Stored :=
  (a.written?.filter (·.1 = p)).toList.map fun w => ⟨w.2, false⟩

theorem added_of_written (h : a.written? = some (p, payload)) : added a p = [⟨payload, false⟩] := by
  rw [added, h, Option.filter_some, if_pos (by simp)]
  rfl

theorem added_of_ne {w : (String × String) × Json} (h : a.written? = some w) (hne : w.1 ≠ p) :
    added a p = [] := by
  rw [added, h, Option.filter_some, if_neg (by simpa using hne)]
  rfl

theorem added_of_unwritten (h : a.written? = none) (p : String × String) : added a p = [] := by
  rw [added, h]
  rfl

theorem versionsOf_run (hordered : Ordered session.state.cells) (ha : a.Admitted)
    (p : String × String) :
    (a.call.run backend session).2.state.versionsOf p =
      session.state.versionsOf p ++ added a p := by
  rw [Store.versionsOf, Store.versionsOf]
  cases h : a.written? with
  | none => rw [run_unwritten ha h, added_of_unwritten h, List.append_nil]
  | some w =>
    obtain ⟨q, payload⟩ := w
    rw [run_written ha h, versionsIn_push hordered]
    by_cases hq : q = p
    · subst hq
      rw [if_pos ⟨rfl, rfl⟩, added_of_written h]
    · rw [if_neg fun hboth => hq (Prod.ext hboth.1 hboth.2), added_of_ne h hq, List.append_nil]

theorem ordered_run (hordered : Ordered session.state.cells) (ha : a.Admitted) :
    Ordered (a.call.run backend session).2.state.cells := by
  cases h : a.written? with
  | none =>
    rw [run_unwritten ha h]
    exact hordered
  | some w =>
    rw [run_written ha h]
    exact ordered_push hordered

end Memory

/-! ### The numbers that writers are told -/

/-- The number of the version that an operation has written of a secret, if this is its outcome. -/
def Secrets.Action.told? {α : Type} (a : Secrets.Action α) (p : String × String)
    (outcome : Option (Result α)) : Option Nat :=
  if a.written?.map Prod.fst = some p then
    (outcome.bind Except.toOption).bind a.number?
  else none

/-- The number of the version that an operation has written of a secret, as soon as it has one. -/
def Job.number? (p : String × String) (j : Job) : Option Nat :=
  j.action.told? p (j.action.call.outcome? j.stage)

namespace Job

variable {α : Type} {a : Secrets.Action α} {stage stage' : Call.Stage α} {p : String × String}

theorem number?_eq_none (h : a.call.outcome? stage = none) : number? p ⟨a, stage⟩ = none := by
  show a.told? p (a.call.outcome? stage) = none
  rw [h, Secrets.Action.told?]
  exact ite_self none

theorem number?_congr (h : a.call.outcome? stage' = a.call.outcome? stage) :
    number? p ⟨a, stage'⟩ = number? p ⟨a, stage⟩ := congrArg (a.told? p) h

theorem isExecuted_congr (h : a.call.outcome? stage' = a.call.outcome? stage) :
    isExecuted ⟨a, stage'⟩ = isExecuted ⟨a, stage⟩ := congrArg Option.isSome h

open Memory in
/-- An operation that is carried out has the number of the version that it adds, if it adds one. -/
theorem toList_number? {session : Session Store} (hordered : Ordered session.state.cells)
    (ha : a.Admitted) (hb : (a.call.run backend session).2.state.Bounded)
    (h : a.call.outcome? stage = some (a.call.run backend session).1) :
    (number? p ⟨a, stage⟩).toList =
      List.range' ((session.state.versionsOf p).length + 1) (added a p).length := by
  show (a.told? p (a.call.outcome? stage)).toList = _
  rw [h, Secrets.Action.told?]
  cases hw : a.written? with
  | none =>
    rw [added_of_unwritten hw, if_neg (by simp)]
    rfl
  | some w =>
    obtain ⟨q, payload⟩ := w
    by_cases hq : q = p
    · subst hq
      obtain ⟨x, hx, hnumber⟩ := run_number hordered ha hw hb
      rw [Option.map_some, if_pos rfl, hx, added_of_written hw]
      show (a.number? x).toList = _
      rw [hnumber]
      rfl
    · rw [added_of_ne hw hq, if_neg (by simpa using hq)]
      rfl

end Job

/-! ### What holds at all times -/

namespace Traffic

open Memory

variable {σ : Type} {b : Backend σ}

/-- The numbers of the versions of a secret that operations of the callers have written. -/
def numbers (r : Traffic σ) (p : String × String) : List Nat := r.jobs.filterMap (Job.number? p)

/-- The operation of a caller has written this version of a secret. -/
def Wrote (r : Traffic σ) (p : String × String) (n : Nat) (payload : Json) : Prop :=
  ∃ j ∈ r.jobs, j.action.written? = some (p, payload) ∧ j.number? p = some n

/-- Operation `i` of the callers gets a result between two times. -/
def Gets {α : Type} (r r' : Traffic σ) (i : Nat) (a : Secrets.Action α) (x : Result α) : Prop :=
  ∃ stage stage', r.jobs[i]? = some ⟨a, stage⟩ ∧ a.call.outcome? stage = none ∧
    r'.jobs[i]? = some ⟨a, stage'⟩ ∧ a.call.outcome? stage' = some x

/-- The server is in order, and the callers ask for nothing that is not admitted. -/
structure Sound (r : Traffic Store) : Prop where
  ordered : Ordered r.session.state.cells
  admitted : ∀ j ∈ r.jobs, j.action.Admitted

/-- What holds between the server, as it is and as it was at first, and the callers. -/
structure Kept (first : Store) (r : Traffic Store) : Prop where
  count : ∀ p, (r.session.state.versionsOf p).length =
    (first.versionsOf p).length + (r.numbers p).length
  consecutive : ∀ p, (r.numbers p).Perm
    (List.range' ((first.versionsOf p).length + 1) (r.numbers p).length)
  held : ∀ j ∈ r.jobs, ∀ p payload, j.action.written? = some (p, payload) → j.isExecuted = true →
    ∃ n, j.number? p = some n ∧
      (r.session.state.versionsOf p)[n - 1]? = some ⟨payload, false⟩

variable {first : Store} {r r' : Traffic Store}

/-- What a step adds to the versions of the secrets and to the numbers of the writers. -/
theorem Sound.grows (hr : r.Sound) (h : Steps backend r r') (p : String × String) :
    r.session.state.versionsOf p <+: r'.session.state.versionsOf p := by
  rcases h.exists_moves with ⟨-, hsession⟩ | ⟨before, after, j, stage', hjobs, -, hmoves⟩
  · rw [hsession]
  · cases hmoves with
    | quiet _ hstate => rw [hstate]
    | execute _ _ hstate =>
      have hj : j.action.Admitted := hr.admitted j (by simp [hjobs])
      rw [hstate, versionsOf_run hr.ordered hj]
      exact List.prefix_append _ _

theorem Sound.of_steps (hr : r.Sound) (h : Steps backend r r') : r'.Sound := by
  rcases h.exists_moves with ⟨hjobs, hsession⟩ | ⟨before, after, j, stage', hjobs, hjobs', hmoves⟩
  · exact ⟨by rw [hsession]; exact hr.ordered, by rw [hjobs]; exact hr.admitted⟩
  · have hadmitted := hr.admitted
    rw [hjobs, List.forall_mem_append, List.forall_mem_cons] at hadmitted
    refine ⟨?_, by rw [hjobs', List.forall_mem_append, List.forall_mem_cons]; exact hadmitted⟩
    cases hmoves with
    | quiet _ hstate =>
      rw [hstate]
      exact hr.ordered
    | execute _ _ hstate =>
      rw [hstate]
      exact ordered_run hr.ordered hadmitted.2.1

theorem numbers_perm {p : String × String} {before after : List Job} {j j' : Job} {new : List Nat}
    (hjobs : r.jobs = before ++ j :: after) (hjobs' : r'.jobs = before ++ j' :: after)
    (hnew : (j'.number? p).toList = (j.number? p).toList ++ new) :
    (r'.numbers p).Perm (r.numbers p ++ new) := by
  have hcons : ∀ j : Job, (j :: after).filterMap (Job.number? p) =
      (j.number? p).toList ++ after.filterMap (Job.number? p) := fun j => by
    rw [List.filterMap_cons]
    cases j.number? p <;> rfl
  rw [numbers, numbers, hjobs, hjobs', List.filterMap_append, List.filterMap_append, hcons, hcons,
    hnew, List.append_assoc, List.append_assoc, List.append_assoc]
  exact (List.perm_append_comm.append_left _).append_left _

/-- A version of a secret stays what it is when others are added. -/
theorem getElem?_of_grown {vs vs' : List Stored} (h : vs <+: vs') {i : Nat} {v : Stored}
    (hi : vs[i]? = some v) : vs'[i]? = some v := by
  obtain ⟨rest, rfl⟩ := h
  rw [List.getElem?_append_left (List.getElem?_eq_some_iff.1 hi).1, hi]

/-- What is added to a secret in a step has the next numbers, and its writer is told them. -/
theorem Sound.adds (hr : r.Sound) (h : Steps backend r r') (hb : r'.session.state.Bounded)
    (p : String × String) :
    ∃ vs, r'.session.state.versionsOf p = r.session.state.versionsOf p ++ vs ∧
      (r'.numbers p).Perm (r.numbers p ++
        List.range' ((r.session.state.versionsOf p).length + 1) vs.length) := by
  rcases h.exists_moves with ⟨hjobs, hsession⟩ | ⟨before, after, j, stage', hjobs, hjobs', hmoves⟩
  · refine ⟨[], by rw [hsession, List.append_nil], ?_⟩
    rw [numbers, hjobs, List.length_nil, List.range'_zero, List.append_nil]
    exact List.Perm.refl _
  · cases hmoves with
    | quiet houtcome hstate =>
      refine ⟨[], by rw [hstate, List.append_nil], numbers_perm hjobs hjobs' ?_⟩
      rw [List.length_nil, List.range'_zero, List.append_nil]
      exact congrArg Option.toList (Job.number?_congr houtcome)
    | execute hnone houtcome hstate =>
      have hj : j.action.Admitted := hr.admitted j (by simp [hjobs])
      rw [hstate] at hb
      refine ⟨added j.action p, by rw [hstate, versionsOf_run hr.ordered hj],
        numbers_perm hjobs hjobs' ?_⟩
      have hbefore : j.number? p = none := Job.number?_eq_none hnone
      rw [Job.toList_number? hr.ordered hj hb houtcome, hbefore, Option.toList_none,
        List.nil_append]

/-- A step of the callers keeps what holds between them and the server. -/
theorem Kept.of_steps (h : Kept first r) (hr : r.Sound) (hstep : Steps backend r r')
    (hb : r'.session.state.Bounded) : Kept first r' := by
  refine ⟨fun p => ?_, fun p => ?_, fun j' hj' p payload hw hexecuted => ?_⟩
  · obtain ⟨vs, hvs, hperm⟩ := hr.adds hstep hb p
    rw [hvs, List.length_append, hperm.length_eq, List.length_append, List.length_range', h.count,
      Nat.add_assoc]
  · obtain ⟨vs, -, hperm⟩ := hr.adds hstep hb p
    have hnext : (first.versionsOf p).length + 1 + (r.numbers p).length =
        (r.session.state.versionsOf p).length + 1 := by
      rw [h.count]
      omega
    rw [hperm.length_eq, List.length_append, List.length_range', ← List.range'_append_1, hnext]
    exact hperm.trans ((h.consecutive p).append_right _)
  · -- a version that was held before is held still
    have hkeep : ∀ j ∈ r.jobs, j.action.written? = some (p, payload) → j.isExecuted = true →
        ∃ n, j.number? p = some n ∧
          (r'.session.state.versionsOf p)[n - 1]? = some ⟨payload, false⟩ := by
      intro j hj hwj hej
      obtain ⟨n, hn, hget⟩ := h.held j hj p payload hwj hej
      exact ⟨n, hn, getElem?_of_grown (hr.grows hstep p) hget⟩
    rcases hstep.exists_moves with ⟨hjobs, -⟩ | ⟨before, after, j, stage', hjobs, hjobs', hmoves⟩
    · exact hkeep j' (hjobs ▸ hj') hw hexecuted
    · have hj : j ∈ r.jobs := by simp [hjobs]
      rw [hjobs', List.mem_append, List.mem_cons] at hj'
      have hothers : j' ∈ before ∨ j' ∈ after → j' ∈ r.jobs := by
        rw [hjobs, List.mem_append, List.mem_cons]
        tauto
      rcases hj' with hj' | rfl | hj'
      · exact hkeep j' (hothers (.inl hj')) hw hexecuted
      · cases hmoves with
        | quiet houtcome _ =>
          rw [Job.number?_congr houtcome]
          rw [Job.isExecuted_congr houtcome] at hexecuted
          exact hkeep j hj hw hexecuted
        | execute _ houtcome hstate =>
          have hadmitted := hr.admitted j hj
          rw [hstate] at hb ⊢
          have hnumber := Job.toList_number? (p := p) hr.ordered hadmitted hb houtcome
          have hadded : added j.action p = [⟨payload, false⟩] := added_of_written hw
          refine ⟨(r.session.state.versionsOf p).length + 1, ?_, ?_⟩
          · rw [hadded] at hnumber
            exact Option.toList_eq_singleton_iff.1 hnumber
          · rw [versionsOf_run hr.ordered hadmitted, hadded, Nat.add_sub_cancel,
              List.getElem?_concat_length]
      · exact hkeep j' (hothers (.inr hj')) hw hexecuted

/-! ### Whole schedules -/

theorem Sound.run (hr : r.Sound) (schedule : List Nat) : (r.run backend schedule).Sound :=
  run_induction hr (fun _ _ hstep hsound => hsound.of_steps hstep) schedule

theorem Sound.grows_run (hr : r.Sound) (schedule : List Nat) (p : String × String) :
    r.session.state.versionsOf p <+: (r.run backend schedule).session.state.versionsOf p := by
  have hboth : (r.run backend schedule).Sound ∧
      r.session.state.versionsOf p <+: (r.run backend schedule).session.state.versionsOf p :=
    run_induction (P := fun r' => r'.Sound ∧
      r.session.state.versionsOf p <+: r'.session.state.versionsOf p) ⟨hr, List.prefix_refl _⟩
      (fun _ _ hstep h => ⟨h.1.of_steps hstep, h.2.trans (h.1.grows hstep p)⟩) schedule
  exact hboth.2

/-- A bound of the versions in the end is one at all times. -/
theorem Sound.bounded_of_run (hr : r.Sound) {schedule : List Nat}
    (hb : (r.run backend schedule).session.state.Bounded) : r.session.state.Bounded :=
  fun p => lt_of_le_of_lt (hr.grows_run schedule p).length_le (hb p)

variable {session : Session Store} {programs : List (History Secrets.Action)}

theorem mem_jobs_start {j : Job} (h : j ∈ (start session programs).jobs) :
    ∃ program ∈ programs, ∃ e ∈ program, j = ⟨e.2, .asked⟩ := by
  obtain ⟨jobs, hjobs, hj⟩ := List.mem_flatten.1 h
  obtain ⟨program, hprogram, rfl⟩ := List.mem_map.1 hjobs
  obtain ⟨e, he, rfl⟩ := List.mem_map.1 hj
  exact ⟨program, hprogram, e, he, rfl⟩

theorem sound_start (hordered : Ordered session.state.cells)
    (hadmitted : ∀ program ∈ programs, ∀ e ∈ program, e.2.Admitted) :
    (start session programs).Sound := by
  refine ⟨hordered, fun j hj => ?_⟩
  obtain ⟨program, hprogram, e, he, rfl⟩ := mem_jobs_start hj
  exact hadmitted program hprogram e he

theorem numbers_start (p : String × String) : (start session programs).numbers p = [] := by
  refine List.filterMap_eq_nil_iff.2 fun j hj => ?_
  obtain ⟨program, -, e, -, rfl⟩ := mem_jobs_start hj
  exact Job.number?_eq_none rfl

theorem kept_start : Kept session.state (start session programs) := by
  refine ⟨fun p => ?_, fun p => ?_, fun j hj p payload hw hexecuted => ?_⟩
  · rw [numbers_start]
    rfl
  · rw [numbers_start]
    exact List.Perm.refl _
  · obtain ⟨program, -, e, -, rfl⟩ := mem_jobs_start hj
    exact absurd hexecuted Bool.false_ne_true

/-- What holds between the server and the callers holds after every schedule. -/
theorem kept_run (h : Kept first r) (hr : r.Sound) {schedule : List Nat}
    (hb : (r.run backend schedule).session.state.Bounded) :
    Kept first (r.run backend schedule) := by
  induction schedule using List.reverseRecOn with
  | nil => exact h
  | append_singleton schedule caller ih =>
    rw [run_append] at hb ⊢
    have hsound := hr.run schedule
    exact (ih (hsound.bounded_of_run hb)).of_steps hsound (steps_step backend _ caller) hb

/-! ### What is told and read -/

/-- The number that a writer is told stays with its payload. -/
theorem Kept.get_of_wrote (h : Kept first r) {p : String × String} {n : Nat} {payload : Json}
    (hwrote : r.Wrote p n payload) :
    (r.session.state.versionsOf p)[n - 1]? = some ⟨payload, false⟩ ∧ payload.isNull = false := by
  obtain ⟨j, hj, hw, hn⟩ := hwrote
  have hexecuted : j.isExecuted = true := by
    cases hnone : j.action.call.outcome? j.stage with
    | none => exact absurd ((Job.number?_eq_none hnone).symm.trans hn) (by simp)
    | some x => rw [Job.isExecuted, hnone, Option.isSome_some]
  obtain ⟨m, hm, hget⟩ := h.held j hj p payload hw hexecuted
  obtain rfl : m = n := Option.some_inj.1 (hm.symm.trans hn)
  exact ⟨hget, Secrets.Action.isNull_of_written? hw⟩

/-- If there are writers, one of them has the highest number, which is that of the last version. -/
theorem Kept.exists_highest (h : Kept first r) {p : String × String} (hne : r.numbers p ≠ []) :
    ∃ payload, r.Wrote p (r.session.state.versionsOf p).length payload ∧
      ∀ m ∈ r.numbers p, m ≤ (r.session.state.versionsOf p).length := by
  have hpos := List.length_pos_of_ne_nil hne
  have hrange : ∀ m, m ∈ r.numbers p ↔
      (first.versionsOf p).length < m ∧ m ≤ (r.session.state.versionsOf p).length := by
    intro m
    rw [(h.consecutive p).mem_iff, List.mem_range'_1, h.count]
    omega
  have hlast : (r.session.state.versionsOf p).length ∈ r.numbers p :=
    (hrange _).2 ⟨by rw [h.count]; omega, le_rfl⟩
  obtain ⟨j, hj, hnumber⟩ := List.mem_filterMap.1 hlast
  obtain ⟨payload, hw⟩ : ∃ payload, j.action.written? = some (p, payload) := by
    rw [Job.number?, Secrets.Action.told?] at hnumber
    split at hnumber
    · next hp =>
      obtain ⟨⟨q, payload⟩, hw, rfl⟩ := Option.map_eq_some_iff.1 hp
      exact ⟨payload, hw⟩
    · exact absurd hnumber (by simp)
  exact ⟨payload, ⟨j, hj, hw, hnumber⟩, fun m hm => ((hrange m).1 hm).2⟩

/-- Callers of the server in memory, after the steps of a schedule. -/
def served (session : Session Store) (programs : List (History Secrets.Action))
    (schedule : List Nat) : Traffic Store := (start session programs).run backend schedule

section

variable {α : Type} {a : Secrets.Action α} {i : Nat} {x : Result α} {p : String × String}

/-- A version that was written is read, whatever else is written in the meantime. -/
theorem Kept.reading_of_wrote (h : Kept first r) (hr : r.Sound) {later : List Nat}
    (hb : (r.run backend later).session.state.Bounded) {version : VersionNumber} {payload : Json}
    (hs : a.sought? = some (p, .specific version)) (hwrote : r.Wrote p version.value payload)
    (hgets : Gets r (r.run backend later) i a x) :
    a.reading? (some (version.value, payload)) = some x := by
  obtain ⟨stage, stage', hi, hnone, hi', hx⟩ := hgets
  obtain ⟨before, caller, after, rfl, hrun⟩ := exists_execution hi hnone hi' hx
  obtain ⟨hget, hnull⟩ := h.get_of_wrote hwrote
  have hsound := hr.run before
  rw [run_append] at hb
  rw [hrun]
  exact run_sought hsound.ordered (hr.admitted _ (List.mem_of_getElem? hi))
    (hsound.bounded_of_run hb) hs rfl hnull (getElem?_of_grown (hr.grows_run before p) hget)

/-- The latest version is that of the writer with the highest number, or the one that there was
before anything was written. -/
theorem Kept.reading_latest (h : Kept session.state r) (hr : r.Sound)
    (hgrows : session.state.versionsOf p <+: r.session.state.versionsOf p)
    (hordered : Ordered session.state.cells) (hfirst : session.state.Bounded) {caller : Nat}
    (hb : (r.step backend caller).session.state.Bounded) (hs : a.sought? = some (p, .latest))
    (hgets : Gets r (r.step backend caller) i a x) :
    (r.numbers p = [] ∧ x = (a.call.run backend session).1) ∨
      ∃ n payload, r.Wrote p n payload ∧ (∀ m ∈ r.numbers p, m ≤ n) ∧
        a.reading? (some (n, payload)) = some x := by
  obtain ⟨stage, stage', hi, hnone, hi', hx⟩ := hgets
  have hstep := steps_step backend r caller
  have hadmitted : a.Admitted := hr.admitted _ (List.mem_of_getElem? hi)
  have hbefore : r.session.state.Bounded := fun p =>
    lt_of_le_of_lt (hr.grows hstep p).length_le (hb p)
  rw [hstep.run_eq hi hnone hi' hx]
  by_cases hne : r.numbers p = []
  · have hsame : r.session.state.versionsOf p = session.state.versionsOf p := by
      refine (hgrows.eq_of_length ?_).symm
      rw [h.count, hne, List.length_nil, Nat.add_zero]
    exact .inl ⟨hne, run_sought_congr hordered hr.ordered hadmitted hfirst hbefore hs hsame⟩
  · obtain ⟨payload, hwrote, hhighest⟩ := h.exists_highest hne
    obtain ⟨hget, hnull⟩ := h.get_of_wrote hwrote
    exact .inr ⟨_, payload, hwrote, hhighest,
      run_sought hr.ordered hadmitted hbefore hs rfl hnull hget⟩

end

/-- **No write is lost, and none is counted twice.**  Any callers of the server in memory, each with
its own writes and reads, take their steps in the order of any schedule, while no secret gets 2³²
versions.
The numbers of the versions that the writers of a secret have written, whether they have returned
or not, are the next ones above those that were there, and each is told once; every write that was
carried out has such a number.
A read of a number that was told before the read was carried out is the payload of the writer that
was told it.  A read of the latest version is the payload of the writer with the highest number of
those before it, or what it would have been at first if there was none. -/
theorem writes_kept (hordered : Ordered session.state.cells)
    (hadmitted : ∀ program ∈ programs, ∀ e ∈ program, e.2.Admitted) {schedule : List Nat}
    (hb : (served session programs schedule).session.state.Bounded) :
    (∀ p, ((served session programs schedule).numbers p).Nodup ∧
      ((served session programs schedule).numbers p).Perm
        (List.range' ((session.state.versionsOf p).length + 1)
          ((served session programs schedule).numbers p).length) ∧
      ((served session programs schedule).session.state.versionsOf p).length =
        (session.state.versionsOf p).length +
          ((served session programs schedule).numbers p).length) ∧
    (∀ j ∈ (served session programs schedule).jobs, ∀ p payload,
      j.action.written? = some (p, payload) → j.isExecuted = true → ∃ n, j.number? p = some n) ∧
    (∀ before later, schedule = before ++ later →
      ∀ {α : Type} (a : Secrets.Action α) (i : Nat) (x : Result α) p (version : VersionNumber)
        payload, a.sought? = some (p, .specific version) →
        (served session programs before).Wrote p version.value payload →
        Gets (served session programs before) (served session programs schedule) i a x →
        a.reading? (some (version.value, payload)) = some x) ∧
    ∀ before caller later, schedule = before ++ caller :: later →
      ∀ {α : Type} (a : Secrets.Action α) (i : Nat) (x : Result α) p,
        a.sought? = some (p, .latest) →
        Gets (served session programs before) (served session programs (before ++ [caller])) i a x →
        ((served session programs before).numbers p = [] ∧ x = (a.call.run backend session).1) ∨
          ∃ n payload, (served session programs before).Wrote p n payload ∧
            (∀ m ∈ (served session programs before).numbers p, m ≤ n) ∧
            a.reading? (some (n, payload)) = some x := by
  have hstart := sound_start hordered hadmitted
  have hkept := kept_run kept_start hstart hb
  refine ⟨fun p => ?_, fun j hj p payload hw hexecuted => ?_, ?_, ?_⟩
  · exact ⟨(hkept.consecutive p).nodup_iff.2 (List.nodup_range' _), hkept.consecutive p,
      hkept.count p⟩
  · obtain ⟨n, hn, -⟩ := hkept.held j hj p payload hw hexecuted
    exact ⟨n, hn⟩
  · rintro before later rfl α a i x p version payload hs hwrote hgets
    rw [served, run_append] at hb
    rw [served, served, run_append] at hgets
    have hsound := hstart.run before
    exact (kept_run kept_start hstart (hsound.bounded_of_run hb)).reading_of_wrote hsound hb hs
      hwrote hgets
  · rintro before caller later rfl α a i x p hs hgets
    rw [served, ← List.singleton_append, ← List.append_assoc, run_append, run_concat] at hb
    rw [served, served, run_concat] at hgets
    have hsound := hstart.run before
    have hstep := steps_step backend ((start session programs).run backend before) caller
    have hnext := (hsound.of_steps hstep).bounded_of_run hb
    have hbefore : ((start session programs).run backend before).session.state.Bounded := fun p =>
      lt_of_le_of_lt (hsound.grows hstep p).length_le (hnext p)
    exact (kept_run kept_start hstart hbefore).reading_latest hsound (hstart.grows_run before p)
      hordered (hstart.bounded_of_run hbefore) hnext hs hgets

/-- A server that has one version of one secret. -/
def seeded : Session Store := .fresh (seed "kv" "db" (ScalarRecord.toJson ⟨"old"⟩) Memory.empty)

theorem two_lt_size : 2 < UInt32.size := by
  decide

def secondVersion : VersionNumber := ⟨2, Nat.two_pos, two_lt_size⟩

/-- Two callers that write a secret in two spellings, and one that reads it. -/
def threeCallers : List (History Secrets.Action) :=
  [[⟨_, .write "kv" "db" "new"⟩],
   [⟨_, .writeMap "/kv/" "db" [("user", "u")]⟩],
   [⟨_, .readMapVersion "kv" "db" (.specific secondVersion)⟩, ⟨_, .read "kv" "/db"⟩]]

/-- The second caller writes first, and the first one does before any of them has returned; then
the third one reads. -/
def mixedSchedule : List Nat := [0, 1, 1, 0, 1, 2, 2, 0, 2, 2, 2]

theorem bounded_of_cells {st : Store} (h : ∀ c ∈ st.cells, c.versions.length < UInt32.size) :
    st.Bounded := by
  intro p
  rw [Store.versionsOf, versionsIn]
  cases hfind : st.cells.find? fun c => c.mount == p.1 && c.key == p.2 with
  | none => exact (by decide : 0 < UInt32.size)
  | some c => exact h c (List.mem_of_find?_eq_some hfind)

theorem writes_kept_threeCallers :
    Ordered seeded.state.cells ∧
      (∀ program ∈ threeCallers, ∀ e ∈ program, e.2.Admitted) ∧
      (served seeded threeCallers mixedSchedule).session.state.Bounded ∧
      ((served seeded threeCallers mixedSchedule).numbers ("kv", "db")).Perm [2, 3] ∧
      (∃ x, Gets (served seeded threeCallers [0, 1, 1, 0, 1])
          (served seeded threeCallers mixedSchedule) 2
          (.readMapVersion "kv" "db" (.specific secondVersion)) x ∧
        (Secrets.Action.readMapVersion "kv" "db" (.specific secondVersion)).reading?
          (some (2, .object [("user", .string "u")])) = some x ∧ x = .ok [("user", "u")]) ∧
      ∃ x, Gets (served seeded threeCallers [0, 1, 1, 0, 1, 2, 2, 0, 2, 2])
          (served seeded threeCallers mixedSchedule) 3 (.read "kv" "/db") x ∧
        x = .ok (some "new") ∧
        ∃ n payload, (served seeded threeCallers [0, 1, 1, 0, 1, 2, 2, 0, 2, 2]).Wrote
            ("kv", "db") n payload ∧
          (∀ m ∈ (served seeded threeCallers [0, 1, 1, 0, 1, 2, 2, 0, 2, 2]).numbers ("kv", "db"),
            m ≤ n) ∧
          (Secrets.Action.read "kv" "/db").reading? (some (n, payload)) = some x := by
  have hordered : Ordered seeded.state.cells := ordered_push ordered_nil
  have hadmitted : ∀ program ∈ threeCallers, ∀ e ∈ program, e.2.Admitted := by
    have hnames : ∀ mount key, (∃ m, Argument.require .mount mount = .ok m) →
        (∃ k, Argument.require .secretKey key = .ok k) →
        Argument.AllAccepted (Secrets.keyNames mount key) := fun _ _ hm hk =>
      Argument.allAccepted_keyNames.2 ⟨hm, hk⟩
    have hkv : Routable "kv" := ⟨by decide, by decide, by decide⟩
    have hslashed : Routable "/kv/" := ⟨by decide, by decide, by decide⟩
    intro program hprogram e he
    simp only [threeCallers, List.mem_cons, List.not_mem_nil, or_false] at hprogram
    rcases hprogram with rfl | rfl | rfl
    · simp only [List.mem_cons, List.not_mem_nil, or_false] at he
      subst he
      exact ⟨hnames "kv" "db" ⟨_, rfl⟩ ⟨_, rfl⟩, hkv, id⟩
    · simp only [List.mem_cons, List.not_mem_nil, or_false] at he
      subst he
      exact ⟨hnames "/kv/" "db" ⟨_, rfl⟩ ⟨_, rfl⟩, hslashed, List.cons_ne_nil _ _⟩
    · simp only [List.mem_cons, List.not_mem_nil, or_false] at he
      rcases he with rfl | rfl
      · exact ⟨hnames "kv" "db" ⟨_, rfl⟩ ⟨_, rfl⟩, hkv, id⟩
      · exact ⟨hnames "kv" "/db" ⟨_, rfl⟩ ⟨_, rfl⟩, hkv, id⟩
  have hb : (served seeded threeCallers mixedSchedule).session.state.Bounded := by
    refine bounded_of_cells fun c hc => ?_
    have hcells : (served seeded threeCallers mixedSchedule).session.state.cells.map
        (fun c => c.versions.length) = [3] := rfl
    have hlength := List.mem_map_of_mem (f := fun c => c.versions.length) hc
    rw [hcells, List.mem_singleton] at hlength
    rw [hlength]
    decide
  obtain ⟨hnumbers, -, hspecific, hlatest⟩ := writes_kept hordered hadmitted hb
  obtain ⟨x, hearly⟩ : ∃ x, Gets (served seeded threeCallers [0, 1, 1, 0, 1])
      (served seeded threeCallers mixedSchedule) 2
      (.readMapVersion "kv" "db" (.specific secondVersion)) x :=
    ⟨_, .asked, _, rfl, rfl, rfl, rfl⟩
  have hwrote : (served seeded threeCallers [0, 1, 1, 0, 1]).Wrote ("kv", "db") 2
      (.object [("user", .string "u")]) :=
    ⟨_, List.mem_of_getElem? (i := 1) rfl, rfl, rfl⟩
  have hlate : Gets (served seeded threeCallers [0, 1, 1, 0, 1, 2, 2, 0, 2, 2])
      (served seeded threeCallers mixedSchedule) 3 (.read "kv" "/db") (.ok (some "new")) :=
    ⟨.looked, _, rfl, rfl, rfl, rfl⟩
  have hread := hspecific [0, 1, 1, 0, 1] [2, 2, 0, 2, 2, 2] rfl _ 2 x _ _ _ rfl hwrote hearly
  refine ⟨hordered, hadmitted, hb, (hnumbers _).2.1, ⟨x, hearly, hread, ?_⟩, _, hlate, rfl, ?_⟩
  · exact (Option.some_inj.1 hread).symm
  · refine (hlatest [0, 1, 1, 0, 1, 2, 2, 0, 2, 2] 2 [] rfl _ 3 _ _ rfl hlate).resolve_left ?_
    exact fun hnone => absurd hnone.1 (List.cons_ne_nil 3 [2])

end Traffic
end Strongbox
