/-
The payloads of secrets, as operations write and read them.

An answer serves a payload if it is one of success and the payload stands in its entry
(`Response.Serves`).  A read of a scalar secret finds the value that the payload holds as its field
`value`, and a read of a composite secret finds the payload as it stands, if it is an object of
texts.  Every other payload is an error that names the secret and the version
(`Error.NamesVersion`): nothing is left out of a payload, and nothing in it is turned into a text.

* `Response.serves_iff` — the answers that serve a payload, as a read takes them apart;
* `Handle.finishGet_of_serves`, `Handle.finishGet_eq_some_iff` — what a read makes of them;
* `act_readsScalar_iff` — the payloads that hold a scalar secret;
* `act_readsMap_iff` — the answers with a composite secret, and what is read of a payload that an
  operation has written.
-/
import Strongbox.Proofs.Disclosure
import Strongbox.Proofs.Records

namespace Strongbox

/-! ### Answers that serve a payload -/

theorem Entry.present_eq_some_iff {v w : Json} : present v = some w ↔ v = w ∧ w ≠ .null := by
  cases v with
  | null => simpa [present, Json.isNull] using fun h => h.symm
  | _ =>
    simp only [present, Json.isNull, Bool.false_eq_true, if_false, Option.some_inj]
    exact ⟨fun h => ⟨h, by rw [← h]; simp⟩, fun h => h.1⟩

namespace Response

/-- The answer serves a payload of a version with metadata: it is one of success, and the payload
stands in the entry that is its `data`, and is not null. -/
inductive Serves (r : Response) : Json → VersionMetadata → Prop
  | entry {members : List (String × Json)} {v payload : Json} {e : Entry}
    (hsuccess : 200 ≤ r.status ∧ r.status < 300) (hbody : r.body = some (.object members))
    (hdata : Json.lookup "data" members = some v) (hnull : v ≠ .null)
    (hentry : Entry.decode v = .ok e) (hpayload : Entry.payload? v = some payload)
    (hpresent : payload ≠ .null) : Serves r payload e.metadata

theorem serves_iff {r : Response} {payload : Json} {metadata : VersionMetadata} :
    r.Serves payload metadata ↔ r.isSuccess = true ∧
      r.dataAs Entry.decode = .ok ⟨some payload, metadata⟩ ∧ payload ≠ .null := by
  constructor
  · rintro ⟨hsuccess, hbody, hdata, hnull, hentry, hpayload, hpresent⟩
    refine ⟨isSuccess_iff.2 hsuccess, dataAs_eq_ok_iff.2 ?_, hpresent⟩
    refine ⟨_, data_eq_ok_iff.2 ⟨_, hbody, hdata, hnull⟩, ?_⟩
    have hkept := Entry.data_of_decode hentry
    rw [hpayload, Option.bind_some, Entry.present_eq_some_iff.2 ⟨rfl, hpresent⟩] at hkept
    rw [hentry, ← hkept]
  · rintro ⟨hsuccess, hdata, hpresent⟩
    obtain ⟨v, hv, hentry⟩ := dataAs_eq_ok_iff.1 hdata
    obtain ⟨members, hbody, hlookup, hnull⟩ := data_eq_ok_iff.1 hv
    have hkept := (Entry.data_of_decode hentry).symm
    obtain ⟨w, hpayload, hw⟩ := Option.bind_eq_some_iff.1 hkept
    obtain ⟨rfl, -⟩ := Entry.present_eq_some_iff.1 hw
    exact .entry (isSuccess_iff.1 hsuccess) hbody hlookup hnull hentry hpayload hpresent

end Response

/-- The error says that a version of a secret has not the shape that was asked for. -/
def Error.NamesVersion (e : Error) (mount key : String) (version : Nat) : Prop :=
  ∃ detail, e = .deserialize ("secret " ++ mount ++ "/" ++ key ++ " version " ++
    Numeral.decimal version ++ ": " ++ detail)

namespace Handle

variable {α : Type} (h : Handle) (key : String) {decode : Json → Except Json.DecodeFault α}
  {r : Response} {payload : Json} {metadata : VersionMetadata}

theorem retype_eq_ok_iff {v : Versioned Json} {x : Option (Versioned α)} :
    h.retype key decode (some v) = .ok x ↔
      ∃ a, decode v.data = .ok a ∧ x = some ⟨a, v.metadata⟩ := by
  rw [retype]
  cases decode v.data with
  | ok a => simp [eq_comm]
  | error f => simp

theorem readEntry_of_ne_null (hpayload : payload ≠ .null) :
    h.readEntry key decode ⟨some payload, metadata⟩ =
      h.retype key decode (some ⟨payload, metadata⟩) := by
  cases payload with
  | null => exact absurd rfl hpayload
  | _ => rfl

theorem readEntry_eq_some_iff {e : Entry} {a : α} :
    h.readEntry key decode e = .ok (some ⟨a, metadata⟩) ↔
      ∃ payload, e = ⟨some payload, metadata⟩ ∧ payload ≠ .null ∧ decode payload = .ok a := by
  obtain ⟨_ | payload, metadata'⟩ := e
  · simp [readEntry]
  · by_cases hpayload : payload = .null
    · subst hpayload
      simp [readEntry]
    · rw [h.readEntry_of_ne_null key hpayload, retype_eq_ok_iff]
      simp [hpayload, eq_comm, and_comm]

/-- A read of a payload that is served is what its type makes of it. -/
theorem finishGet_of_serves (hr : r.Serves payload metadata) :
    h.finishGet key decode r = h.retype key decode (some ⟨payload, metadata⟩) := by
  obtain ⟨hsuccess, hdata, hpresent⟩ := Response.serves_iff.1 hr
  rw [finishGet_of_isSuccess h key hsuccess, hdata, ← h.readEntry_of_ne_null key hpresent]
  rfl

theorem finishGet_eq_ok_iff_of_serves (hr : r.Serves payload metadata)
    {x : Option (Versioned α)} : h.finishGet key decode r = .ok x ↔
      ∃ a, decode payload = .ok a ∧ x = some ⟨a, metadata⟩ := by
  rw [h.finishGet_of_serves key hr, retype_eq_ok_iff]

/-- A payload that is served and has not the type is an error that names its version. -/
theorem exists_finishGet_eq_error (hr : r.Serves payload metadata)
    (hpayload : ∀ a, decode payload ≠ .ok a) :
    ∃ e, h.finishGet key decode r = .error e ∧ e.NamesVersion h.mount key metadata.version := by
  rw [h.finishGet_of_serves key hr, retype]
  cases hdecode : decode payload with
  | ok a => exact absurd hdecode (hpayload a)
  | error f => exact ⟨_, rfl, f.message, rfl⟩

/-- A read finds something in exactly those answers that serve it. -/
theorem finishGet_eq_some_iff {a : α} : h.finishGet key decode r = .ok (some ⟨a, metadata⟩) ↔
    ∃ payload, r.Serves payload metadata ∧ decode payload = .ok a := by
  constructor
  · intro heq
    -- every other answer finds nothing or is an error
    have hsuccess : r.isSuccess = true := by
      by_contra hfail
      rw [finishGet] at heq
      split at heq
      · simp at heq
      · simp [hfail] at heq
    rw [finishGet_of_isSuccess h key hsuccess] at heq
    obtain ⟨e, hdata, hread⟩ := Results.bind_eq_ok.1 heq
    obtain ⟨payload, rfl, hpresent, hdecode⟩ := (h.readEntry_eq_some_iff key).1 hread
    exact ⟨payload, Response.serves_iff.2 ⟨hsuccess, hdata, hpresent⟩, hdecode⟩
  · rintro ⟨payload, hr, hdecode⟩
    exact (h.finishGet_eq_ok_iff_of_serves key hr).2 ⟨a, hdecode, rfl⟩

/-- A scalar secret is read of a payload that holds its value. -/
theorem finishGet_of_holds (hr : r.Serves payload metadata) {value : String}
    (hvalue : Json.Holds "value" Json.string payload value) :
    h.finishGet key ScalarRecord.decode r = .ok (some ⟨⟨value⟩, metadata⟩) :=
  (h.finishGet_eq_ok_iff_of_serves key hr).2
    ⟨⟨value⟩, ScalarRecord.decode_eq_ok_iff.2 hvalue, rfl⟩

theorem exists_finishGet_scalar_eq_error (hr : r.Serves payload metadata)
    (hnone : ∀ value, ¬ Json.Holds "value" Json.string payload value) :
    ∃ e, h.finishGet key ScalarRecord.decode r = .error e ∧
      e.NamesVersion h.mount key metadata.version :=
  h.exists_finishGet_eq_error key hr fun record hrecord =>
    hnone record.value (ScalarRecord.decode_eq_ok_iff.1 hrecord)

/-- What a read of a composite secret shows of what it finds: the entries, if there are any. -/
def entries (x : Option (Versioned StringMap)) : StringMap := (x.map Versioned.data).getD []

/-- A composite secret is read where there is nothing, and of exactly its own entries. -/
theorem finishGet_map_iff {map : StringMap} :
    (h.finishGet key StringMap.decode r).map entries = .ok map ↔
      r.Absent ∧ map = [] ∨ ∃ metadata, r.Serves map.toObject metadata := by
  rw [Results.map_eq_ok]
  constructor
  · rintro ⟨_ | ⟨found, metadata⟩, hfound, rfl⟩
    · exact Or.inl ⟨(h.finishGet_eq_none_iff key).1 hfound, rfl⟩
    · obtain ⟨payload, hr, hdecode⟩ := (h.finishGet_eq_some_iff key).1 hfound
      obtain rfl := StringMap.decode_eq_ok_iff.1 hdecode
      exact Or.inr ⟨metadata, hr⟩
  · rintro (⟨habsent, rfl⟩ | ⟨metadata, hr⟩)
    · exact ⟨none, (h.finishGet_eq_none_iff key).2 habsent, rfl⟩
    · have hdecode := StringMap.decode_eq_ok_iff.2 (Eq.refl map.toObject)
      exact ⟨_, (h.finishGet_eq_some_iff key).2 ⟨_, hr, hdecode⟩, rfl⟩

end Handle

/-! ### Operations -/

/-- The operations that read a scalar secret, and what they show of what they find. -/
inductive Secrets.Action.ReadsScalar (mount key : String) :
    {α : Type} → Secrets.Action α → (Option (Versioned String) → α) → Prop
  | read : ReadsScalar mount key (.read mount key) (Option.map Versioned.data)
  | readVersion {version : Version} :
    ReadsScalar mount key (.readVersion mount key version) (Option.map Versioned.data)
  | readVersioned {version : Version} :
    ReadsScalar mount key (.readVersioned mount key version) id

/-- The operations that read a composite secret. -/
inductive Secrets.Action.ReadsMap (mount key : String) : Secrets.Action StringMap → Prop
  | readMap : ReadsMap mount key (.readMap mount key)
  | readMapVersion {version : Version} : ReadsMap mount key (.readMapVersion mount key version)

namespace Secrets

variable {α : Type} {mount key m k : String}

theorem Action.ReadsScalar.exists_plan {a : Secrets.Action α}
    {shown : Option (Versioned String) → α} (ha : a.ReadsScalar mount key shown)
    (hm : Argument.require .mount mount = .ok m) (hk : Argument.require .secretKey key = .ok k) :
    ∃ q, a.call.plan = .exchange q fun r => ((Handle.mk m).finishGet k ScalarRecord.decode r).map
      fun v => shown (v.map fun v => v.map ScalarRecord.value) := by
  -- two of the reads only leave the metadata away from what the third one finds
  have hmap : ∀ x : Result (Option (Versioned ScalarRecord)),
      (x.map fun v => v.map fun v => v.map ScalarRecord.value).map (Option.map Versioned.data) =
        x.map fun v => (v.map fun v => v.map ScalarRecord.value).map Versioned.data := by
    intro x
    cases x <;> rfl
  have hscalar : ∀ version, ∃ q, (readScalar mount key version).plan =
      .exchange q fun r => ((Handle.mk m).finishGet k ScalarRecord.decode r).map
        fun v => (v.map fun v => v.map ScalarRecord.value).map Versioned.data := by
    intro version
    rw [readScalar, Call.plan_map, readScalarVersioned, plan_get hm hk, Plan.map]
    simp only [hmap]
    exact ⟨_, rfl⟩
  cases ha with
  | read =>
    rw [call, Service.readSecret, Service.readSecretVersion]
    exact hscalar .latest
  | @readVersion version =>
    rw [call, Service.readSecretVersion]
    exact hscalar version
  | @readVersioned version =>
    rw [call, Service.readVersionedSecret, readScalarVersioned, plan_get hm hk]
    exact ⟨_, rfl⟩

theorem Action.ReadsMap.exists_plan {a : Secrets.Action StringMap} (ha : a.ReadsMap mount key)
    (hm : Argument.require .mount mount = .ok m) (hk : Argument.require .secretKey key = .ok k) :
    ∃ q, a.call.plan = .exchange q fun r =>
      ((Handle.mk m).finishGet k StringMap.decode r).map Handle.entries := by
  cases ha with
  | readMap =>
    rw [call, Service.readSecretMap, Service.readSecretMapVersion, Secrets.readMap, plan_get hm hk]
    exact ⟨_, rfl⟩
  | readMapVersion =>
    rw [call, Service.readSecretMapVersion, Secrets.readMap, plan_get hm hk]
    exact ⟨_, rfl⟩

end Secrets

/-- The payload that a request writes. -/
def Request.payload? (q : Request) : Option Json := q.body.bind (Json.member? "data")

/-- The payload of what an operation writes. -/
def Secrets.Action.payload? {α : Type} : Secrets.Action α → Option Json
  | .write _ _ value => some (ScalarRecord.toJson ⟨value⟩)
  | .writeMap _ _ map => some map.toJson
  | _ => none

theorem Secrets.Action.Sends.payload?_eq {α : Type} {a : Secrets.Action α} {q : Request}
    (h : a.Sends q) : q.payload? = a.payload? := by
  cases h with
  | write _ _ => rfl
  | @writeMap _ _ _ _ map _ _ _ =>
    rw [Secrets.Action.payload?, StringMap.toJson_eq map]
    rfl
  | _ => rfl

namespace Service

variable {α : Type} (s : Service)

/-- The operation makes one exchange, and the answer and the result are as `P` says, whatever
backend gives the answer. -/
def Action.Exchanges (a : Service.Action α) (P : Result Response → Result α → Prop) : Prop :=
  ∃ q, (a.call s).plan.request? = some q ∧
    ∀ {σ : Type} (b : Backend σ) (session : Session σ),
      P (b.answer q session.state).1 (s.act b a session).1

/-- The operation makes one exchange, and if the answer serves the payload, then the result is as
`P` says. -/
def Action.OnPayload (a : Service.Action α) (payload : Json) (metadata : VersionMetadata)
    (P : Result α → Prop) : Prop :=
  a.Exchanges s fun answer result => ∀ r, answer = .ok r → r.Serves payload metadata → P result

theorem exchanges_of_plan {a : Secrets.Action α} {q : Request} {finish : Response → Result α}
    (hplan : a.call.plan = .exchange q finish) {P : Result Response → Result α → Prop}
    (hP : ∀ answer, P answer (answer.bind finish)) : (Action.secret a).Exchanges s P := by
  have hcall : ((Action.secret a).call s).plan = .exchange q finish := hplan
  refine ⟨q, by rw [hcall, Plan.request?], fun b session => ?_⟩
  rw [act, (Call.run_of_plan hcall b session).1]
  exact hP _

theorem onPayload_of_plan {a : Secrets.Action α} {q : Request} {finish : Response → Result α}
    (hplan : a.call.plan = .exchange q finish) {payload : Json} {metadata : VersionMetadata}
    {P : Result α → Prop} (hP : ∀ r, r.Serves payload metadata → P (finish r)) :
    (Action.secret a).OnPayload s payload metadata P := by
  refine s.exchanges_of_plan hplan fun answer r hanswer hr => ?_
  rw [hanswer]
  exact hP r hr

variable {s}

theorem Action.OnPayload.mono {a : Service.Action α} {payload : Json} {metadata : VersionMetadata}
    {P Q : Result α → Prop} (h : a.OnPayload s payload metadata P)
    (hPQ : ∀ result, P result → Q result) : a.OnPayload s payload metadata Q := by
  obtain ⟨q, hq, hall⟩ := h
  exact ⟨q, hq, fun b session r hanswer hr => hPQ _ (hall b session r hanswer hr)⟩

variable (s) {mount key m k : String}

/-- A read of a scalar secret finds the values that the payload holds. -/
theorem onPayload_readsScalar {a : Secrets.Action α} {shown : Option (Versioned String) → α}
    (ha : a.ReadsScalar mount key shown) (hm : Argument.require .mount mount = .ok m)
    (hk : Argument.require .secretKey key = .ok k) (payload : Json) (metadata : VersionMetadata) :
    (Action.secret a).OnPayload s payload metadata fun result =>
      (∀ v, Json.Holds "value" Json.string payload v →
        result = .ok (shown (some ⟨v, metadata⟩))) ∧
      ((∀ v, ¬ Json.Holds "value" Json.string payload v) →
        ∃ e, result = .error e ∧ e.NamesVersion m k metadata.version) := by
  obtain ⟨q, hplan⟩ := ha.exists_plan hm hk
  refine s.onPayload_of_plan hplan fun r hr => ⟨fun v hv => ?_, fun hnone => ?_⟩
  · rw [(Handle.mk m).finishGet_of_holds k hr hv]
    rfl
  · obtain ⟨e, he, hnames⟩ := (Handle.mk m).exists_finishGet_scalar_eq_error k hr hnone
    exact ⟨e, Results.map_eq_error.2 he, hnames⟩

/-- A read of a composite secret finds the entries of a payload that is an object of texts. -/
theorem onPayload_readsMap {a : Secrets.Action StringMap} (ha : a.ReadsMap mount key)
    (hm : Argument.require .mount mount = .ok m) (hk : Argument.require .secretKey key = .ok k)
    (map : StringMap) (metadata : VersionMetadata) :
    (Action.secret a).OnPayload s map.toObject metadata (· = .ok map) := by
  obtain ⟨q, hplan⟩ := ha.exists_plan hm hk
  refine s.onPayload_of_plan hplan fun r hr => ?_
  exact ((Handle.mk m).finishGet_map_iff k).2 (Or.inr ⟨metadata, hr⟩)

/-- A read of a composite secret fails on every other payload. -/
theorem onPayload_readsMap_of_ne {a : Secrets.Action StringMap} (ha : a.ReadsMap mount key)
    (hm : Argument.require .mount mount = .ok m) (hk : Argument.require .secretKey key = .ok k)
    {payload : Json} (hpayload : ∀ map : StringMap, payload ≠ map.toObject)
    (metadata : VersionMetadata) :
    (Action.secret a).OnPayload s payload metadata fun result =>
      ∃ e, result = .error e ∧ e.NamesVersion m k metadata.version := by
  obtain ⟨q, hplan⟩ := ha.exists_plan hm hk
  refine s.onPayload_of_plan hplan fun r hr => ?_
  obtain ⟨e, he, hnames⟩ := (Handle.mk m).exists_finishGet_eq_error k hr
    fun map hmap => hpayload map (StringMap.decode_eq_ok_iff.1 hmap)
  exact ⟨e, Results.map_eq_error.2 he, hnames⟩

/-- A read of a composite secret succeeds on exactly those answers that tell of absence or serve an
object of texts. -/
theorem exchanges_readsMap {a : Secrets.Action StringMap} (ha : a.ReadsMap mount key)
    (hm : Argument.require .mount mount = .ok m) (hk : Argument.require .secretKey key = .ok k) :
    (Action.secret a).Exchanges s fun answer result => ∀ map, result = .ok map ↔
      ∃ r, answer = .ok r ∧
        (r.Absent ∧ map = [] ∨ ∃ metadata, r.Serves map.toObject metadata) := by
  obtain ⟨q, hplan⟩ := ha.exists_plan hm hk
  refine s.exchanges_of_plan hplan fun answer map => ?_
  cases answer with
  | error e => simp [Except.bind]
  | ok r =>
    simp only [Except.ok.injEq, exists_eq_left', ← (Handle.mk m).finishGet_map_iff k]
    rfl

/-- What an operation writes, it hands over as the payload of its request. -/
theorem exists_request_payload {a : Secrets.Action α} (haccepted : Argument.AllAccepted a.names)
    (hne : ¬ (Action.secret a).IsEmptyWrite) :
    ∃ q, ((Action.secret a).call s).plan.request? = some q ∧ q.payload? = a.payload? := by
  obtain ⟨q, hq⟩ := (Action.isExchange_call s (.secret a) haccepted hne).exists_request
  have hsends : a.Sends q := Secrets.Action.request?_sends hq
  exact ⟨q, hq, hsends.payload?_eq⟩

/-- **A scalar secret is read of exactly the payloads that hold its value.**  A read of a scalar
secret on accepted names makes one exchange.  If the answer serves a payload, the read gives the
value that the payload holds as its field `value`, with the metadata of the answer; if the payload
holds none, the read fails with an error that names the secret and the version. -/
theorem act_readsScalar_iff {a : Secrets.Action α} {shown : Option (Versioned String) → α}
    (ha : a.ReadsScalar mount key shown) (hm : Argument.require .mount mount = .ok m)
    (hk : Argument.require .secretKey key = .ok k) (payload : Json) (metadata : VersionMetadata) :
    (Action.secret a).OnPayload s payload metadata fun result =>
      (∀ x, result = .ok x ↔
        ∃ v, Json.Holds "value" Json.string payload v ∧ shown (some ⟨v, metadata⟩) = x) ∧
      ((∀ v, ¬ Json.Holds "value" Json.string payload v) →
        ∃ e, result = .error e ∧ e.NamesVersion m k metadata.version) := by
  refine (s.onPayload_readsScalar ha hm hk payload metadata).mono ?_
  rintro result ⟨hheld, hnone⟩
  refine ⟨fun x => ?_, hnone⟩
  constructor
  · intro hx
    by_cases hholds : ∃ v, Json.Holds "value" Json.string payload v
    · obtain ⟨v, hv⟩ := hholds
      exact ⟨v, hv, Except.ok.inj ((hheld v hv).symm.trans hx)⟩
    · obtain ⟨e, he, -⟩ := hnone (not_exists.1 hholds)
      simp [he] at hx
  · rintro ⟨v, hv, rfl⟩
    exact hheld v hv

/-- The metadata of the answers with version 3. -/
def metadataThree : VersionMetadata := ⟨3, "", "", false⟩

theorem serves_versionThree {payload : Json} (h : payload ≠ .null) :
    (Handle.versionThree payload).Serves payload metadataThree := by
  have hmetadata : VersionMetadata.decode (.object [("version", .integer 3)]) =
      .ok metadataThree := rfl
  have hstatus : 200 ≤ 200 ∧ 200 < 300 := by omega
  exact .entry hstatus rfl rfl (by simp [Memory.entry])
    (Memory.entry_decode hmetadata payload) rfl h

/-- A record with a remark. -/
def remarked : Json := .object [("remark", .null), ("value", .string "open")]

/-- A remark beside the value of a record is ignored, and a number is no record. -/
theorem act_readsScalar_iff_remarked :
    ∃ s, ofSettings slashedSettings = .ok s ∧
      (Secrets.Action.read "kv" "db").ReadsScalar "kv" "db" (Option.map Versioned.data) ∧
      Argument.require .mount "kv" = .ok "kv" ∧ Argument.require .secretKey "db" = .ok "db" ∧
      (s.act Script.backend (.secret (.read "kv" "db"))
        (.fresh [.ok (Handle.versionThree remarked)])).1 = .ok (some "open") ∧
      ∃ e, (s.act Script.backend (.secret (.read "kv" "db"))
        (.fresh [.ok (Handle.versionThree (.integer 5))])).1 = .error e ∧
        e.NamesVersion "kv" "db" 3 := by
  obtain ⟨s, hs⟩ := exists_slashed
  have hread : (Secrets.Action.read "kv" "db").ReadsScalar "kv" "db" (Option.map Versioned.data) :=
    .read
  have hremarked : Json.Holds "value" Json.string remarked "open" :=
    (Json.holds_object_iff (by decide)).2 (by simp)
  have hnumber : ∀ v, ¬ Json.Holds "value" Json.string (.integer 5) v := by rintro v ⟨⟩
  obtain ⟨_, _, hrecord⟩ := act_readsScalar_iff s hread rfl rfl remarked metadataThree
  obtain ⟨_, _, hother⟩ := act_readsScalar_iff s hread rfl rfl (.integer 5) metadataThree
  refine ⟨s, hs, hread, rfl, rfl, ?_, ?_⟩
  · exact ((hrecord Script.backend (.fresh [.ok (Handle.versionThree remarked)]) _ rfl
      (serves_versionThree (by simp [remarked]))).1 _).2 ⟨"open", hremarked, rfl⟩
  · exact (hother Script.backend (.fresh [.ok (Handle.versionThree (.integer 5))]) _ rfl
      (serves_versionThree (by simp))).2 hnumber

/-- A list with one text is read as a scalar secret, though it has no field. -/
theorem act_read_of_list :
    ∃ s, ofSettings slashedSettings = .ok s ∧
      (Handle.versionThree (.array [.string "x"])).Serves (.array [.string "x"]) metadataThree ∧
      (∀ members, Json.array [.string "x"] ≠ .object members) ∧
      (s.act Script.backend (.secret (.read "kv" "db"))
        (.fresh [.ok (Handle.versionThree (.array [.string "x"]))])).1 = .ok (some "x") := by
  obtain ⟨s, hs⟩ := exists_slashed
  exact ⟨s, hs, serves_versionThree (by simp), by simp, rfl⟩

/-- **A composite secret is read exactly as it was written.**  A read of a composite secret on
accepted names succeeds on exactly two kinds of answers: those that tell of absence give the empty
map, and those that serve an object of texts give its entries.  On every other payload it fails with
an error that names the secret and the version.  A write of a map hands over the object of its
entries, so that reads of the payload give the map, and of a scalar secret its entry `value`; a
write of a scalar secret hands over a payload that is read as the map with that one entry. -/
theorem act_readsMap_iff (hm : Argument.require .mount mount = .ok m)
    (hk : Argument.require .secretKey key = .ok k) :
    (∀ a : Secrets.Action StringMap, a.ReadsMap mount key →
      ((Action.secret a).Exchanges s fun answer result => ∀ map, result = .ok map ↔
        ∃ r, answer = .ok r ∧
          (r.Absent ∧ map = [] ∨ ∃ metadata, r.Serves map.toObject metadata)) ∧
      ∀ payload metadata, (∀ map : StringMap, payload ≠ map.toObject) →
        (Action.secret a).OnPayload s payload metadata fun result =>
          ∃ e, result = .error e ∧ e.NamesVersion m k metadata.version) ∧
    (∀ map : StringMap, map ≠ [] → (map.Pairwise fun e f => e.1 < f.1) → ∃ q,
      ((Action.secret (.writeMap mount key map)).call s).plan.request? = some q ∧
      q.payload? = some map.toObject ∧ ∀ metadata,
        (∀ a : Secrets.Action StringMap, a.ReadsMap mount key →
          (Action.secret a).OnPayload s map.toObject metadata (· = .ok map)) ∧
        ∀ {α : Type} {a : Secrets.Action α} {shown : Option (Versioned String) → α},
          a.ReadsScalar mount key shown →
          (Action.secret a).OnPayload s map.toObject metadata fun result =>
            (∀ v, ("value", v) ∈ map → result = .ok (shown (some ⟨v, metadata⟩))) ∧
            ((∀ v, ("value", v) ∉ map) →
              ∃ e, result = .error e ∧ e.NamesVersion m k metadata.version)) ∧
    ∀ value, ∃ q,
      ((Action.secret (.write mount key value)).call s).plan.request? = some q ∧
      q.payload? = some (StringMap.toObject [("value", value)]) ∧
      ∀ (a : Secrets.Action StringMap) metadata, a.ReadsMap mount key →
        (Action.secret a).OnPayload s (StringMap.toObject [("value", value)]) metadata
          (· = .ok [("value", value)]) := by
  have hnames : Argument.AllAccepted (Secrets.keyNames mount key) :=
    Argument.allAccepted_keyNames.2 ⟨⟨m, hm⟩, k, hk⟩
  refine ⟨fun a ha => ?_, fun map hne hordered => ?_, fun value => ?_⟩
  · exact ⟨s.exchanges_readsMap ha hm hk, fun payload metadata hpayload =>
      s.onPayload_readsMap_of_ne ha hm hk hpayload metadata⟩
  · obtain ⟨q, hq, hpayload⟩ :=
      s.exists_request_payload (a := .writeMap mount key map) hnames hne
    rw [Secrets.Action.payload?, StringMap.toJson_of_ordered hordered] at hpayload
    refine ⟨q, hq, hpayload, fun metadata => ⟨fun a ha => ?_, fun ha => ?_⟩⟩
    · exact s.onPayload_readsMap ha hm hk map metadata
    · have hholds : ∀ v, Json.Holds "value" Json.string map.toObject v ↔ ("value", v) ∈ map :=
        fun v => StringMap.holds_toObject_iff hordered
      simpa only [hholds] using s.onPayload_readsScalar ha hm hk map.toObject metadata
  · obtain ⟨q, hq, hpayload⟩ := s.exists_request_payload (a := .write mount key value) hnames id
    exact ⟨q, hq, hpayload, fun a metadata ha => s.onPayload_readsMap ha hm hk _ metadata⟩

/-- A map with two entries, one of which is a `value`. -/
def twoEntries : StringMap := [("user", "root"), ("value", "open")]

/-- A map with two entries is read as it was written, and as a scalar secret by its entry `value`;
nothing is read where there is nothing, and a list is no map. -/
theorem act_readsMap_iff_twoEntries :
    ∃ s q, ofSettings slashedSettings = .ok s ∧ Argument.require .mount "kv" = .ok "kv" ∧
      Argument.require .secretKey "db" = .ok "db" ∧
      ((Action.secret (.writeMap "kv" "db" twoEntries)).call s).plan.request? = some q ∧
      q.payload? = some twoEntries.toObject ∧
      (s.act Script.backend (.secret (.readMap "kv" "db"))
        (.fresh [.ok (Handle.versionThree twoEntries.toObject)])).1 = .ok twoEntries ∧
      (s.act Script.backend (.secret (.read "kv" "db"))
        (.fresh [.ok (Handle.versionThree twoEntries.toObject)])).1 = .ok (some "open") ∧
      (s.act Script.backend (.secret (.readMap "kv" "db")) (.fresh [.ok ⟨404, none, none⟩])).1 =
        .ok [] ∧
      ∃ e, (s.act Script.backend (.secret (.readMap "kv" "db"))
        (.fresh [.ok (Handle.versionThree (.array []))])).1 = .error e ∧
        e.NamesVersion "kv" "db" 3 := by
  obtain ⟨s, hs⟩ := exists_slashed
  have hreadMap : (Secrets.Action.readMap "kv" "db").ReadsMap "kv" "db" := .readMap
  have hread : (Secrets.Action.read "kv" "db").ReadsScalar "kv" "db" (Option.map Versioned.data) :=
    .read
  have hserves : (Handle.versionThree twoEntries.toObject).Serves twoEntries.toObject
      metadataThree := serves_versionThree (by simp [StringMap.toObject])
  have hmount : Argument.require .mount "kv" = .ok "kv" := rfl
  have hkey : Argument.require .secretKey "db" = .ok "db" := rfl
  obtain ⟨hreads, hwrites, -⟩ := act_readsMap_iff s hmount hkey
  obtain ⟨⟨_, _, hexact⟩, hother⟩ := hreads _ hreadMap
  obtain ⟨_, _, hlist⟩ := hother (.array []) metadataThree (by simp [StringMap.toObject])
  obtain ⟨q, hq, hpayload, hback⟩ := hwrites twoEntries (by simp [twoEntries]) (by decide)
  obtain ⟨hmap, hscalar⟩ := hback metadataThree
  obtain ⟨_, _, hmap⟩ := hmap _ hreadMap
  obtain ⟨_, _, hscalar⟩ := hscalar hread
  refine ⟨s, q, hs, hmount, hkey, hq, hpayload, ?_, ?_, ?_, ?_⟩
  · exact hmap Script.backend (.fresh [.ok (Handle.versionThree twoEntries.toObject)]) _ rfl hserves
  · exact (hscalar Script.backend (.fresh [.ok (Handle.versionThree twoEntries.toObject)]) _ rfl
      hserves).1 "open" (by simp [twoEntries])
  · exact (hexact Script.backend (.fresh [.ok ⟨404, none, none⟩]) []).2
      ⟨_, rfl, Or.inl ⟨.unknown rfl, rfl⟩⟩
  · exact hlist Script.backend (.fresh [.ok (Handle.versionThree (.array []))]) _ rfl
      (serves_versionThree (by simp))

end Service
end Strongbox
