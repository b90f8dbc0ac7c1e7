/-
When a read finds nothing.

`Response.Absent` says which answers tell that a secret is absent: those that know nothing at the
path, and those that hold an entry without a payload (`Entry.payload?`).  A read gives nothing
exactly for these answers, whatever type the payload is read as.

* `Entry.data_of_decode` — the payload of an entry, as the entry is read;
* `finishGet_eq_none_iff` — the answers that a read makes nothing of;
* `finishGet_eq_bind` — a typed read is a read of any value, of which the payload is then read;
* `get_absent_iff` — so absence is reported exactly where it is told.
-/
import Strongbox.Backend.Script
import Strongbox.Proofs.Answers
import Mathlib.Data.List.Induction

namespace Strongbox

/-! ### The payload of an entry -/

namespace Entry

/-- The payload as it stands in an entry: the member `data` of an object, of which the last one
counts, or the first item of an array. -/
def payload? : Json → Option Json
  | .object members => Json.lookup "data" members.reverse
  | .array items => items.head?
  | _ => none

/-- A payload that is null counts as none. -/
def present (v : Json) : Option Json := if v.isNull then none else some v

/-- A member of another name leaves the payload alone. -/
theorem data_of_putMember {r e : Entry} {m : String × Json} (hm : m.1 ≠ "data")
    (h : shape.putMember r m = .ok e) : e.data = r.data := by
  obtain ⟨name, v⟩ := m
  by_cases hname : name = "metadata"
  · subst hname
    obtain ⟨metadata, _, rfl⟩ := Results.map_eq_ok.1 h
    rfl
  · rw [Memory.putMember_of_ne hm hname] at h
    rw [← Except.ok.inj h]

/-- The payload after a walk over members is the last one among them. -/
theorem data_of_foldlM {r e : Entry} {members : List (String × Json)}
    (h : members.foldlM shape.putMember r = .ok e) :
    e.data = (Json.lookup "data" members.reverse).elim r.data present := by
  induction members using List.reverseRecOn generalizing e with
  | nil =>
    rw [← Except.ok.inj h]
    rfl
  | append_singleton members m ih =>
    rw [List.foldlM_append] at h
    obtain ⟨r', hmembers, hrest⟩ := Results.bind_eq_ok.1 h
    rw [List.foldlM_cons] at hrest
    obtain ⟨e', hm, hlast⟩ := Results.bind_eq_ok.1 hrest
    obtain rfl : e' = e := Except.ok.inj hlast
    rw [List.reverse_append, List.reverse_singleton, List.singleton_append]
    by_cases hname : m.1 = "data"
    · obtain ⟨name, v⟩ := m
      obtain rfl : name = "data" := hname
      rw [Memory.putMember_data] at hm
      rw [← Except.ok.inj hm, Json.lookup, if_pos rfl]
      rfl
    · rw [Json.lookup, if_neg hname, data_of_putMember hname hm, ih hmembers]

/-- The payload after a walk over items is the first one; the metadata is required, so there is a
first one. -/
theorem data_of_putItems {items rest : List Json} {r : Entry}
    (h : shape.putItems 0 shape.fields items shape.blank = .ok (r, rest)) :
    r.data = items.head?.bind present := by
  cases items with
  | nil => exact absurd h (by simp [Json.Shape.putItems, shape])
  | cons v items =>
    have hv : shape.putItems 0 shape.fields (v :: items) shape.blank =
        shape.putItems 1 shape.fields.tail items { shape.blank with data := present v } := by
      cases v <;> rfl
    rw [hv] at h
    cases items with
    | nil => exact absurd h (by simp [Json.Shape.putItems, shape])
    | cons w items =>
      obtain ⟨r', hput, hr⟩ := Results.bind_eq_ok.1 h
      obtain ⟨metadata, _, rfl⟩ := Results.map_eq_ok.1 hput
      have hfst : _ = r := congrArg Prod.fst (Except.ok.inj hr)
      rw [← hfst]
      rfl

/-- The payload of an entry that is read. -/
theorem data_of_decode {v : Json} {e : Entry} (h : decode v = .ok e) :
    e.data = (payload? v).bind present := by
  cases v with
  | object members =>
    obtain ⟨r, hfold, hr⟩ := Results.bind_eq_ok.1 h
    have he : r = e := by
      split at hr
      · exact absurd hr (by simp)
      · exact Except.ok.inj hr
    rw [← he, data_of_foldlM hfold, payload?]
    cases Json.lookup "data" members.reverse <;> rfl
  | array items =>
    obtain ⟨⟨r, rest⟩, hput, hr⟩ := Results.bind_eq_ok.1 h
    have he : r = e := by
      dsimp only at hr
      split at hr
      · exact Except.ok.inj hr
      · exact absurd hr (by simp)
    rw [← he, data_of_putItems hput, payload?]
  | null => exact absurd h (by simp [decode, Json.Shape.decode, Json.mismatch])
  | bool b => exact absurd h (by simp [decode, Json.Shape.decode, Json.mismatch])
  | integer n => exact absurd h (by simp [decode, Json.Shape.decode, Json.mismatch])
  | float x => exact absurd h (by simp [decode, Json.Shape.decode, Json.mismatch])
  | string s => exact absurd h (by simp [decode, Json.Shape.decode, Json.mismatch])

/-- An entry that is read has no payload exactly if none stands in it, or a null one. -/
theorem absent_iff_of_decode {v : Json} {e : Entry} (h : decode v = .ok e) :
    (e.data = none ∨ e.data = some .null) ↔ payload? v = none ∨ payload? v = some .null := by
  rw [data_of_decode h]
  cases payload? v with
  | none => simp
  | some p => cases p <;> simp [present, Json.isNull]

end Entry

/-! ### Answers that tell of absence -/

namespace Response

/-- The answer tells that there is nothing: the server knows nothing at the path, or the entry in
the `data` of a success has no payload or a null one. -/
inductive Absent (r : Response) : Prop
  | unknown (h : r.status = 404)
  | gone {members : List (String × Json)} {v : Json} {e : Entry}
    (hsuccess : 200 ≤ r.status ∧ r.status < 300) (hbody : r.body = some (.object members))
    (hdata : Json.lookup "data" members = some v) (hnull : v ≠ .null)
    (hentry : Entry.decode v = .ok e)
    (hpayload : Entry.payload? v = none ∨ Entry.payload? v = some .null)

theorem isNotFound_iff {r : Response} : r.isNotFound = true ↔ r.status = 404 := by
  simp [isNotFound]

theorem isSuccess_iff {r : Response} : r.isSuccess = true ↔ 200 ≤ r.status ∧ r.status < 300 := by
  simp [isSuccess]

/-- The `data` of an answer is a member of its body, and not null. -/
theorem data_eq_ok_iff {r : Response} {v : Json} :
    r.data = .ok v ↔ ∃ members, r.body = some (.object members) ∧
      Json.lookup "data" members = some v ∧ v ≠ .null := by
  have hnull : v.isNull = true ↔ v = .null := by cases v <;> simp [Json.isNull]
  constructor
  · intro h
    rw [data] at h
    split at h
    · next members hbody =>
      split at h
      · next w hw =>
        split at h
        · exact absurd h (by simp)
        · next hne =>
          obtain rfl := Except.ok.inj h
          exact ⟨members, hbody, hw, fun heq => hne (hnull.2 heq)⟩
      · exact absurd h (by simp)
    · exact absurd h (by simp)
    · exact absurd h (by simp)
  · rintro ⟨members, hbody, hlookup, hne⟩
    rw [data, hbody]
    dsimp only
    rw [hlookup]
    exact if_neg fun h => hne (hnull.1 h)

/-- The `data` of an answer is read as a type exactly if it is there and has the type. -/
theorem dataAs_eq_ok_iff {α : Type} {decode : Json → Except Json.DecodeFault α} {r : Response}
    {a : α} : r.dataAs decode = .ok a ↔ ∃ v, r.data = .ok v ∧ decode v = .ok a := by
  rw [dataAs, Results.bind_eq_ok]
  simp only [Results.mapError_eq_ok]

end Response

/-! ### Reads -/

namespace Handle

variable {α : Type} (h : Handle) (key : String)

/-- The payload of a read of any value, read as a type. -/
def retype (decode : Json → Except Json.DecodeFault α) :
    Option (Versioned Json) → Result (Option (Versioned α))
  | none => .ok none
  | some v =>
    match decode v.data with
    | .ok a => .ok (some ⟨a, v.metadata⟩)
    | .error f => .error (h.payloadFault key v.metadata.version f)

/-- A typed read is a read of any value, of which the payload is then read as the type. -/
theorem finishGet_eq_bind (decode : Json → Except Json.DecodeFault α) (r : Response) :
    h.finishGet key decode r = (h.finishGet key .ok r).bind (h.retype key decode) := by
  have hentry : ∀ e, h.readEntry key decode e =
      (h.readEntry key .ok e).bind (h.retype key decode) := by
    rintro ⟨_ | v, metadata⟩
    · rfl
    · cases v <;> rfl
  rw [finishGet, finishGet]
  split
  · rfl
  · split
    · rfl
    · cases r.dataAs Entry.decode with
      | error e => rfl
      | ok e => exact hentry e

/-- An entry is read as nothing exactly if it has no payload. -/
theorem readEntry_eq_none_iff {decode : Json → Except Json.DecodeFault α} {e : Entry} :
    h.readEntry key decode e = .ok none ↔ e.data = none ∨ e.data = some .null := by
  obtain ⟨_ | v, metadata⟩ := e
  · simp [readEntry]
  · cases v with
    | null => simp [readEntry]
    | _ =>
      simp only [readEntry]
      split <;> simp

/-- A read makes nothing of exactly those answers that tell of absence. -/
theorem finishGet_eq_none_iff {decode : Json → Except Json.DecodeFault α} {r : Response} :
    h.finishGet key decode r = .ok none ↔ r.Absent := by
  rw [finishGet]
  split
  · next hfound => exact ⟨fun _ => .unknown (Response.isNotFound_iff.1 hfound), fun _ => rfl⟩
  · next hfound =>
    have hstatus : r.status ≠ 404 := fun h404 => hfound (Response.isNotFound_iff.2 h404)
    split
    · next hfail =>
      have hfail : ¬ r.isSuccess = true := by simpa using hfail
      refine ⟨fun heq => absurd heq (by simp), fun habsent => ?_⟩
      cases habsent with
      | unknown h404 => exact absurd h404 hstatus
      | gone hsuccess => exact absurd (Response.isSuccess_iff.2 hsuccess) hfail
    · next hsuccess =>
      have hsuccess : r.isSuccess = true := by simpa using hsuccess
      constructor
      · intro heq
        obtain ⟨e, hdata, hread⟩ := Results.bind_eq_ok.1 heq
        obtain ⟨v, hv, hentry⟩ := Response.dataAs_eq_ok_iff.1 hdata
        obtain ⟨members, hbody, hlookup, hnull⟩ := Response.data_eq_ok_iff.1 hv
        exact .gone (Response.isSuccess_iff.1 hsuccess) hbody hlookup hnull hentry
          ((Entry.absent_iff_of_decode hentry).1 ((h.readEntry_eq_none_iff key).1 hread))
      · intro habsent
        cases habsent with
        | unknown h404 => exact absurd h404 hstatus
        | gone _ hbody hlookup hnull hentry hpayload =>
          have hdata := Response.data_eq_ok_iff.2 ⟨_, hbody, hlookup, hnull⟩
          exact Results.bind_eq_ok.2 ⟨_, Response.dataAs_eq_ok_iff.2 ⟨_, hdata, hentry⟩,
            (h.readEntry_eq_none_iff key).2 ((Entry.absent_iff_of_decode hentry).2 hpayload)⟩

variable (version : Version) {σ : Type} (b : Backend σ) (state : σ)

/-- A read fails with the fault of a name, or it makes its result of one answer. -/
theorem run_get (decode : Json → Except Json.DecodeFault α) :
    ((h.get key version decode).run b state).1 = (do
      let k ← (Argument.require .secretKey key).mapError Error.ofArgument
      h.checkMount.mapError Error.ofArgument
      let r ← (b.answer (h.getRequest k version) state).1
      h.finishGet k decode r) := by
  rw [get]
  cases Argument.require .secretKey key with
  | error fault => rfl
  | ok k => cases h.checkMount <;> rfl

/-- Reads of two types differ only in how they read the payload. -/
theorem run_get_eq_bind (decode : Json → Except Json.DecodeFault α) :
    ∃ k, ((h.get key version decode).run b state).1 =
      ((h.get key version .ok).run b state).1.bind (h.retype k decode) := by
  rw [run_get, run_get]
  cases Argument.require .secretKey key with
  | error fault => exact ⟨key, rfl⟩
  | ok k =>
    refine ⟨k, ?_⟩
    cases h.checkMount with
    | error fault => rfl
    | ok _ =>
      show (b.answer (h.getRequest k version) state).1.bind (h.finishGet k decode) =
        ((b.answer (h.getRequest k version) state).1.bind (h.finishGet k .ok)).bind _
      cases (b.answer (h.getRequest k version) state).1 with
      | error e => rfl
      | ok r => exact h.finishGet_eq_bind k decode r

/-- **Absence is reported exactly where it is told.**  A read, of whatever type, gives nothing if
and only if its names are accepted and the answer is one of absence.  And reads of one answer
agree, whatever their types: each gives nothing if a read of any value does, what it finds has the
metadata that the other finds unless the payload has not its type, and the other's errors are its
own. -/
theorem get_absent_iff :
    (∀ {α : Type} (decode : Json → Except Json.DecodeFault α),
      ((h.get key version decode).run b state).1 = .ok none ↔
        ∃ k r, Argument.require .secretKey key = .ok k ∧ h.checkMount = .ok () ∧
          (b.answer (h.getRequest k version) state).1 = .ok r ∧ r.Absent) ∧
    ∀ {α : Type} (decode : Json → Except Json.DecodeFault α),
      (((h.get key version decode).run b state).1 = .ok none ↔
        ((h.get key version .ok).run b state).1 = .ok none) ∧
      (∀ v, ((h.get key version .ok).run b state).1 = .ok (some v) →
        (∃ a, decode v.data = .ok a ∧
          ((h.get key version decode).run b state).1 = .ok (some ⟨a, v.metadata⟩)) ∨
        ∃ message, ((h.get key version decode).run b state).1 = .error (.deserialize message)) ∧
      ∀ e, ((h.get key version .ok).run b state).1 = .error e →
        ((h.get key version decode).run b state).1 = .error e := by
  have hiff : ∀ {α : Type} (decode : Json → Except Json.DecodeFault α),
      ((h.get key version decode).run b state).1 = .ok none ↔
        ∃ k r, Argument.require .secretKey key = .ok k ∧ h.checkMount = .ok () ∧
          (b.answer (h.getRequest k version) state).1 = .ok r ∧ r.Absent := by
    intro α decode
    rw [run_get, Results.bind_eq_ok]
    constructor
    · rintro ⟨k, hk, hrest⟩
      obtain ⟨_, hmount, hrest⟩ := Results.bind_eq_ok.1 hrest
      obtain ⟨r, hr, hfinish⟩ := Results.bind_eq_ok.1 hrest
      exact ⟨k, r, Results.mapError_eq_ok.1 hk, Results.mapError_eq_ok.1 hmount, hr,
        (h.finishGet_eq_none_iff k).1 hfinish⟩
    · rintro ⟨k, r, hk, hmount, hr, habsent⟩
      have hfinish : h.finishGet k decode r = .ok none := (h.finishGet_eq_none_iff k).2 habsent
      exact ⟨k, Results.mapError_eq_ok.2 hk, Results.bind_eq_ok.2
        ⟨(), Results.mapError_eq_ok.2 hmount, Results.bind_eq_ok.2 ⟨r, hr, hfinish⟩⟩⟩
  refine ⟨hiff, fun decode => ⟨(hiff decode).trans (hiff .ok).symm, fun v hv => ?_, fun e he => ?_⟩⟩
  · obtain ⟨k, hk⟩ := h.run_get_eq_bind key version b state decode
    rw [hk, hv]
    show (∃ a, decode v.data = .ok a ∧ h.retype k decode (some v) = _) ∨
      ∃ message, h.retype k decode (some v) = _
    rw [retype]
    cases decode v.data with
    | ok a => exact Or.inl ⟨a, rfl, rfl⟩
    | error f => exact Or.inr ⟨_, rfl⟩
  · obtain ⟨k, hk⟩ := h.run_get_eq_bind key version b state decode
    rw [hk, he]
    rfl

/-- The answer to a read of version 3 with the payload. -/
def versionThree (payload : Json) : Response :=
  ⟨200, some (.object [("data", .object
    [("data", payload), ("metadata", .object [("version", .integer 3)])])]), none⟩

/-- A version that is gone is read as nothing, as a record and as a map; a number in the place of
a record is found as a value and is no record; and an error is that of both reads. -/
theorem get_absent_iff_versionThree :
    (((Handle.mk "kv").get "db" .latest ScalarRecord.decode).run Script.backend
        [.ok (versionThree .null)]).1 = .ok none ∧
      (((Handle.mk "kv").get "db" .latest StringMap.decode).run Script.backend
        [.ok (versionThree .null)]).1 = .ok none ∧
      (((Handle.mk "kv").get "db" .latest .ok).run Script.backend
          [.ok (versionThree (.integer 5))]).1 =
        .ok (some ⟨.integer 5, 3, "", "", false⟩) ∧
      ((∃ a, ScalarRecord.decode (.integer 5) = .ok a ∧
          (((Handle.mk "kv").get "db" .latest ScalarRecord.decode).run Script.backend
            [.ok (versionThree (.integer 5))]).1 = .ok (some ⟨a, 3, "", "", false⟩)) ∨
        ∃ message, (((Handle.mk "kv").get "db" .latest ScalarRecord.decode).run Script.backend
          [.ok (versionThree (.integer 5))]).1 = .error (.deserialize message)) ∧
      (((Handle.mk "kv").get "db" .latest .ok).run Script.backend [.error .timeout]).1 =
        .error .timeout ∧
      (((Handle.mk "kv").get "db" .latest ScalarRecord.decode).run Script.backend
        [.error .timeout]).1 = .error .timeout := by
  have hgone := get_absent_iff ⟨"kv"⟩ "db" .latest Script.backend [.ok (versionThree .null)]
  have hfive := get_absent_iff ⟨"kv"⟩ "db" .latest Script.backend [.ok (versionThree (.integer 5))]
  have hfail := get_absent_iff ⟨"kv"⟩ "db" .latest Script.backend [.error .timeout]
  have habsent : (versionThree .null).Absent :=
    .gone ⟨by decide, by decide⟩ rfl rfl (by simp) rfl (Or.inr rfl)
  have hrecord := (hgone.1 ScalarRecord.decode).2 ⟨_, _, rfl, rfl, rfl, habsent⟩
  exact ⟨hrecord, ((hgone.2 StringMap.decode).1.2 ((hgone.2 ScalarRecord.decode).1.1 hrecord)), rfl,
    (hfive.2 ScalarRecord.decode).2.1 _ rfl, rfl, (hfail.2 ScalarRecord.decode).2.2 _ rfl⟩

end Handle
end Strongbox
