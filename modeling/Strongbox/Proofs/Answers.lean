/-
The answers of the server in memory, as the operations on secrets read them.

* `metadata_decode` — the metadata of a version is read back, if its number fits 32 bits;
* `finishPut_success`, `finishGet_success`, `finishList_success` — what the answers of success
  mean.
-/
import Strongbox.Backend.Memory
import Strongbox.Handle
import Strongbox.Proofs.Results
import Mathlib.Data.List.Basic

namespace Strongbox

/-! ### Lists of texts -/

namespace Json

/-- A list of texts. -/
def texts (ss : List String) : Json := .array (ss.map .string)

theorem asText_eq_ok_iff {v : Json} {s : String} : asText v = .ok s ↔ v = .string s := by
  cases v <;> simp [asText, mismatch]

theorem asList_asText_eq_ok_iff {v : Json} {ss : List String} :
    asList asText v = .ok ss ↔ v = texts ss := by
  cases v with
  | array items =>
    rw [asList, Results.mapM_eq_ok_iff (g := Json.string) fun _ _ => asText_eq_ok_iff, texts,
      Json.array.injEq]
  | _ => simp [asList, mismatch, texts]

end Json

namespace Memory

/-- The metadata that is told of a version that is not deleted. -/
def liveMetadata (n : Nat) : VersionMetadata := ⟨n, createdTime, "", false⟩

theorem metadata_eq (n : Nat) :
    metadata n false = .object
      [("created_time", .string createdTime), ("deletion_time", .string ""),
        ("destroyed", .bool false), ("version", .integer n)] := by
  have hmembers : ∀ a b c d : Json,
      Json.ofMembers [("version", a), ("created_time", b), ("deletion_time", c),
        ("destroyed", d)] =
        .object [("created_time", b), ("deletion_time", c), ("destroyed", d), ("version", a)] := by
    intro a b c d
    have hcreated : "created_time" < "version" := by decide
    have hdeletion : ¬ "deletion_time" < "created_time" ∧ "deletion_time" < "version" := by decide
    have hdestroyed : ¬ "destroyed" < "created_time" ∧ ¬ "destroyed" < "deletion_time" ∧
        "destroyed" < "version" := by decide
    simp [Json.ofMembers, Json.insert, hcreated, hdeletion, hdestroyed]
  exact hmembers _ _ _ _

theorem asNat32_nat {n : Nat} (h : n < UInt32.size) : Json.asNat32 (.integer n) = .ok n := by
  have hbound : (0 : Int) ≤ n ∧ (n : Int) < (UInt32.size : Nat) := ⟨by omega, by exact_mod_cast h⟩
  rw [Json.asNat32, Json.asIntegerIn, if_pos hbound]
  rfl

/-- The record of an object whose members can be put into it. -/
theorem ofMembers_eq_ok {ρ : Type} {s : Json.Shape ρ} {members : List (String × Json)} {r : ρ}
    (hput : members.foldlM s.putMember s.blank = .ok r) (hall : s.missing? members = none) :
    s.ofMembers members = .ok r := by
  rw [Json.Shape.ofMembers, hput, hall]
  rfl

theorem putMember_version (r : VersionMetadata) (v : Json) :
    VersionMetadata.shape.putMember r ("version", v) =
      (Json.asNat32 v).map fun n => { r with version := n } := rfl

theorem metadata_decode {n : Nat} (h : n < UInt32.size) :
    VersionMetadata.decode (metadata n false) = .ok (liveMetadata n) := by
  rw [metadata_eq]
  refine ofMembers_eq_ok ?_ rfl
  -- the members before the version are put in place by computing
  have hstart : ∀ rest, List.foldlM VersionMetadata.shape.putMember VersionMetadata.shape.blank
      (("created_time", .string createdTime) :: ("deletion_time", .string "") ::
        ("destroyed", .bool false) :: rest) =
      List.foldlM VersionMetadata.shape.putMember ⟨0, createdTime, "", false⟩ rest := fun _ => rfl
  rw [hstart, List.foldlM_cons, putMember_version, asNat32_nat h]
  rfl

theorem putMember_data (r : Entry) (v : Json) :
    Entry.shape.putMember r ("data", v) =
      .ok { r with data := if v.isNull then none else some v } := by
  cases v <;> rfl

theorem putMember_metadata (r : Entry) (v : Json) :
    Entry.shape.putMember r ("metadata", v) =
      (VersionMetadata.decode v).map fun m => { r with metadata := m } := rfl

theorem putMember_of_ne {name : String} (hdata : name ≠ "data") (hmetadata : name ≠ "metadata")
    (r : Entry) (v : Json) : Entry.shape.putMember r (name, v) = .ok r := by
  have hfind : Entry.shape.fields.find? (·.name == name) = none := by
    simp [Entry.shape, hdata.symm, hmetadata.symm]
  rw [Json.Shape.putMember, hfind]

/-- An entry is read back; its payload is none if it is null. -/
theorem entry_decode {metadata : Json} {m : VersionMetadata}
    (h : VersionMetadata.decode metadata = .ok m) (payload : Json) :
    Entry.decode (entry payload metadata) =
      .ok ⟨if payload.isNull then none else some payload, m⟩ := by
  rw [entry]
  refine ofMembers_eq_ok ?_ rfl
  rw [List.foldlM_cons, putMember_data]
  show List.foldlM Entry.shape.putMember
    ⟨if payload.isNull then none else some payload, Entry.shape.blank.metadata⟩
    [("metadata", metadata)] = _
  rw [List.foldlM_cons, putMember_metadata, h]
  rfl

theorem putMember_keys (r : KeyList) (v : Json) :
    KeyList.shape.putMember r ("keys", v) = (Json.asList Json.asText v).map KeyList.mk := rfl

theorem keys_decode (names : List String) :
    KeyList.decode (.object [("keys", .array (names.map Json.string))]) = .ok ⟨names⟩ := by
  have hnames : Json.asList Json.asText (.array (names.map Json.string)) = .ok names :=
    Json.asList_asText_eq_ok_iff.2 rfl
  refine ofMembers_eq_ok ?_ rfl
  rw [List.foldlM_cons, putMember_keys, hnames]
  rfl

/-! ### Finished operations -/

theorem data_success (v : Json) : (success (dataOf v)).data =
    if v.isNull then .error (.deserialize "response has no data field") else .ok v := rfl

theorem dataAs_success {α : Type} {decode : Json → Except Json.DecodeFault α} {v : Json} {a : α}
    (hnull : v.isNull = false) (h : decode v = .ok a) :
    (success (dataOf v)).dataAs decode = .ok a := by
  rw [Response.dataAs, data_success, hnull]
  show (decode v).mapError Error.ofDecode = _
  rw [h]
  rfl

theorem finishPut_success {n : Nat} (h : n < UInt32.size) :
    Handle.finishPut (success (dataOf (metadata n false))) = .ok (liveMetadata n) := by
  have hok : (success (dataOf (metadata n false))).isSuccess = true := rfl
  have hnull : (metadata n false).isNull = false := by rw [metadata_eq]; rfl
  rw [Handle.finishPut, hok, Bool.not_true, if_neg Bool.false_ne_true,
    dataAs_success hnull (metadata_decode h)]

/-- The answer to a read of a version is its payload, unless that is null. -/
theorem finishGet_success {n : Nat} (h : n < UInt32.size) {α : Type} (handle : Handle)
    (key : String) (decode : Json → Except Json.DecodeFault α) (payload : Json) :
    handle.finishGet key decode (success (dataOf (entry payload (metadata n false)))) =
      if payload.isNull then .ok none
      else match decode payload with
        | .ok a => .ok (some ⟨a, liveMetadata n⟩)
        | .error f => .error (handle.payloadFault key n f) := by
  have hok : (success (dataOf (entry payload (metadata n false)))).isSuccess = true := rfl
  have hfound : (success (dataOf (entry payload (metadata n false)))).isNotFound = false := rfl
  rw [Handle.finishGet, hfound, hok, Bool.not_true, if_neg Bool.false_ne_true,
    if_neg Bool.false_ne_true, dataAs_success rfl (entry_decode (metadata_decode h) payload)]
  cases payload <;> rfl

theorem finishList_success (names : List String) :
    Handle.finishList (success (dataOf (.object [("keys", .array (names.map Json.string))]))) =
      .ok names := by
  have hok : (success (dataOf (.object [("keys", .array (names.map Json.string))]))).isSuccess =
      true := rfl
  have hfound : (success (dataOf (.object [("keys", .array (names.map Json.string))]))).isNotFound =
      false := rfl
  rw [Handle.finishList, hfound, hok, Bool.not_true, if_neg Bool.false_ne_true,
    if_neg Bool.false_ne_true, dataAs_success rfl (keys_decode names)]
  rfl

end Memory

end Strongbox
