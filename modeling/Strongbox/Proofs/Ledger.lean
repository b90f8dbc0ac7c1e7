/-
The reference store of versioned secrets.

A `Ledger` holds for every pair of paths the versions that were ever written there, the first
one first.  Versions are only added, and a version can be marked as deleted; nothing else
changes.  `Ledger.answer` says what every operation on secrets answers, without requests,
responses or a search for paths.

What is written and how it is read are told by the members of objects alone: a map is written as
its names with their values (`StringMap.members`), a scalar secret is the text named `value`
(`Ledger.scalar`), and a composite one has nothing but texts (`Ledger.entries`).

* `length_append`, `length_delete` — how many versions there are after a change;
* `grows_answer` — an operation adds at most one version, and takes none away;
* `find?_append_latest`, `find?_append_specific`, `find?_delete_of_ne` — what is found after a
  change;
* `answer_read_of_write` — so a secret that was written is read.
-/
import Strongbox.Proofs.Actions
import Strongbox.Proofs.Members
import Strongbox.Text.Pieces
import Mathlib.Data.Finset.Sort
import Mathlib.Data.String.Basic

namespace Strongbox

/-- A version of a secret: what was written, and whether it was deleted since. -/
structure Ledger.Record where
  payload : Json
  deleted : Bool

/-- The versions of all secrets, and the keys of every mount that have one. -/
structure Ledger where
  versions : (mount key : String) → List Ledger.Record
  keys : (mount : String) → Finset String
  mem_keys : ∀ mount key, key ∈ keys mount ↔ versions mount key ≠ []

namespace Ledger

/-- The store without versions. -/
def empty : Ledger where
  versions _ _ := []
  keys _ := ∅
  mem_keys _ _ := by simp

variable (l : Ledger) (mount key : String)

/-- The store with one more version of a secret. -/
def append (payload : Json) : Ledger where
  versions m k :=
    if mount = m ∧ key = k then l.versions m k ++ [⟨payload, false⟩] else l.versions m k
  keys m := if mount = m then insert key (l.keys m) else l.keys m
  mem_keys m k := by
    by_cases hm : mount = m
    · by_cases hk : key = k
      · simp [hm, hk]
      · simp [hm, hk, Ne.symm hk, l.mem_keys]
    · simp [hm, l.mem_keys]

/-- The store with a version of a secret marked as deleted, counted from one. -/
def delete (version : Nat) : Ledger where
  versions m k :=
    if mount = m ∧ key = k then
      (l.versions m k).modify (version - 1) fun r => { r with deleted := true }
    else l.versions m k
  keys := l.keys
  mem_keys m k := by
    split
    · rw [l.mem_keys, not_iff_not, List.modify_eq_nil_iff]
    · exact l.mem_keys m k

/-- The number and the payload of a version, unless there is none, or it is deleted or null. -/
def find? (version : Version) : Option (Nat × Json) :=
  let number := version.number?.getD (l.versions mount key).length
  match (l.versions mount key)[number - 1]? with
  | some ⟨payload, false⟩ => if payload.isNull then none else some (number, payload)
  | _ => none

/-- The name that a listing shows for a key: its first segment, with a slash if there are more. -/
def shown (key : String) : String :=
  match Text.pieces '/' key.toList with
  | p :: _ :: _ => String.ofList (p ++ ['/'])
  | _ => key

/-- The names that a listing of a mount shows, in order. -/
def names : List String := inOrder ((l.keys mount).image shown)

/-! ### What payloads are read as -/

/-- What is said of a value that should have been another one. -/
def unexpected (v : Json) (expected : String) : String :=
  "invalid type: " ++ v.found ++ ", expected " ++ expected

/-- What is said of a list that should have been longer or shorter. -/
def wrongLength (length : Nat) (expected : String) : String :=
  "invalid length " ++ Numeral.decimal length ++ ", expected " ++ expected

/-- The text that a value is. -/
def text : Json → Except String String
  | .string s => .ok s
  | v => .error (unexpected v "a string")

/-- The text of a scalar secret: the one that is named `value`, the last one if there are more, of
which all are texts; or the one item of a list. -/
def scalar : Json → Except String String
  | .object members => do
    let texts ← (members.filter (·.1 == "value")).mapM fun m => text m.2
    match texts.getLast? with
    | some s => .ok s
    | none => .error "missing field `value`"
  | .array [] => .error (wrongLength 0 "struct SecretRecord with 1 element")
  | .array (v :: rest) => do
    let s ← text v
    if rest.isEmpty then .ok s else .error (wrongLength (rest.length + 1) "fewer elements in array")
  | v => .error (unexpected v "struct SecretRecord")

/-- The entries of a composite secret: its members, of which all are texts. -/
def entries : Json → Except String StringMap
  | .object members => members.mapM fun m => (text m.2).map fun s => (m.1, s)
  | v => .error (unexpected v "a map")

/-! ### Answers -/

/-- The metadata of a version that is not deleted. -/
def metadata (number : Nat) : VersionMetadata := ⟨number, "2024-01-01T00:00:00Z", "", false⟩

variable {α : Type}

/-- Goes on with accepted names; a name that is rejected is the answer. -/
def onKey (f : (mount key : String) → Result α × Ledger) : Result α × Ledger :=
  match Argument.require .mount mount with
  | .error fault => (.error (Error.ofArgument fault), l)
  | .ok mount =>
    match Argument.require .secretKey key with
    | .error fault => (.error (Error.ofArgument fault), l)
    | .ok key => f mount key

/-- Writes a payload; the answer is the metadata of the new version. -/
def write (payload : Json) : Result VersionMetadata × Ledger :=
  let l := l.append (Endpoint.encodePath mount) (Endpoint.encodePath key) payload
  (.ok (metadata (l.versions (Endpoint.encodePath mount) (Endpoint.encodePath key)).length), l)

/-- Reads a version by a reader of payloads; what it cannot read is a fault that names the
secret. -/
def read (version : Version) (reader : Json → Except String α) : Result (Option (Versioned α)) :=
  match l.find? (Endpoint.encodePath mount) (Endpoint.encodePath key) version with
  | none => .ok none
  | some (number, payload) =>
    match reader payload with
    | .ok a => .ok (some ⟨a, metadata number⟩)
    | .error fault =>
      .error (.deserialize ("secret " ++ mount ++ "/" ++ key ++ " version "
        ++ Numeral.decimal number ++ ": " ++ fault))

/-- What an operation on secrets answers, and the store afterwards. -/
def answer (l : Ledger) : Secrets.Action α → Result α × Ledger
  | .write mount key value =>
    l.onKey mount key fun m k => l.write m k (.object [("value", .string value)])
  | .read mount key =>
    l.onKey mount key fun m k =>
      ((l.read m k .latest scalar).map fun v => v.map Versioned.data, l)
  | .readVersion mount key version =>
    l.onKey mount key fun m k =>
      ((l.read m k version scalar).map fun v => v.map Versioned.data, l)
  | .readVersioned mount key version =>
    l.onKey mount key fun m k => (l.read m k version scalar, l)
  | .writeMap mount key map =>
    l.onKey mount key fun m k =>
      if map = [] then (.ok none, l)
      else ((l.write m k (.object map.members)).1.map some, (l.write m k (.object map.members)).2)
  | .readMap mount key =>
    l.onKey mount key fun m k =>
      ((l.read m k .latest entries).map fun v => (v.map Versioned.data).getD [], l)
  | .readMapVersion mount key version =>
    l.onKey mount key fun m k =>
      ((l.read m k version entries).map fun v => (v.map Versioned.data).getD [], l)
  | .list mount =>
    match Argument.require .mount mount with
    | .error fault => (.error (Error.ofArgument fault), l)
    | .ok mount => (.ok (l.names (Endpoint.encodePath mount)), l)

theorem answer_read :
    l.answer (.read mount key) = l.answer (.readVersion mount key .latest) := by
  rw [answer, answer]

theorem answer_readMap :
    l.answer (.readMap mount key) = l.answer (.readMapVersion mount key .latest) := by
  rw [answer, answer]

/-- A read without metadata is one with metadata that are left out. -/
theorem answer_readVersion (version : Version) :
    l.answer (.readVersion mount key version) =
      ((l.answer (.readVersioned mount key version)).1.map fun v => v.map Versioned.data,
        (l.answer (.readVersioned mount key version)).2) := by
  rw [answer, answer, onKey, onKey]
  cases Argument.require .mount mount with
  | error fault => rfl
  | ok m => cases Argument.require .secretKey key <;> rfl

/-- What is read can be changed afterwards or by the reader. -/
theorem read_map {β : Type} (version : Version) (reader : Json → Except String α) (f : α → β) :
    (l.read mount key version reader).map (fun v => v.map fun v => v.map f) =
      l.read mount key version fun v => (reader v).map f := by
  rw [read, read]
  cases l.find? (Endpoint.encodePath mount) (Endpoint.encodePath key) version with
  | none => rfl
  | some found =>
    obtain ⟨number, payload⟩ := found
    dsimp only
    cases reader payload <;> rfl

/-! ### The number of versions -/

variable {l mount key} {m k : String}

theorem length_append (payload : Json) :
    ((l.append mount key payload).versions m k).length =
      (l.versions m k).length + if mount = m ∧ key = k then 1 else 0 := by
  show (if mount = m ∧ key = k then _ else _ : List Record).length = _
  split
  · exact List.length_append
  · rfl

theorem length_delete (version : Nat) :
    ((l.delete mount key version).versions m k).length = (l.versions m k).length := by
  show (if mount = m ∧ key = k then _ else _ : List Record).length = _
  split
  · exact List.length_modify _ _ _
  · rfl

/-- No secret has fewer versions than before, and none has two more. -/
def Grows (l l' : Ledger) : Prop :=
  ∀ m k, (l.versions m k).length ≤ (l'.versions m k).length ∧
    (l'.versions m k).length ≤ (l.versions m k).length + 1

/-- Every secret has a number of versions that fits 32 bits. -/
def Bounded (l : Ledger) : Prop := ∀ m k, (l.versions m k).length < UInt32.size

theorem Bounded.of_grows {l l' : Ledger} (hb : l'.Bounded) (h : Grows l l') : l.Bounded :=
  fun m k => lt_of_le_of_lt (h m k).1 (hb m k)

theorem Grows.refl (l : Ledger) : Grows l l := fun _ _ => ⟨le_rfl, Nat.le_succ _⟩

theorem grows_append (payload : Json) : Grows l (l.append mount key payload) := by
  intro m k
  rw [length_append]
  split <;> omega

theorem grows_delete (version : Nat) : Grows l (l.delete mount key version) := by
  intro m k
  rw [length_delete]
  omega

theorem grows_onKey {f : String → String → Result α × Ledger}
    (h : ∀ mount key, Grows l (f mount key).2) : Grows l (l.onKey mount key f).2 := by
  rw [onKey]
  split
  · exact Grows.refl l
  · split
    · exact Grows.refl l
    · exact h _ _

/-- An operation adds at most one version, and takes none away. -/
theorem grows_answer (a : Secrets.Action α) : Grows l (l.answer a).2 := by
  -- only the two writes change the store
  cases a with
  | write mount key value =>
    rw [answer]
    exact grows_onKey fun _ _ => grows_append _
  | read mount key =>
    rw [answer]
    exact grows_onKey fun _ _ => Grows.refl l
  | readVersion mount key version =>
    rw [answer]
    exact grows_onKey fun _ _ => Grows.refl l
  | readVersioned mount key version =>
    rw [answer]
    exact grows_onKey fun _ _ => Grows.refl l
  | writeMap mount key map =>
    rw [answer]
    refine grows_onKey fun _ _ => ?_
    split
    · exact Grows.refl l
    · exact grows_append _
  | readMap mount key =>
    rw [answer]
    exact grows_onKey fun _ _ => Grows.refl l
  | readMapVersion mount key version =>
    rw [answer]
    exact grows_onKey fun _ _ => Grows.refl l
  | list mount =>
    rw [answer]
    split <;> exact Grows.refl l

/-! ### What is read after a write -/

theorem versions_append_self (payload : Json) :
    (l.append mount key payload).versions mount key =
      l.versions mount key ++ [⟨payload, false⟩] := if_pos ⟨rfl, rfl⟩

/-- The latest version is the last one written. -/
theorem find?_append_latest {payload : Json} (hnull : payload.isNull = false) :
    (l.append mount key payload).find? mount key .latest =
      some ((l.versions mount key).length + 1, payload) := by
  rw [find?, versions_append_self]
  simp [Version.number?, hnull]

/-- A version that was there before a write stays what it was. -/
theorem find?_append_specific (payload : Json) {n : VersionNumber}
    (h : n.value ≤ (l.versions mount key).length) :
    (l.append mount key payload).find? mount key (.specific n) =
      l.find? mount key (.specific n) := by
  have hpos := n.positive
  have hget : (l.versions mount key ++ [⟨payload, false⟩])[n.value - 1]? =
      (l.versions mount key)[n.value - 1]? := List.getElem?_append_left (by omega)
  rw [find?, find?, versions_append_self]
  simp [Version.number?, hget]

/-- A deletion leaves all other versions of the secret alone. -/
theorem find?_delete_of_ne {version : Nat} (hv : 0 < version) {n : VersionNumber}
    (h : n.value ≠ version) :
    (l.delete mount key version).find? mount key (.specific n) =
      l.find? mount key (.specific n) := by
  have hpos := n.positive
  have hversions : (l.delete mount key version).versions mount key =
      (l.versions mount key).modify (version - 1) fun r => { r with deleted := true } :=
    if_pos ⟨rfl, rfl⟩
  have hget : ((l.versions mount key).modify (version - 1)
      fun r => { r with deleted := true })[n.value - 1]? =
      (l.versions mount key)[n.value - 1]? :=
    List.getElem?_modify_ne _ _ (by omega)
  rw [find?, find?, hversions]
  simp [Version.number?, hget]

theorem onKey_ok {f : String → String → Result α × Ledger} {m k : String}
    (hm : Argument.require .mount mount = .ok m) (hk : Argument.require .secretKey key = .ok k) :
    l.onKey mount key f = f m k := by
  rw [onKey, hm]
  dsimp only
  rw [hk]

theorem require_of_onKey {f : String → String → Result α × Ledger} {a : α}
    (h : (l.onKey mount key f).1 = .ok a) :
    ∃ m k, Argument.require .mount mount = .ok m ∧ Argument.require .secretKey key = .ok k := by
  rw [onKey] at h
  split at h
  · exact absurd h (by simp)
  · next m hm =>
    split at h
    · exact absurd h (by simp)
    · next k hk => exact ⟨m, k, hm, hk⟩

/-- **A written secret is read.**  After a write that was answered with a version, the latest
version of the secret is the value of that write. -/
theorem answer_read_of_write {value : String} {v : VersionMetadata}
    (h : (l.answer (.write mount key value)).1 = .ok v) :
    ((l.answer (.write mount key value)).2.answer (.read mount key)).1 = .ok (some value) := by
  rw [answer] at h ⊢
  obtain ⟨m, k, hm, hk⟩ := require_of_onKey h
  have hread : (l.write m k (.object [("value", .string value)])).2.read m k .latest scalar =
      .ok (some ⟨value, metadata ((l.versions (Endpoint.encodePath m)
        (Endpoint.encodePath k)).length + 1)⟩) := by
    rw [read, write]
    dsimp only
    rw [find?_append_latest rfl]
    rfl
  rw [onKey_ok hm hk, answer, onKey_ok hm hk, hread]
  rfl

end Ledger
end Strongbox
