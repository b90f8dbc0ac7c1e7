/-
What a server tells of a secret, and the payloads it holds.

A version of a secret is a payload with its metadata (`Versioned`).  A scalar secret is the
payload `{"value": …}` (`ScalarRecord`), a composite one an object of strings (`StringMap`).
An answer to a read is an `Entry`: metadata, and a payload unless the version is gone.
-/
import Strongbox.Error
import Strongbox.Timestamp
namespace Strongbox

/-- The payload of a scalar secret. -/
structure ScalarRecord where
  value : String
  deriving DecidableEq

namespace ScalarRecord

/-- The record type as answers hold it. -/
def shape : Json.Shape ScalarRecord where
  name := "SecretRecord"
  fields := [⟨"value", fun v r => (Json.asText v).map fun s => { r with value := s }, true⟩]
  blank := ⟨""⟩

/-- The record that a value holds. -/
def decode : Json → Except Json.DecodeFault ScalarRecord := shape.decode

def toJson (r : ScalarRecord) : Json := .object [("value", .string r.value)]

end ScalarRecord

/-- The payload of a composite secret: strings by name, the names in order. -/
abbrev StringMap := List (String × String)

namespace StringMap

/-- The map that a value holds. -/
def decode : Json → Except Json.DecodeFault StringMap := Json.asMap Json.asText

def toJson (m : StringMap) : Json := Json.ofMembers (m.map fun e => (e.1, .string e.2))

end StringMap

/-- The metadata of a version.  Times are kept as the server wrote them. -/
structure VersionMetadata where
  version : Nat
  createdTime : String
  deletionTime : String
  destroyed : Bool
  deriving DecidableEq

namespace VersionMetadata

/-- The record type as answers hold it. -/
def shape : Json.Shape VersionMetadata where
  name := "VersionMetadata"
  fields :=
    [⟨"version", fun v r => (Json.asNat32 v).map fun n => { r with version := n }, true⟩,
     ⟨"created_time", fun v r => (Json.asText v).map fun s => { r with createdTime := s }, false⟩,
     ⟨"deletion_time", fun v r => (Json.asText v).map fun s => { r with deletionTime := s }, false⟩,
     ⟨"destroyed", fun v r => (Json.asFlag v).map fun b => { r with destroyed := b }, false⟩]
  blank := ⟨0, "", "", false⟩

/-- The metadata that a value holds. -/
def decode : Json → Except Json.DecodeFault VersionMetadata := shape.decode

def toJson (m : VersionMetadata) : Json :=
  Json.ofMembers
    [("version", Json.nat m.version), ("created_time", .string m.createdTime),
     ("deletion_time", .string m.deletionTime), ("destroyed", .bool m.destroyed)]

def createdAt? (m : VersionMetadata) : Option Timestamp := Timestamp.parse? m.createdTime

/-- When the version was deleted, if it was. -/
def deletedAt? (m : VersionMetadata) : Option Timestamp := Timestamp.parse? m.deletionTime

end VersionMetadata

/-- A payload with the metadata of its version. -/
structure Versioned (α : Type) where
  data : α
  metadata : VersionMetadata
  deriving DecidableEq

namespace Versioned

def version {α : Type} (v : Versioned α) : Nat := v.metadata.version

/-- The same version with another payload. -/
def map {α β : Type} (f : α → β) (v : Versioned α) : Versioned β := ⟨f v.data, v.metadata⟩

end Versioned

/-- The answer to a read. -/
structure Entry where
  data : Option Json
  metadata : VersionMetadata

namespace Entry

/-- The record type as answers hold it. -/
def shape : Json.Shape Entry where
  name := "KvEntry"
  fields :=
    [⟨"data", fun v r => (Json.optional Except.ok v).map fun d => { r with data := d }, false⟩,
     ⟨"metadata",
      fun v r => (VersionMetadata.decode v).map fun m => { r with metadata := m }, true⟩]
  blank := ⟨none, VersionMetadata.shape.blank⟩

/-- The entry that a value holds. -/
def decode : Json → Except Json.DecodeFault Entry := shape.decode

end Entry

/-- The answer to a listing. -/
structure KeyList where
  keys : List String

namespace KeyList

/-- The record type as answers hold it. -/
def shape : Json.Shape KeyList where
  name := "KeyList"
  fields := [⟨"keys", fun v _ => (Json.asList Json.asText v).map KeyList.mk, false⟩]
  blank := ⟨[]⟩

/-- The list that a value holds. -/
def decode : Json → Except Json.DecodeFault KeyList := shape.decode

end KeyList
end Strongbox
