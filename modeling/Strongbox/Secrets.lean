/-
Operations on versioned secrets, through the handles of their mounts.

Mount and key are checked before anything else happens.  A write adds a version; a write of
an empty map does nothing.  A read of something that is not there gives nothing, or the
empty map.
-/
import Strongbox.Handle
namespace Strongbox.Secrets

/-- An operation on a key of a mount, both of which are accepted. -/
def onKey {α : Type} (mount key : String) (f : Handle → String → Call α) : Call α :=
  Call.ofArgument (Argument.require .mount mount) fun mount =>
    Call.ofArgument (Argument.require .secretKey key) fun key => f ⟨mount⟩ key

/-- An operation through the handle of its mount. -/
def through {α : Type} (h : Handle) (plan : Plan α) : Call α := ⟨some h.mount, plan⟩

def writeScalar (mount key value : String) : Call VersionMetadata :=
  onKey mount key fun h key => through h (h.put key (ScalarRecord.toJson ⟨value⟩))

/-- Reads a scalar secret with its metadata. -/
def readScalarVersioned (mount key : String) (version : Version) :
    Call (Option (Versioned String)) :=
  onKey mount key fun h key =>
    through h ((h.get key version ScalarRecord.decode).map fun v =>
      v.map fun v => v.map ScalarRecord.value)

def readScalar (mount key : String) (version : Version) : Call (Option String) :=
  (readScalarVersioned mount key version).map fun v => v.map Versioned.data

/-- Writes a composite secret, unless it is empty. -/
def writeMap (mount key : String) (map : StringMap) : Call (Option VersionMetadata) :=
  onKey mount key fun h key =>
    if map.isEmpty then .settled (.ok none)
    else through h ((h.put key (StringMap.toJson map)).map some)

def readMap (mount key : String) (version : Version) : Call StringMap :=
  onKey mount key fun h key =>
    through h ((h.get key version StringMap.decode).map fun v => (v.map Versioned.data).getD [])

/-- Lists the names at the root of a mount. -/
def list (mount : String) : Call (List String) :=
  Call.ofArgument (Argument.require .mount mount) fun mount =>
    through ⟨mount⟩ (Handle.list ⟨mount⟩ "")

end Strongbox.Secrets
