/-
The health of a server.

A server that is sealed, standing by or not set up answers with an error status and still
tells its health: `Health.statuses` are the statuses that come with one.
-/
import Strongbox.Error
namespace Strongbox

/-- What a server tells of itself. -/
structure Health where
  initialized : Bool
  sealed : Bool
  standby : Bool
  version : String
  clusterName : Option String
  clusterId : Option String
  serverTimeUtc : Option Int
  deriving DecidableEq

namespace Health

/-- The statuses of answers that tell the health. -/
def statuses : List Nat := [200, 429, 472, 473, 501, 503]

/-- The record type as answers hold it. -/
def shape : Json.Shape Health where
  name := "HealthStatus"
  fields :=
    [⟨"initialized", fun v r => (Json.asFlag v).map fun b => { r with initialized := b }, true⟩,
     ⟨"sealed", fun v r => (Json.asFlag v).map fun b => { r with sealed := b }, true⟩,
     ⟨"standby", fun v r => (Json.asFlag v).map fun b => { r with standby := b }, false⟩,
     ⟨"version", fun v r => (Json.asText v).map fun s => { r with version := s }, true⟩,
     ⟨"cluster_name",
      fun v r => (Json.optional Json.asText v).map fun s => { r with clusterName := s }, false⟩,
     ⟨"cluster_id",
      fun v r => (Json.optional Json.asText v).map fun s => { r with clusterId := s }, false⟩,
     ⟨"server_time_utc",
      fun v r => (Json.optional Json.asInt64 v).map fun n => { r with serverTimeUtc := n }, false⟩]
  blank := ⟨false, false, false, "", none, none, none⟩

/-- The health that a value holds. -/
def decode : Json → Except Json.DecodeFault Health := shape.decode

def toJson (h : Health) : Json :=
  Json.ofMembers
    [("initialized", .bool h.initialized), ("sealed", .bool h.sealed), ("standby", .bool h.standby),
     ("version", .string h.version), ("cluster_name", Json.ofOption h.clusterName),
     ("cluster_id", Json.ofOption h.clusterId),
     ("server_time_utc", (h.serverTimeUtc.map Json.integer).getD .null)]

end Health
end Strongbox
