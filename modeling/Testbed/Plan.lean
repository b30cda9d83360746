import Testbed.Options.Broker
import Testbed.Launch.Request

/-!
# Plans

A plan lists the fixtures to provide, in order. A step may leave its options open; they then come
from the names of the plan and the fixed ports below.
-/

namespace Testbed

/-- The names used by steps without options of their own. -/
structure FixtureNames where
  network : String := "test-network"
  cache : String := "test-redis"
  database : String := "test-mongo"
  broker : String := "test-kafka"
  coordinator : String := "test-zoo"
  deriving DecidableEq, Repr

inductive Step where
  | network (name : Option String)
  | cache (options : Option ServiceDraft)
  | database (options : Option ServiceDraft)
  | replicatedDatabase (options : Option ServiceDraft)
  | broker (options : Option BrokerDraft)
  deriving DecidableEq, Repr

namespace Step

def role : Step → Role
  | network _ => .network
  | cache _ => .cache
  | database _ | replicatedDatabase _ => .primaryStore
  | broker _ => .broker

/-- A replicated database whose options ask for a replica set, whatever they asked for before. -/
def replicatedDatabaseWith (options : ServiceDraft) : Step :=
  .replicatedDatabase (some (options.set (.replicaSet true)))

end Step

structure Plan where
  names : FixtureNames := {}
  steps : List Step := []
  deriving DecidableEq, Repr

namespace FixtureNames

def cachePort : Int := 3890

def databasePort : Int := 2189

/-- The cache of a step without options. -/
def cacheDraft (names : FixtureNames) : ServiceDraft :=
  ServiceDraft.setAll { family := .redis } [.name names.cache, .port cachePort]

/-- The database of a step without options. -/
def databaseDraft (names : FixtureNames) : ServiceDraft :=
  ServiceDraft.setAll { family := .mongo } [.name names.database, .port databasePort]

/-- The replicated database of a step without options; its name is generated. -/
def replicatedDatabaseDraft : ServiceDraft :=
  ServiceDraft.set { family := .mongo } (.replicaSet true)

/-- The broker of a step without options. -/
def brokerDraft (names : FixtureNames) : BrokerDraft :=
  BrokerDraft.setAll {} [.brokerName names.broker, .coordinatorName names.coordinator]

end FixtureNames

namespace Plan

def roles (p : Plan) : List Role :=
  p.steps.map Step.role

/-- The container names a step will use, as far as they are not generated at the start. -/
def stepContainerNames (names : FixtureNames) : Step → List String
  | .network _ => []
  | .cache none => [names.cache]
  | .database none => [names.database]
  | .replicatedDatabase none => []
  | .broker none => [names.broker, names.coordinator]
  | .cache (some options) | .database (some options) => options.configuredName.toList
  | .replicatedDatabase (some options) =>
    match options.configuredName with
    | some base => ReplicaNode.all.map (·.containerName base)
    | none => []
  | .broker (some options) => options.configuredNames

/-- The container names the plan will use, as far as they are not generated at the start. -/
def containerNames (p : Plan) : List String :=
  p.steps.flatMap (stepContainerNames p.names)

end Plan

end Testbed
