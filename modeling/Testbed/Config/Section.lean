import Testbed.Env
import Testbed.Options.Service

/-!
# Fixture files

A fixture file has a section for each fixture, and settings for the engine and for names. Everything
may be left out. Files are merged one after another: where a later file says something it counts,
and all else stays.
-/

namespace Testbed

namespace Config

/-- How the engine is talked to. -/
structure EngineSection where
  binary : Option String := none
  retryAttempts : Option Nat := none
  retryBackoffMillis : Option Nat := none
  deriving DecidableEq, Repr

/-- The names that fixtures without a name of their own go by. -/
structure NamesSection where
  network : Option String := none
  cache : Option String := none
  database : Option String := none
  broker : Option String := none
  coordinator : Option String := none
  deriving DecidableEq, Repr

structure NetworkSection where
  enabled : Option Bool := none
  name : Option String := none
  deriving DecidableEq, Repr

/-- A cache or a database. -/
structure ServiceSection where
  enabled : Option Bool := none
  name : Option String := none
  imageTag : Option String := none
  port : Option Int := none
  startupTimeoutSecs : Option Nat := none
  log : Option Bool := none
  user : Option String := none
  password : Option String := none
  /-- Means something for a cache only. -/
  dbIndex : Option Int := none
  /-- Means something for a database only. -/
  replicaSet : Option Bool := none
  env : Env := .empty
  deriving DecidableEq, Repr

structure BrokerSection where
  enabled : Option Bool := none
  brokerName : Option String := none
  coordinatorName : Option String := none
  brokerImageTag : Option String := none
  coordinatorImageTag : Option String := none
  port : Option Int := none
  startupTimeoutSecs : Option Nat := none
  log : Option Bool := none
  protocolVersion : Option String := none
  env : Env := .empty
  deriving DecidableEq, Repr

end Config

/-- What fixture files say. A section that is there asks for its fixture, unless it is not
enabled. -/
structure Config where
  engine : Config.EngineSection := {}
  names : Config.NamesSection := {}
  network : Option Config.NetworkSection := none
  cache : Option Config.ServiceSection := none
  database : Option Config.ServiceSection := none
  broker : Option Config.BrokerSection := none
  deriving DecidableEq, Repr

namespace Config

/-! ## Merging -/

def EngineSection.merge (base later : EngineSection) : EngineSection where
  binary := later.binary.or base.binary
  retryAttempts := later.retryAttempts.or base.retryAttempts
  retryBackoffMillis := later.retryBackoffMillis.or base.retryBackoffMillis

def NamesSection.merge (base later : NamesSection) : NamesSection where
  network := later.network.or base.network
  cache := later.cache.or base.cache
  database := later.database.or base.database
  broker := later.broker.or base.broker
  coordinator := later.coordinator.or base.coordinator

def NetworkSection.merge (base later : NetworkSection) : NetworkSection where
  enabled := later.enabled.or base.enabled
  name := later.name.or base.name

def ServiceSection.merge (base later : ServiceSection) : ServiceSection where
  enabled := later.enabled.or base.enabled
  name := later.name.or base.name
  imageTag := later.imageTag.or base.imageTag
  port := later.port.or base.port
  startupTimeoutSecs := later.startupTimeoutSecs.or base.startupTimeoutSecs
  log := later.log.or base.log
  user := later.user.or base.user
  password := later.password.or base.password
  dbIndex := later.dbIndex.or base.dbIndex
  replicaSet := later.replicaSet.or base.replicaSet
  env := base.env.overlay later.env

def BrokerSection.merge (base later : BrokerSection) : BrokerSection where
  enabled := later.enabled.or base.enabled
  brokerName := later.brokerName.or base.brokerName
  coordinatorName := later.coordinatorName.or base.coordinatorName
  brokerImageTag := later.brokerImageTag.or base.brokerImageTag
  coordinatorImageTag := later.coordinatorImageTag.or base.coordinatorImageTag
  port := later.port.or base.port
  startupTimeoutSecs := later.startupTimeoutSecs.or base.startupTimeoutSecs
  log := later.log.or base.log
  protocolVersion := later.protocolVersion.or base.protocolVersion
  env := base.env.overlay later.env

/-- Merges sections that may be missing. -/
def mergeSection {α : Type} (merge : α → α → α) : Option α → Option α → Option α
  | some base, some later => some (merge base later)
  | base, none => base
  | none, later => later

/-- What two files say together, `later` being the later one. -/
def merge (base later : Config) : Config where
  engine := base.engine.merge later.engine
  names := base.names.merge later.names
  network := mergeSection .merge base.network later.network
  cache := mergeSection .merge base.cache later.cache
  database := mergeSection .merge base.database later.database
  broker := mergeSection .merge base.broker later.broker

/-- What files say together, the latest last. -/
def mergeAll (configs : List Config) : Config :=
  configs.foldl merge {}

end Config

end Testbed
