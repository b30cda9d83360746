import Testbed.Config.Section
import Testbed.Plan
import Testbed.Removal

/-!
# Plans from fixture files

A configuration becomes a plan with at most one step for each fixture: first the network, then the
cache, the database and the broker. What a section leaves open is filled in from the names.
-/

namespace Testbed.Config

/-- The client binary that the files ask for. -/
def binary (c : Config) : Option String := c.engine.binary

/-- How removals are tried again; what is left open is as usual. -/
def retryPolicy (c : Config) : RetryPolicy where
  attempts := c.engine.retryAttempts.getD RetryPolicy.standard.attempts
  backoff := (c.engine.retryBackoffMillis.map Duration.ofMillis).getD RetryPolicy.standard.backoff

/-- The names of the plan. The network section may name the network too, and wins. -/
def fixtureNames (c : Config) : FixtureNames :=
  let usual : FixtureNames := {}
  { network := ((c.network.bind (·.name)).or c.names.network).getD usual.network
    cache := c.names.cache.getD usual.cache
    database := c.names.database.getD usual.database
    broker := c.names.broker.getD usual.broker
    coordinator := c.names.coordinator.getD usual.coordinator }

/-- The section, unless it is missing or not enabled. -/
def enabledSection {α : Type} (enabled : α → Option Bool) (s : Option α) : Option α :=
  s.filter fun s => (enabled s).getD true

/-- The credentials of a section. A user without a password says nothing. -/
def ServiceSection.credentials (s : ServiceSection) : Option ServiceSetting :=
  match s.user, s.password with
  | some user, some password => some (.credentials user password)
  | none, some password => some (.password password)
  | _, none => none

/-- What a section sets. -/
def ServiceSection.settings (s : ServiceSection) : List ServiceSetting :=
  (s.name.map .name).toList ++
  (s.imageTag.map .imageTag).toList ++
  (s.port.map .port).toList ++
  (s.startupTimeoutSecs.map fun n => .startupTimeout (.ofSecs n)).toList ++
  (s.log.map .log).toList ++
  (s.dbIndex.map .dbIndex).toList ++
  s.credentials.toList ++
  s.env.entries.map fun (name, value) => .envVar name value

/-- What a section sets; it takes names that it leaves open from those of the plan. -/
def BrokerSection.settings (names : FixtureNames) (s : BrokerSection) : List BrokerSetting :=
  [.brokerName (s.brokerName.getD names.broker),
   .coordinatorName (s.coordinatorName.getD names.coordinator)] ++
  (s.brokerImageTag.map .brokerImageTag).toList ++
  (s.coordinatorImageTag.map .coordinatorImageTag).toList ++
  (s.port.map .port).toList ++
  (s.startupTimeoutSecs.map fun n => .startupTimeout (.ofSecs n)).toList ++
  (s.log.map .log).toList ++
  (s.protocolVersion.map .protocolVersion).toList ++
  s.env.entries.map fun (name, value) => .brokerEnvVar name value

def networkStep? (c : Config) : Option Step :=
  (enabledSection (·.enabled) c.network).map fun _ => .network none

def cacheStep? (c : Config) : Option Step :=
  (enabledSection (·.enabled) c.cache).map fun s =>
    .cache (some (c.fixtureNames.cacheDraft.setAll s.settings))

/-- A replica set without a name in its section has a generated one. -/
def databaseStep? (c : Config) : Option Step :=
  (enabledSection (·.enabled) c.database).map fun s =>
    if s.replicaSet.getD false then
      .replicatedDatabaseWith (ServiceDraft.setAll { family := .mongo } s.settings)
    else .database (some (c.fixtureNames.databaseDraft.setAll s.settings))

def brokerStep? (c : Config) : Option Step :=
  (enabledSection (·.enabled) c.broker).map fun s =>
    .broker (some (BrokerDraft.setAll {} (s.settings c.fixtureNames)))

/-- The plan of a configuration. -/
def plan (c : Config) : Plan where
  names := c.fixtureNames
  steps := [c.networkStep?, c.cacheStep?, c.databaseStep?, c.brokerStep?].filterMap id

end Testbed.Config
