import Testbed.Fixture
import Testbed.Plan

/-!
# Fixture sets

A fixture set runs plans step by step. The first failure sticks: the steps after it are skipped, and
so are all later plans. What was provided stays registered until the set is closed, which releases
it in reverse order, sweeps up what survived, and removes the networks last.
-/

namespace Testbed

inductive Fixture where
  | cache (cache : Cache)
  | database (database : Database)
  | broker (broker : Broker)
  deriving DecidableEq, Repr

namespace Fixture

def containerNames : Fixture → List String
  | cache c => c.containerNames
  | database d => d.containerNames
  | broker b => b.containerNames

def terminate (pacing : Pacing) : Fixture → Action Fixture
  | cache c => return .cache (← c.terminate pacing)
  | database d => return .database (← d.terminate pacing)
  | broker b => return .broker (← b.terminate pacing)

def cache? : Fixture → Option Cache
  | cache c => some c
  | _ => none

def database? : Fixture → Option Database
  | database d => some d
  | _ => none

def broker? : Fixture → Option Broker
  | broker b => some b
  | _ => none

end Fixture

inductive StepStatus where
  | provisioned
  | failed (error : Error)
  | skipped
  deriving DecidableEq, Repr

structure StepReport where
  role : Role
  status : StepStatus
  deriving DecidableEq, Repr

structure Registration where
  role : Role
  fixture : Fixture
  deriving DecidableEq, Repr

/-- The fixtures provided by the plans run so far. -/
structure FixtureSet where
  /-- The networks of the set, the current one last. -/
  networks : List Network := []
  registry : List Registration := []
  error : Option Error := none
  reports : List StepReport := []
  closed : Bool := false
  deriving DecidableEq, Repr

namespace FixtureSet

def isReady (set : FixtureSet) : Bool :=
  set.error.isNone && !set.closed

/-- The network that fixtures join now. -/
def networkName (set : FixtureSet) : Option String :=
  set.networks.getLast?.map (·.name)

def roles (set : FixtureSet) : List Role :=
  set.registry.map (·.role)

def containerNames (set : FixtureSet) : List String :=
  set.registry.flatMap (·.fixture.containerNames)

def cache? (set : FixtureSet) : Option Cache :=
  set.registry.findSome? (·.fixture.cache?)

def database? (set : FixtureSet) : Option Database :=
  set.registry.findSome? (·.fixture.database?)

def broker? (set : FixtureSet) : Option Broker :=
  set.registry.findSome? (·.fixture.broker?)

/-! ## Running plans -/

/-- Replaces the networks of a draft by the network of the set. -/
def joinNetwork (set : FixtureSet) (draft : ServiceDraft) : ServiceDraft :=
  match set.networkName with
  | some network => draft.set (.networks [network])
  | none => draft

def joinNetworkBoth (set : FixtureSet) (draft : BrokerDraft) : BrokerDraft :=
  match set.networkName with
  | some network => draft.set (.networks [network])
  | none => draft

def register (set : FixtureSet) (role : Role) (fixture : Fixture) : FixtureSet :=
  { set with registry := set.registry ++ [⟨role, fixture⟩] }

/-- Makes the network called `name` the current one, unless it is that already. -/
def enterNetwork (ctx : Context) (set : FixtureSet) (name : String) : Attempt FixtureSet := do
  if set.networkName = some name then return set
  let network ← Network.create ctx name
  return { set with networks := set.networks ++ [network] }

def startDatabase (pacing : Pacing) (ctx : Context) (set : FixtureSet) (draft : ServiceDraft) :
    Attempt FixtureSet := do
  let options ← ((set.joinNetwork draft).build : Action ServiceOptions)
  let database ← Database.start pacing ctx options
  return set.register .primaryStore (.database database)

def runStep (pacing : Pacing) (ctx : Context) (names : FixtureNames) (set : FixtureSet) :
    Step → Attempt FixtureSet
  | .network name => set.enterNetwork ctx (name.getD names.network)
  | .cache draft => do
    let options ← ((set.joinNetwork (draft.getD names.cacheDraft)).build : Action ServiceOptions)
    let cache ← Cache.start pacing ctx options
    return set.register .cache (.cache cache)
  | .database draft => set.startDatabase pacing ctx (draft.getD names.databaseDraft)
  | .replicatedDatabase draft =>
    set.startDatabase pacing ctx (draft.getD FixtureNames.replicatedDatabaseDraft)
  | .broker draft => do
    let options ← ((set.joinNetworkBoth (draft.getD names.brokerDraft)).build :
      Action BrokerOptions)
    let broker ← Broker.start pacing ctx options
    return set.register .broker (.broker broker)

def report (set : FixtureSet) (role : Role) (status : StepStatus) : FixtureSet :=
  { set with reports := set.reports ++ [⟨role, status⟩] }

/-- Runs steps in order; after a failure the rest is skipped. -/
def runSteps (pacing : Pacing) (ctx : Context) (names : FixtureNames) (set : FixtureSet) :
    List Step → Action FixtureSet
  | [] => return set
  | step :: steps => do
    if set.error.isSome then
      runSteps pacing ctx names (set.report step.role .skipped) steps
    else
      match ← (set.runStep pacing ctx names step).run with
      | .ok set => runSteps pacing ctx names (set.report step.role .provisioned) steps
      | .error e => do
        notify (.setupFailed step.role)
        let failed := { set.report step.role (.failed e) with error := some (.setup step.role e) }
        runSteps pacing ctx names failed steps

/-- Runs the steps of a plan, unless a step has failed before or the set is closed. -/
def extend (pacing : Pacing) (ctx : Context) (set : FixtureSet) (plan : Plan) :
    Action FixtureSet := do
  if set.closed then
    notify .setClosed
    return set
  if set.error.isSome then return set
  set.runSteps pacing ctx plan.names plan.steps

/-- Runs a plan in a new set. -/
def provision (pacing : Pacing) (ctx : Context) (plan : Plan) : Action FixtureSet :=
  extend pacing ctx {} plan

/-! ## Closing -/

/-- Terminates fixtures in order. -/
def terminateAll (pacing : Pacing) : List Registration → Action Unit
  | [] => return ()
  | registration :: rest => do
    discard (registration.fixture.terminate pacing)
    terminateAll pacing rest

/-- Removes each container that is still there, or of which this cannot be told. -/
def sweep (retry : RetryPolicy) : List String → Action Unit
  | [] => return ()
  | name :: names => do
    match ← (containerExists name).run with
    | .ok false => pure ()
    | .ok true => do
      notify (.survivedTeardown name)
      removeForced retry name
    | .error _ => do
      notify (.existenceUnknown name)
      removeForced retry name
    sweep retry names

/-- Removes networks in order. -/
def removeNetworks : List Network → Action Unit
  | [] => return ()
  | network :: networks => do
    discard network.remove
    removeNetworks networks

/-- Releases everything, unless that has been done. -/
def close (pacing : Pacing) (set : FixtureSet) : Action FixtureSet := do
  if set.closed then return set
  terminateAll pacing set.registry.reverse
  sweep pacing.retry set.containerNames
  removeNetworks set.networks.reverse
  return { set with closed := true, registry := [], networks := [] }

/-- The set, if every step succeeded; otherwise closes it and fails with the first failure. -/
def intoReady (pacing : Pacing) (set : FixtureSet) : Attempt FixtureSet :=
  .mk do
    match set.error with
    | none => return .ok set
    | some e => do
      discard (set.close pacing)
      return .error e

end FixtureSet

end Testbed
