import Testbed.Launch.Service

/-!
# Replica sets

A replica set has three members on one network. `ReplicaSet.start` brings it up stage by stage. When
a stage fails, everything started so far is released, the members in the order in which they started
and then the network, if it was made for this set. Only a missing primary is no failure.
-/

namespace Testbed

/-- How the poll for a primary ended. -/
inductive Election where
  | converged (attempts : Nat)
  | pending (attempts : Nat)
  deriving DecidableEq, Repr

namespace Election

def isConverged : Election → Bool
  | converged _ => true
  | pending _ => false

/-- How often the set was asked in vain. -/
def pending? : Election → Option Nat
  | converged _ => none
  | pending n => some n

/-- How often the set was asked for its primary. -/
def attempts : Election → Nat
  | converged n | pending n => n

end Election

/-- A running replica set. -/
structure ReplicaSet where
  base : String
  networkName : String
  /-- The network, when it was made for this set. -/
  network : Option Network
  master : Service
  second : Service
  third : Service
  election : Election
  terminated : Bool := false
  deriving DecidableEq, Repr

namespace ReplicaSet

/-- The members in the order in which they started. -/
def members (r : ReplicaSet) : List (ReplicaNode × Service) :=
  [(.master, r.master), (.second, r.second), (.third, r.third)]

def containerNames (r : ReplicaSet) : List String :=
  r.members.map (·.2.name)

/-- The connection string of the master. -/
def uri (r : ReplicaSet) : String :=
  replicaSetUri r.master.address

/-- The connection string of the member at `index`. -/
def nodeUri? (r : ReplicaSet) (index : Nat) : Option String :=
  r.members[index]?.map fun (_, service) => replicaSetUri service.address

/-- Releases the members in order and then the set's own network, unless that has been done. -/
def terminate (pacing : Pacing) (r : ReplicaSet) : Action ReplicaSet := do
  if r.terminated then return r
  let master ← r.master.terminate pacing
  let second ← r.second.terminate pacing
  let third ← r.third.terminate pacing
  let network ← r.network.mapM Network.remove
  return { r with master, second, third, network, terminated := true }

/-! ## Scripts -/

/-- Runs a script in the database shell of a container. -/
def eval (ctx : Context) (container script : String) : Attempt ExecOutput :=
  Engine.exec ctx container ["mongosh", "--quiet", "--eval", script]

/-- What tells the master which members the set has. -/
def initiateScript : String :=
  let member (node : ReplicaNode) (id : Nat) :=
    s!"\x7b_id: {id}, host: \"{node.hostname}:{Family.mongo.containerPort}\"\x7d"
  s!"printjson(rs.initiate(\x7b_id: \"{replicaSetName}\", members: [" ++
    ", ".intercalate (List.zipWith member ReplicaNode.all (List.range 3)) ++ "]\x7d))"

def masterScript : String := "printjson(rs.isMaster())"

def statusScript : String := "printjson(rs.status())"

/-- What a master says of itself. -/
def masterMarker : String := "ismaster: true"

def isInitiated (out : ExecOutput) : Bool := Text.contains out.output "ok"

def isMaster (out : ExecOutput) : Bool := Text.contains out.output masterMarker

def hasPrimary (out : ExecOutput) : Bool := Text.contains out.output "PRIMARY"

/-! ## Stages -/

/-- Cancellation is passed on as it is; any other error is put into `wrap`. -/
def unlessCancelled (wrap : String → Error) (e : Error) : Error :=
  if e.isCancelled then e else wrap e.message

/-- Joins the members into a set. -/
def initiate (ctx : Context) (base master : String) : Attempt Unit := do
  let out ← Task.mapError (unlessCancelled (.replicaSetInit base)) (eval ctx master initiateScript)
  if !isInitiated out then
    throw (.replicaSetInit base s!"unexpected output: {Text.trim out.output}")

/-- Why a master that does not report itself in time fails the bootstrap. -/
def notMasterReason (timeout : Duration) (attempts : Nat) (out : ExecOutput) : String :=
  s!"\x60{masterMarker}\x60 not reported within " ++ timeout.text ++
    s!" ({attempts} attempts): {Text.trim out.output}"

/-- Asks the master for its role until it reports itself or `masterTimeout` has passed since
`started`; `attempts` have been made before. -/
def pollMaster (pacing : Pacing) (ctx : Context) (master : String) (started : Instant)
    (attempts : Nat) : Nat → Attempt Unit
  | 0 => .mk .diverge
  | rounds + 1 => do
    let out ← Task.mapError (unlessCancelled (.masterVerification master))
      (eval ctx master masterScript)
    if isMaster out then return ()
    let elapsed := (← (System.now : Action Instant)) - started
    if pacing.masterTimeout ≤ elapsed then
      throw (.masterVerification master (notMasterReason pacing.masterTimeout (attempts + 1) out))
    ctx.sleep (min pacing.masterInterval (pacing.masterTimeout - elapsed)) pacing.rounds
    pollMaster pacing ctx master started (attempts + 1) rounds

/-- Waits until the master reports itself. -/
def verifyMaster (pacing : Pacing) (ctx : Context) (master : String) : Attempt Unit := do
  let started ← (System.now : Action Instant)
  pollMaster pacing ctx master started 0 pacing.rounds

/-- Asks a member for the primary at most `left` times, after `attempts` tries before. A failed
question counts as a try without a primary, unless it was cancelled. -/
def pollPrimary (pacing : Pacing) (ctx : Context) (observer : String) (attempts : Nat) :
    Nat → Attempt Election
  | 0 => do
    notify (.noPrimaryYet observer)
    return .pending attempts
  | left + 1 => do
    match ← (eval ctx observer statusScript).outcome with
    | .ok out => if hasPrimary out then return .converged (attempts + 1)
    | .error e => if e.isCancelled then throw e
    if 0 < left then ctx.sleep pacing.electionInterval pacing.rounds
    pollPrimary pacing ctx observer (attempts + 1) left

/-- Asks a member for the primary until there is one or the tries are used up. -/
def awaitPrimary (pacing : Pacing) (ctx : Context) (observer : String) : Attempt Election :=
  pollPrimary pacing ctx observer 0 pacing.electionBudget

/-! ## Bootstrap -/

/-- What a bootstrap has started so far. -/
structure Progress where
  network : Option Network := none
  members : List Service := []

/-- A stage of the bootstrap: it may fail, and what it started is known even then. -/
abbrev Building (α : Type) := ExceptT Error (StateT Progress Action) α

def attempt {α : Type} (task : Attempt α) : Building α :=
  .mk do (task.run : Action (Except Error α))

def reach (base : String) (stage : Stage) : Building Unit :=
  attempt do (notify (.stageReached base stage) : Action Unit)

/-- The first network of the options, or else a network made for the set. -/
def obtainNetwork (ctx : Context) (o : ServiceOptions) : Building String := do
  match o.networks with
  | name :: _ => return name
  | [] =>
    let network ← attempt (Network.createUnique ctx "mongo-replicaset")
    modify ({ · with network := some network })
    return network.name

def startMember (pacing : Pacing) (ctx : Context) (o : ServiceOptions) (network : String)
    (node : ReplicaNode) : Building Service := do
  let service ← attempt (launch pacing ctx (.replicaMember o node network))
  modify fun progress => { progress with members := progress.members ++ [service] }
  return service

/-- All stages up to the election; the result lacks only the set's own network. -/
def stages (pacing : Pacing) (ctx : Context) (o : ServiceOptions) : Building ReplicaSet := do
  let base := o.name
  let networkName ← obtainNetwork ctx o
  reach base .networkReady
  let master ← startMember pacing ctx o networkName .master
  let second ← startMember pacing ctx o networkName .second
  let third ← startMember pacing ctx o networkName .third
  reach base .nodesStarted
  reach base .addressesResolved
  attempt (initiate ctx base master.name)
  reach base .initiated
  attempt (verifyMaster pacing ctx master.name)
  reach base .masterVerified
  let election ← attempt (awaitPrimary pacing ctx (ReplicaNode.third.containerName base))
  reach base .primaryElected
  return { base, networkName, network := none, master, second, third, election }

/-- Terminates services in order. -/
def terminateAll (pacing : Pacing) : List Service → Action Unit
  | [] => return ()
  | service :: services => do
    discard (service.terminate pacing)
    terminateAll pacing services

/-- Releases what a failed bootstrap has started. -/
def rollback (pacing : Pacing) (progress : Progress) : Action Unit := do
  terminateAll pacing progress.members
  match progress.network with
  | some network => discard network.remove
  | none => return ()

/-- Starts the three members that `o` describes and joins them into a set. -/
def start (pacing : Pacing) (ctx : Context) (o : ServiceOptions) : Attempt ReplicaSet :=
  .mk do
    if o.credentials.isSome then notify (.credentialsIgnored o.name)
    let (result, progress) ← (stages pacing ctx o).run.run {}
    match result with
    | .ok set =>
      notify (.stageReached o.name .ready)
      return .ok { set with network := progress.network }
    | .error e =>
      notify (.bootstrapFailed o.name)
      rollback pacing progress
      return .error e

end ReplicaSet

end Testbed
