import Testbed.Session.Command
import Testbed.Session.World

/-!
# Sessions

A session runs steps in order and keeps what they make under the names they give. Everything still
held at the end is released in the order in which it was made.
-/

namespace Testbed.Session

open Simulation

/-- Something a step has made. -/
inductive Handle where
  | network (network : Network)
  | service (service : Service)
  | cache (cache : Cache)
  | database (database : Database)
  | broker (broker : Broker)
  | replicaSet (set : ReplicaSet)
  | set (set : FixtureSet)
  | collector (collector : Collector)

/-- Releases what a handle stands for, unless that has been done. -/
def Handle.release (pacing : Pacing) : Handle → Action Handle
  | network n => return .network (← n.remove)
  | service s => return .service (← s.terminate pacing)
  | cache c => return .cache (← c.terminate pacing)
  | database d => return .database (← d.terminate pacing)
  | broker b => return .broker (← b.terminate pacing)
  | replicaSet r => return .replicaSet (← r.terminate pacing)
  | set s => return .set (← s.close pacing)
  | collector c => return .collector (← c.stop)

structure State where
  world : World
  pacing : Pacing := {}
  /-- What the steps have made, in order. -/
  handles : List (String × Handle) := []
  /-- How many commands have been observed. -/
  seenCommands : Nat := 0
  /-- How many notices have been observed. -/
  seenNotices : Nat := 0

abbrev SessionM := StateM State

/-- Runs an action in the world of the session. -/
def perform {α : Type} (action : Action α) : SessionM (Option α) := do
  let s ← get
  let (result, world) := (World.perform action).run s.world
  set { s with world }
  return result

def modifyHost (f : Host → Host) : SessionM Unit :=
  modify fun s => { s with world := s.world.setHost (f s.world.host) }

/-- The answer of an attempt, by what it returns. -/
def answerOf {α : Type} (result : α → Answer) : Option (Except Error α) → Answer
  | none => .diverged
  | some (.error e) => .error e
  | some (.ok a) => result a

/-- Runs an attempt and answers its result. -/
def attempt {α : Type} (task : Attempt α) (result : α → Answer) : SessionM Answer := do
  return answerOf result (← perform task.run)

/-- Runs an action that answers nothing. -/
def quietly (action : Action Unit) : SessionM Answer := do
  match ← perform action with
  | some () => return .none
  | none => return .diverged

/-! ## Handles -/

/-- What a handle shows. -/
def view (h : Handle) : SessionM Answer := do
  match h with
  | .network n => return .network n
  | .service s => return .service s
  | .cache c => return .cache c
  | .database d => return .database d
  | .broker b => return .broker b
  | .replicaSet r => return .replicaSet r
  | .set s => return .set s
  | .collector c =>
    let feed := (← get).world.host.feed? c.stream
    return .collector c.container (feed.any (·.consumer = .holder))

/-- Keeps a handle under a name and shows it. -/
def keep (name : String) (h : Handle) : SessionM Answer := do
  modify fun s => { s with handles := s.handles ++ [(name, h)] }
  view h

/-- Runs an attempt and keeps what it makes. -/
def make {α : Type} (name : String) (task : Attempt α) (handle : α → Handle) : SessionM Answer := do
  match ← perform task.run with
  | none => return .diverged
  | some (.error e) => return .error e
  | some (.ok a) => keep name (handle a)

/-- The position of the newest handle of a name. -/
def position? (handles : List (String × Handle)) (name : String) : Option Nat := do
  let fromEnd ← handles.reverse.findIdx? (·.1 = name)
  return handles.length - 1 - fromEnd

/-- Goes on with the newest handle of a name and its position. -/
def withHandle (name : String) (go : Nat → Handle → SessionM Answer) : SessionM Answer := do
  let handles := (← get).handles
  match position? handles name with
  | none => return .noHandle
  | some i => match handles[i]? with
    | none => return .noHandle
    | some (_, h) => go i h

def replaceHandle (i : Nat) (h : Handle) : SessionM Unit :=
  modify fun s => { s with handles := s.handles.modify i fun entry => (entry.1, h) }

def forgetHandle (i : Nat) : SessionM Unit :=
  modify fun s => { s with handles := s.handles.eraseIdx i }

/-- Goes on with the stream of a collector. -/
def withCollector (name : String) (go : Collector → SessionM Answer) : SessionM Answer :=
  withHandle name fun _ h => match h with
    | .collector c => go c
    | _ => return .noHandle

/-- Changes a handle by an action and shows it. -/
def changeHandle (i : Nat) (action : Action Handle) : SessionM Answer := do
  match ← perform action with
  | none => return .diverged
  | some h =>
    replaceHandle i h
    view h

/-! ## Commands -/

/-- What a reply of the engine is answered as. -/
def replyAnswer : (r : Engine.Request) → Engine.Reply r → Answer
  | .available, value | .isPortReady _ _ _ _, value => .flag value
  | .host, value => .text value
  | .inspect _, reply => answerOf .text (some reply)
  | .isRunning _, reply | .networkExists _, reply => answerOf .flag (some reply)
  | .mappedPort _ _, reply => answerOf .port (some reply)
  | .exec _ _ _, reply => answerOf .output (some reply)
  | .attachLogs _, reply => answerOf (fun _ => .none) (some reply)
  | .run _ _, reply | .remove _, reply | .createNetwork _ _, reply | .removeNetwork _, reply
  | .pruneNetworks, reply | .ping _ _ _, reply => answerOf (fun () => .none) (some reply)

def bySource (records : List LogRecord) : List LogRecord :=
  records.mergeSort fun a b => a.source.text ≤ b.source.text

def build (draft : ServiceDraft) : Attempt ServiceOptions :=
  liftM (n := Attempt) (draft.build : Action ServiceOptions)

def launchProfile (pacing : Pacing) (ctx : Context) (draft : ServiceDraft) (profile : Profile) :
    Attempt Service := do
  let options ← build draft
  (profile.notice? options).forM fun notice => (notify notice : Action Unit)
  launch pacing ctx (profile.request options)

/-- How long a single request to open a connection may take. -/
def pingTimeout : Duration := .ofSecs 1

/-- Attaches to the output of a container and reads from it without a collector. -/
def readLogs (name : String) (read : Option Nat) (interrupt : Bool) : SessionM Answer := do
  match ← perform (Engine.attachLogs name).run with
  | none => return .diverged
  | some (.error e) => return .error e
  | some (.ok stream) =>
    let (records, host) := (← get).world.host.readRecords stream read
    let ended := (host.readRecords stream none).1.isEmpty
    modifyHost fun _ => host.discardStream stream
    return .logs (bySource records) (if interrupt then some ended else none)

/-- Takes records out of the channel of a collector. -/
def receive (c : Collector) (count : Nat) (sorted : Bool) : SessionM Answer := do
  match (← get).world.host.receive c.stream count with
  | none => return .noReceiver
  | some (records, closed, host) =>
    modifyHost fun _ => host
    return .received (if sorted then bySource records else records) closed

/-- Claims the records of a collector; answers whether they were still to be had. -/
def takeRecords (c : Collector) : SessionM Answer := do
  let free := ((← get).world.host.feed? c.stream).any (·.consumer = .unclaimed)
  modifyHost (·.claim c.stream .holder)
  return .flag free

/-- Gives up the records of a collector. -/
def dropRecords (c : Collector) : SessionM Answer := do
  let held := ((← get).world.host.feed? c.stream).any (·.consumer = .holder)
  if held then
    modifyHost fun h =>
      (h.updateFeed c.stream fun feed => { feed with consumer := .gone }).movePump c.stream .abandon
  return .none

/-- Writes lines in order; answers how many were accepted. -/
def writeLines (container : String) (source : LogSource) (lines : List (List UInt8)) :
    SessionM Answer := do
  let mut accepted := 0
  for line in lines do
    let s ← get
    let (ok, world) := (World.writeLine container source line).run s.world
    set { s with world }
    if ok then accepted := accepted + 1
  return .number accepted

/-- Answers what only a simulated engine knows. -/
def ofEngine (answer : SimulatedEngine → Answer) : SessionM Answer := do
  return answer (← get).world.simulated

def engineCalls (e : SimulatedEngine) (label : String) : Answer :=
  .engineCalls (e.calls.count label) e.calls.length (e.calls.drop (e.calls.length - 5))

def run (ctx : Context) (pacing : Pacing) : Command → SessionM Answer
  | .setup change => do
    modify fun s => { s with world := s.world.apply change }
    return .none
  | .containerExists name => attempt (Testbed.containerExists name) .flag
  | .removeForced name => quietly (Testbed.removeForced pacing.retry name)
  | .removeNetwork name => quietly (Testbed.removeNetwork name)
  | .pruneNetworks => quietly Testbed.pruneNetworks
  | .dropContainers names => quietly (Testbed.dropContainers pacing.retry names)
  | .dropPlan plan => do
    discard (quietly (Testbed.dropContainers pacing.retry plan.containerNames))
    return .names plan.containerNames
  | .createNetwork name saveAs => make saveAs (Network.create ctx name) .network
  | .createUniqueNetwork stem saveAs => make saveAs (Network.createUnique ctx stem) .network
  | .launch draft profile saveAs => make saveAs (launchProfile pacing ctx draft profile) .service
  | .waitForPort name host hostPort containerPort timeout =>
    attempt (Launch.waitForPort pacing ctx name host hostPort containerPort timeout) fun () => .none
  | .startCache draft saveAs =>
    make saveAs (do Cache.start pacing ctx (← build draft)) .cache
  | .startDatabase draft saveAs =>
    make saveAs (do Database.start pacing ctx (← build draft)) .database
  | .startReplicaSet draft saveAs =>
    make saveAs (do ReplicaSet.start pacing ctx (← build draft)) .replicaSet
  | .startBroker draft saveAs =>
    make saveAs (do Broker.start pacing ctx (← (draft.build : Action BrokerOptions))) .broker
  | .unplanned e => return .unplanned e
  | .newSet saveAs => keep saveAs (.set {})
  | .provision plan saveAs =>
    make saveAs (liftM (n := Attempt) (FixtureSet.provision pacing ctx plan)) .set
  | .extend handle plan => withHandle handle fun i h => match h with
    | .set set => changeHandle i (.set <$> set.extend pacing ctx plan)
    | _ => return .noHandle
  | .intoReady handle => withHandle handle fun i h => match h with
    | .set set => do
      forgetHandle i
      make handle (set.intoReady pacing) .set
    | _ => return .noHandle
  | .terminate handle => withHandle handle fun i h => changeHandle i (h.release pacing)
  | .drop handle => withHandle handle fun i h => do
    forgetHandle i
    quietly (discard (h.release pacing))
  | .display handle => withHandle handle fun _ h => view h
  | .container name => ofEngine fun e => .container (e.container? name)
  | .engineCalls label => ofEngine fun e => engineCalls e label
  | .collect name saveAs => make saveAs (Collector.start ctx name) .collector
  | .takeRecords handle => withCollector handle takeRecords
  | .dropRecords handle => withCollector handle dropRecords
  | .forward handle => withCollector handle fun c => quietly c.forward
  | .receive handle count sorted => withCollector handle fun c => receive c count sorted
  | .writeLines container source lines => writeLines container source lines
  | .request of => do
    match ← perform (Engine.ask (of ctx)) with
    | some reply => return replyAnswer (of ctx) reply
    | none => return .diverged
  | .readLogs name read interrupt => readLogs name read interrupt

/-! ## Steps -/

/-- What has happened since the last observation. -/
def observe (answer : Answer) : SessionM Observation := do
  let s ← get
  let commands := s.world.commands
  let notices := s.world.host.notices
  set { s with seenCommands := commands.count, seenNotices := notices.length }
  return {
    answer
    commands := commands.drop s.seenCommands
    notices := notices.drop s.seenNotices
    inventory := s.world.inventory }

/-- The context of a step: that of the session, bounded by the timeout of the step. -/
def contextOf (timeout : Option Duration) : SessionM Context := do
  let ctx := (← get).world.context
  match timeout with
  | none => return ctx
  | some timeout => return (← perform (ctx.withTimeout timeout)).getD ctx

/-- Runs a step and observes what happened. -/
def runStep (step : Step) : SessionM Observation := do
  let ctx ← contextOf step.timeout
  observe (← run ctx (← get).pacing step.command)

/-- Releases everything that is still held, in the order in which it was made. -/
def releaseAll : SessionM Observation := do
  let s ← get
  set { s with handles := [] }
  for (_, h) in s.handles do
    discard (quietly (discard (h.release s.pacing)))
  observe .none

/-- What a session tells. -/
structure Transcript where
  steps : List Observation
  released : Observation
  printed : List PrintedLine
  /-- The suffixes that were handed out. -/
  suffixes : List String
  /-- The free ports that were handed out. -/
  freePorts : List Port
  deriving DecidableEq, Repr

/-- Runs the steps of a session and then releases everything. -/
def runAll (world : World) (pacing : Pacing) (steps : List Step) : Transcript :=
  let session : SessionM Transcript := do
    let observations ← steps.mapM runStep
    let released ← releaseAll
    let host := (← get).world.host
    return ⟨observations, released, host.printed, host.suffixes, host.freePorts⟩
  (session.run { world, pacing }).1

end Testbed.Session
