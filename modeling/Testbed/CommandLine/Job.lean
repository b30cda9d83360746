import Testbed.CommandLine.Invocation
import Testbed.Config.Load
import Testbed.Config.Plan
import Testbed.Docker.Engine
import Testbed.FixtureSet

/-!
# Jobs

What a command does. A job asks the engine, the system and the console; it begins by making sure
that the engine answers.
-/

namespace Testbed.CommandLine

inductive Console.Request where
  /-- Prints a text and brings it out. -/
  | print (text : String)
  /-- The next line of the input with its line feed; nothing when the input has ended. -/
  | readLine
  deriving DecidableEq, Repr

/-- The interface of a console. -/
def Console : Interface where
  Request := Console.Request
  Reply
    | .print _ => Except String Unit
    | .readLine => Except String (List UInt8)

/-- What a job asks: an engine, a system or a console. -/
abbrev Desk : Interface := Engine.onSystem.sum Console

/-- Why a job has failed: what was meant to be done, and then cause after cause. -/
structure Failure where
  causes : List String
  deriving DecidableEq, Repr

namespace Failure

def text (f : Failure) : String := ": ".intercalate f.causes

/-- An error with the one it arose from. -/
def causesOf : Error → List String
  | .setup role source => Error.message (.setup role source) :: causesOf source
  | e => [e.message]

def ofError (e : Error) : Failure := ⟨causesOf e⟩

def ofLoadError (e : Config.LoadError) : Failure := ⟨e.message :: e.cause?.toList⟩

def engineMissing (binary : String) : Failure :=
  ⟨[s!"container runtime \x60{binary}\x60 is not available; is the daemon running?"]⟩

/-- A failure in the course of something. -/
def during (what : String) (f : Failure) : Failure := ⟨what :: f.causes⟩

end Failure

/-- A program at a desk that may fail. -/
abbrev Work (α : Type) := ExceptT Failure (Prog Desk) α

namespace Work

/-- Does something with the engine and the system. -/
def act {α : Type} (action : Action α) : Work α :=
  ExceptT.lift action.inLeft

/-- Does something with the engine and the system that may fail. -/
def attempt {α : Type} (task : Attempt α) : Work α :=
  .mk do return (← task.run.inLeft).mapError .ofError

def print (text : String) : Work Unit :=
  .mk do
    match ← Prog.request (I := Desk) (Sum.inr (.print text)) with
    | .ok () => return .ok ()
    | .error reason => return .error ⟨[reason]⟩

def readLine : Prog Desk (Except String (List UInt8)) :=
  Prog.request (I := Desk) (Sum.inr .readLine)

/-- Names what was being done when `work` failed. -/
def during {α : Type} (what : String) (work : Work α) : Work α :=
  .mk do return (← work.run).mapError (.during what)

end Work

/-! ## The commands -/

/-- What the user is told about a set that is ready. -/
def endpoints (set : FixtureSet) : List String :=
  ["✅ Fixtures ready"] ++
  (set.networkName.map fun name => s!"- network  | {name}").toList ++
  (set.cache?.map fun c => s!"- cache    | {c.service.address.text} (db {c.dbIndex})").toList ++
  (set.database?.map fun d => s!"- database | {d.uri}").toList ++
  (((set.database?.bind (·.replicaSet?)).bind (·.election.pending?)).map fun attempts =>
    s!"  ⚠️  no primary after {attempts} status checks").toList ++
  (set.broker?.map fun b =>
    let brokers := ",".intercalate b.brokers
    s!"- broker   | {brokers} (protocol {b.version})").toList

def prompt : String := "⏎  Press Enter to tear everything down"

def printLines (lines : List String) : Work Unit :=
  lines.forM fun line => Work.print (line ++ "\n")

/-- Waits for a line of the user. The line has to be a text. -/
def awaitEnter : Work Unit :=
  .mk do
    match ← Work.readLine with
    | .error reason => return .error ⟨[reason]⟩
    | .ok line =>
      return if (Text.Utf8.decode line).isSome then .ok () else .error ⟨[Config.notUtf8]⟩

def close (pacing : Pacing) (set : FixtureSet) : Work Unit :=
  .act (discard (set.close pacing))

/-- Runs `work`; if it fails, closes the set. -/
def closeOnFailure (pacing : Pacing) (set : FixtureSet) (work : Work Unit) : Work Unit :=
  .mk do
    match ← work.run with
    | .ok () => return .ok ()
    | .error e => do
      discard (close pacing set).run
      return .error e

/-- Shows what is ready and, unless told otherwise, waits for the user. -/
def present (set : FixtureSet) (noWait : Bool) : Work Unit := do
  printLines (endpoints set)
  if !noWait then
    printLines [prompt]
    awaitEnter.during "reading from stdin"

/-- Provides the fixtures of a configuration, shows them, and releases them when the user is done.
`rounds` bounds the rounds of any one wait. -/
def up (config : Config) (fresh noWait : Bool) (rounds : Nat) : Work Unit := do
  let pacing : Pacing := { retry := config.retryPolicy, rounds }
  if fresh then Work.act (dropContainers pacing.retry config.plan.containerNames)
  let ctx ← Work.act Context.background
  let set ← Work.act (FixtureSet.provision pacing ctx config.plan)
  let set ← (Work.attempt (set.intoReady pacing)).during "provisioning fixtures"
  closeOnFailure pacing set (present set noWait)
  close pacing set
  printLines ["🧹 Fixtures removed"]

def down (containers networks : List String) : Work Unit := do
  Work.act (removeAll .standard containers)
  networks.forM fun network => Work.act (removeNetwork network)
  printLines [s!"🧹 Removed {containers.length} container(s) and {networks.length} network(s)"]

/-- The state a container is in. -/
def stateOf (name : String) : Attempt String := do
  if !(← containerExists name) then return "absent"
  return if ← Engine.isRunning name then "running" else "stopped"

/-- Tells the states of containers in order, up to the first that cannot be found out. -/
def status (names : List String) : Work Unit :=
  names.forM fun name => do
    let state ← Work.attempt (stateOf name)
    let column := Text.padRight 20 name
    printLines [s!"- {column} | {state}"]

def prune : Work Unit := do
  Work.act pruneNetworks
  printLines ["🧹 Unused networks pruned"]

/-! ## Jobs -/

/-- Work to be done by means of a client. -/
structure Job where
  binary : String
  work : Work Unit

/-- Does the work if the engine answers. -/
def Job.program (job : Job) : Prog Desk (Except Failure Unit) :=
  ExceptT.run do
    if !(← Work.act Engine.available) then throw (Failure.engineMissing job.binary)
    job.work

/-- The job of an invocation. A client named by fixture files is used unless another is asked for.
-/
def Invocation.job (home : String) (i : Invocation) :
    Prog Config.Files (Except Failure Job) := do
  let client := i.client.getD ({} : Docker.Config).binary
  match i.command with
  | .up files fresh noWait =>
    match ← Config.load home files with
    | .error e => return .error (.ofLoadError e)
    | .ok config =>
      let work := up config fresh noWait ({} : Pacing).rounds
      return .ok ⟨(i.client.or config.binary).getD client, work⟩
  | .down containers networks => return .ok ⟨client, down containers networks⟩
  | .status names => return .ok ⟨client, status names⟩
  | .prune => return .ok ⟨client, prune⟩

/-! ## Clients -/

/-- What a job asks when a client serves its engine. -/
abbrev ClientDesk : Interface := Docker.Client.onSystem.sum Console

/-- Answers a request of a job by means of a client. -/
def serveDesk (config : Docker.Config) : (r : Desk.Request) → Prog ClientDesk (Desk.Reply r)
  | .inl r => (config.serveOnSystem r).inLeft
  | .inr r => Prog.request (I := ClientDesk) (Sum.inr r)

/-- A job as a program over the client that serves its engine. -/
def Job.overClient (config : Docker.Config) (job : Job) : Prog ClientDesk (Except Failure Unit) :=
  job.program.interpret (serveDesk { config with binary := job.binary })

end Testbed.CommandLine
