import Testbed.Docker.Arguments
import Testbed.Docker.Reading
import Testbed.Engine

/-!
# Engines behind a client

`serve` answers every request to an engine by running a client. Requests that carry a context run
the client under it: once the context is done, the client is killed. A container that could not join
all of its networks is removed again.
-/

namespace Testbed.Docker

/-- Which client is run, and how. -/
structure Config where
  binary : String := "docker"
  /-- The address of the engine, if one is set. -/
  engineAddress : Option String := none
  /-- A bound on how often a running client is looked at; a wait that needs more diverges. -/
  rounds : Nat := 1000000000
  deriving DecidableEq, Repr

/-- A program over a client and a system. -/
abbrev Call (α : Type) := Prog Client.onSystem α

/-- A call that may fail. -/
abbrev CallAttempt (α : Type) := Task Client.onSystem α

namespace Config

/-- A client run as it is named in errors. -/
def describe (config : Config) (args : List String) : String :=
  config.binary ++ " " ++ " ".intercalate args

/-- The error of a client that could not be run. -/
def notRun (config : Config) (args : List String) (reason : String) : Error :=
  .commandFailed (config.describe args) reason false

/-! ## Running the client -/

/-- Runs a client until it ends, and returns its standard output. -/
def output (config : Config) (args : List String) : CallAttempt String := do
  let completion ← Client.attempt (config.notRun args) (Client.execute args)
  liftM (n := CallAttempt) (completion.result (config.describe args))

/-- The time between two looks at a running client. -/
def pollInterval : Duration := .ofMillis 50

/-- Waits for a running client to end, and kills it once the context is done. -/
def await (config : Config) (ctx : Context) (args : List String) (process : ProcessId) :
    Nat → CallAttempt Completion
  | 0 => .mk .diverge
  | rounds + 1 => do
    match ← Client.attempt (config.notRun args) (Client.poll process) with
    | some completion => return completion
    | none =>
      ctx.check.onFailure fun _ => Client.kill process
      (System.sleep pollInterval : Call Unit)
      config.await ctx args process rounds

/-- Runs a client under a context. -/
def bounded (config : Config) (ctx : Context) (args : List String) : CallAttempt Completion := do
  ctx.check
  let process ← Client.attempt (config.notRun args) (Client.spawn args)
  config.await ctx args process config.rounds

/-- Runs a client under a context, and returns its standard output. -/
def boundedOutput (config : Config) (ctx : Context) (args : List String) : CallAttempt String := do
  let completion ← config.bounded ctx args
  liftM (n := CallAttempt) (completion.result (config.describe args))

/-! ## Requests -/

def available (_config : Config) : Call Bool := do
  match ← Client.execute Arguments.version with
  | .ok completion => return completion.reportsVersion
  | .error _ => return false

/-- The text of a successful look at something, or nothing when it does not exist. -/
def lookup (config : Config) (args : List String) : CallAttempt (Option String) := do
  match ← (config.output args).outcome with
  | .ok text => return some text
  | .error e => if e.isNotFound then return none else throw e

def isRunning (config : Config) (name : String) : CallAttempt Bool := do
  return (← config.lookup (Arguments.inspectRunning name)).any (Text.trim · = "true")

def networkExists (config : Config) (name : String) : CallAttempt Bool := do
  return (← config.lookup (Arguments.inspectNetwork name)).isSome

def remove (config : Config) (name : String) : CallAttempt Unit :=
  discard (config.output (Arguments.remove name))

/-- Removes a container that could not join its networks, and says so when that fails too. -/
def undoRun (config : Config) (name : String) : Call Unit := do
  match ← (config.remove name).run with
  | .ok () => return ()
  | .error _ => System.notify (.halfStartedNotRemoved name)

/-- Joins a container to networks in order. -/
def connectAll (config : Config) (ctx : Context) (name : String) : List String → CallAttempt Unit
  | [] => return ()
  | network :: networks => do
    (discard (config.boundedOutput ctx (Arguments.connect network name))).onFailure fun _ =>
      config.undoRun name
    config.connectAll ctx name networks

def run (config : Config) (ctx : Context) (spec : ContainerSpec) : CallAttempt Unit := do
  discard (config.boundedOutput ctx (Arguments.run spec))
  config.connectAll ctx spec.name spec.networks.tail

def mappedPort (config : Config) (name : String) (containerPort : Port) : CallAttempt Port := do
  let args := Arguments.mappedPort name containerPort
  let text ← config.output args
  match mappedPort? text with
  | some port => return port
  | none =>
    throw (.commandFailed (config.describe args)
      s!"unexpected port mapping output: {Text.trim text}" false)

def exec (config : Config) (ctx : Context) (name : String) (cmd : List String) :
    CallAttempt ExecOutput := do
  let args := Arguments.exec name cmd
  let completion ← config.bounded ctx args
  liftM (n := CallAttempt) (completion.execResult (config.describe args))

/-- Tries the addresses of a host in order. When none answers, the last failure is the reason. -/
def dialFirst (timeout : Duration) (reason : String) :
    List Endpoint → Call (Except String Unit)
  | [] => return .error reason
  | endpoint :: endpoints => do
    match ← Client.dial endpoint timeout with
    | .ok () => return .ok ()
    | .error reason => dialFirst timeout reason endpoints

def ping (host : String) (port : Port) (timeout : Duration) : CallAttempt Unit := do
  let wrap := Error.connect (Address.text ⟨host, port⟩)
  let endpoints ← Client.attempt wrap (Client.resolve host port)
  Client.attempt wrap (dialFirst timeout "no addresses resolved" endpoints)

/-- How long a published port may take to accept a connection. -/
def probeTimeout : Duration := .ofMillis 500

/-- How long the test inside a container may take. -/
def innerProbeTimeout : Duration := .ofSecs 2

/-- A port is ready when it accepts a connection and the test inside the container does not deny
it. Where that test cannot be run, the connection alone counts. -/
def isPortReady (config : Config) (name host : String) (hostPort containerPort : Port) :
    Call Bool := do
  match ← (ping host hostPort probeTimeout).run with
  | .error _ => return false
  | .ok () =>
    let ctx ← Context.withTimeout (← Context.background) innerProbeTimeout
    match ← (config.exec ctx name (Arguments.listeningProbe containerPort)).run with
    | .ok out => return out.exitCode = 0
    | .error _ => return true

def createNetwork (config : Config) (ctx : Context) (spec : NetworkSpec) : CallAttempt Unit :=
  discard (config.boundedOutput ctx (Arguments.createNetwork spec))

def attachLogs (name : String) : CallAttempt StreamId :=
  Client.attempt (.attach name) (Client.follow (Arguments.logs name))

/-- Answers a request to an engine. -/
def serve (config : Config) : (r : Engine.Request) → Call (Engine.Reply r)
  | .available => config.available
  | .inspect name => (config.output (Arguments.inspectName name)).run
  | .isRunning name => (config.isRunning name).run
  | .run ctx spec => (config.run ctx spec).run
  | .mappedPort name containerPort => (config.mappedPort name containerPort).run
  | .host => return hostOf config.engineAddress
  | .isPortReady name host hostPort containerPort =>
    config.isPortReady name host hostPort containerPort
  | .exec ctx name cmd => (config.exec ctx name cmd).run
  | .remove name => (config.remove name).run
  | .createNetwork ctx spec => (config.createNetwork ctx spec).run
  | .networkExists name => (config.networkExists name).run
  | .removeNetwork name => (discard (config.output (Arguments.removeNetwork name))).run
  | .pruneNetworks => (discard (config.output Arguments.pruneNetworks)).run
  | .attachLogs name => (attachLogs name).run
  | .ping host port timeout => (ping host port timeout).run

/-- Answers a request to an engine by the client, and hands one to the system on. -/
def serveOnSystem (config : Config) : (r : Engine.onSystem.Request) → Call (Engine.onSystem.Reply r)
  | .inl r => config.serve r
  | .inr r => System.ask r

/-- A program over an engine, as a program over the client that serves the engine. -/
def overClient {α : Type} (config : Config) (p : Action α) : Call α :=
  p.interpret config.serveOnSystem

end Config

end Testbed.Docker
