import Testbed.Launch.Request
import Testbed.Log.Collector
import Testbed.Network

/-!
# Launching

`launch` runs one container and waits until its service port accepts connections. When the wait
fails the container is removed again; when the container could not be created, a container that
already holds the name is left alone.
-/

namespace Testbed

/-- How patiently engines are polled and removals tried again. -/
structure Pacing where
  retry : RetryPolicy := .standard
  /-- The time between two looks at a port. -/
  pollInterval : Duration := .ofMillis 250
  /-- How long the master of a replica set may take to report itself. -/
  masterTimeout : Duration := .ofSecs 10
  masterInterval : Duration := .ofMillis 500
  /-- How often a replica set is asked for its primary. -/
  electionAttempts : Nat := 60
  electionInterval : Duration := .ofMillis 500
  /-- A bound on the rounds of any one wait; a wait that needs more diverges. -/
  rounds : Nat := 1000000000
  deriving DecidableEq, Repr

/-- A replica set is asked for its primary at least once. -/
def Pacing.electionBudget (pacing : Pacing) : Nat := max pacing.electionAttempts 1

/-- A started container with an open port. It is removed once. -/
structure Service where
  name : String
  address : Address
  credentials : Option Credentials
  collector : Option Collector
  terminated : Bool := false
  deriving DecidableEq, Repr

namespace Launch

/-- Looks at a port until it is open, the container stops, or `timeout` has passed since `started`.
-/
def pollPort (pacing : Pacing) (ctx : Context) (name host : String) (hostPort containerPort : Port)
    (timeout : Duration) (started : Instant) : Nat → Attempt Unit
  | 0 => .mk .diverge
  | rounds + 1 => do
    ctx.check
    if ← Engine.isPortReady name host hostPort containerPort then return ()
    if !(← Engine.isRunning name) then
      throw (.commandFailed s!"start {name}"
        s!"container stopped before port {containerPort} opened" false)
    let elapsed := (← (System.now : Action Instant)) - started
    if timeout ≤ elapsed then throw (.startupTimeout name hostPort timeout)
    ctx.sleep (min pacing.pollInterval (timeout - elapsed)) pacing.rounds
    pollPort pacing ctx name host hostPort containerPort timeout started rounds

/-- Waits until `containerPort` listens inside the container and `hostPort` accepts connections. -/
def waitForPort (pacing : Pacing) (ctx : Context) (name host : String)
    (hostPort containerPort : Port) (timeout : Duration) : Attempt Unit := do
  let started ← (System.now : Action Instant)
  pollPort pacing ctx name host hostPort containerPort timeout started pacing.rounds

/-- Follows and prints the output of a container. -/
def collect (ctx : Context) (name : String) : Attempt Collector := do
  let collector ← Collector.start ctx name
  collector.forward
  return collector

/-- Waits for a container that runs. -/
def awaitReady (pacing : Pacing) (ctx : Context) (request : LaunchRequest) : Attempt Service := do
  let name := request.spec.name
  let host ← Engine.host
  let port ← Engine.mappedPort name request.containerPort
  waitForPort pacing ctx name host port request.containerPort request.startupTimeout
  let collector ← if request.log then some <$> collect ctx name else pure none
  return { name, address := ⟨host, port⟩, credentials := request.credentials, collector }

end Launch

/-- Runs a container and waits until its service is ready. -/
def launch (pacing : Pacing) (ctx : Context) (request : LaunchRequest) : Attempt Service := do
  let name := request.spec.name
  (Engine.run ctx request.spec).onFailure fun _ => notify (.notCreated name)
  (Launch.awaitReady pacing ctx request).onFailure fun _ => do
    notify (.notStarted name)
    removeForced pacing.retry name

/-- Stops following the container and removes it, unless that has been done. -/
def Service.terminate (pacing : Pacing) (service : Service) : Action Service := do
  if service.terminated then return service
  match service.collector with
  | some collector => discard collector.stop
  | none => pure ()
  removeForced pacing.retry service.name
  return { service with terminated := true, collector := none }

end Testbed
