import Testbed.Engine
import Testbed.Simulation.Host

/-!
# Simulated engines

An engine in memory. Containers run as soon as they are created, and what is executed in them
answers from a list of prepared outputs. Every request can be made to fail, always or a number of
times, by the name of the operation or for one object only (`run:redis`).
-/

namespace Testbed.Simulation

structure SimulatedContainer where
  spec : ContainerSpec
  running : Bool
  /-- Where its first port is published. -/
  hostPort : Option Port
  deriving DecidableEq, Repr

/-- A container that an earlier run has left behind. -/
def SimulatedContainer.leftover (name : String) (running : Bool) : SimulatedContainer :=
  ⟨{ name, image := "leftover:latest" }, running, none⟩

/-- How long an operation fails. -/
inductive Fault where
  | always
  | times (left : Nat)
  deriving DecidableEq, Repr

/-- What a command prints that is executed in `container` and contains `needle`. -/
structure PreparedOutput where
  container : String
  needle : String
  output : String
  deriving DecidableEq, Repr

structure SimulatedEngine where
  containers : List SimulatedContainer := []
  networks : List String := []
  faults : List (String × Fault) := []
  outputs : List PreparedOutput := []
  /-- The containers whose ports stay closed. -/
  unready : List String := []
  /-- The containers whose output is attached to, with the stream each of them writes to. -/
  attached : List (String × StreamId) := []
  /-- All streams that were ever attached, with the containers they belong to. -/
  streams : List (StreamId × String) := []
  nextPort : Port := 40000
  /-- The requests made so far, in order. -/
  calls : List String := []
  deriving DecidableEq, Repr

/-- The label a request is recorded under. Asking for the host leaves no record. -/
def label : Engine.Request → Option String
  | .available => some "version"
  | .inspect name => some s!"inspect:{name}"
  | .isRunning name => some s!"is_running:{name}"
  | .run _ spec => some s!"run:{spec.name}"
  | .mappedPort name _ => some s!"mapped_port:{name}"
  | .host => none
  | .isPortReady name _ _ _ => some s!"port_ready:{name}"
  | .exec _ name _ => some s!"exec:{name}"
  | .remove name => some s!"remove:{name}"
  | .createNetwork _ spec => some s!"create_network:{spec.name}"
  | .networkExists name => some s!"network_exists:{name}"
  | .removeNetwork name => some s!"remove_network:{name}"
  | .pruneNetworks => some "prune_networks"
  | .attachLogs name => some s!"attach_logs:{name}"
  | .ping host port _ => some s!"ping:{host}:{port}"

namespace SimulatedEngine

/-! ## State -/

def container? (e : SimulatedEngine) (name : String) : Option SimulatedContainer :=
  e.containers.find? (·.spec.name = name)

def isRunning (e : SimulatedEngine) (name : String) : Bool :=
  (e.container? name).any (·.running)

/-- The engine without a container, and without what is attached to it. -/
def eraseContainer (e : SimulatedEngine) (name : String) : SimulatedEngine :=
  { e with
    containers := e.containers.filter (·.spec.name ≠ name)
    attached := e.attached.filter (·.1 ≠ name) }

/-- Puts a container in the place of any other of its name. -/
def putContainer (e : SimulatedEngine) (c : SimulatedContainer) : SimulatedEngine :=
  { e with containers := e.containers.filter (·.spec.name ≠ c.spec.name) ++ [c] }

def addNetwork (e : SimulatedEngine) (name : String) : SimulatedEngine :=
  if e.networks.contains name then e else { e with networks := e.networks ++ [name] }

/-- Lets an operation fail, instead of what was said about it before. -/
def setFault (e : SimulatedEngine) (operation : String) (fault : Fault) : SimulatedEngine :=
  { e with faults := (operation, fault) :: e.faults.filter (·.1 ≠ operation) }

def prepare (e : SimulatedEngine) (output : PreparedOutput) : SimulatedEngine :=
  { e with outputs := e.outputs ++ [output] }

/-- Prepares what the members of a healthy replica set answer. -/
def prepareReplicaSet (e : SimulatedEngine) (base : String) : SimulatedEngine :=
  { e with outputs := e.outputs ++
      [⟨base ++ "-m1", "rs.initiate", "\x7b ok: 1 \x7d"⟩,
       ⟨base ++ "-m1", "rs.isMaster", "\x7b ismaster: true, setName: 'rs0' \x7d"⟩,
       ⟨base ++ "-rs3", "rs.status", "stateStr: 'PRIMARY'"⟩] }

/-- The port of a container never opens. -/
def keepUnready (e : SimulatedEngine) (name : String) : SimulatedEngine :=
  { e with unready := name :: e.unready }

/-- The container stops by itself. -/
def stopContainer (e : SimulatedEngine) (name : String) : SimulatedEngine :=
  { e with containers := e.containers.map fun c =>
      if c.spec.name = name then { c with running := false } else c }

/-- The stream a container writes to, if its output is attached to. -/
def streamOf? (e : SimulatedEngine) (name : String) : Option StreamId :=
  e.attached.lookup name

/-- Whoever followed a stream has stopped, so nothing is attached any more to the output of the
container it belongs to. -/
def detach (e : SimulatedEngine) (s : StreamId) : SimulatedEngine :=
  { e with attached := e.attached.filter fun entry => e.streams.lookup s ≠ some entry.1 }

/-- What a command prints: the first prepared output that fits it. -/
def outputOf (e : SimulatedEngine) (container : String) (cmd : List String) : String :=
  let joined := " ".intercalate cmd
  ((e.outputs.find? fun o => o.container = container && Text.contains joined o.needle).map
    (·.output)).getD ""

/-! ## Requests -/

/-- A request that may fail. -/
abbrev Operation (α : Type) := ExceptT Error (StateM SimulatedEngine) α

/-- The error of an operation that was made to fail. -/
def injected (key : String) : Error :=
  .commandFailed key s!"Mock failure on: {key}" false

/-- Fails if a fault is set for `key` and is not used up. -/
def trip (key : String) : Operation Unit := do
  let e ← get
  match e.faults.lookup key with
  | none | some (.times 0) => return ()
  | some .always => throw (injected key)
  | some (.times (left + 1)) =>
    set (e.setFault key (.times left))
    throw (injected key)

/-- Fails if the operation is made to fail for this object, or for all. -/
def mayFail (operation name : String) : Operation Unit := do
  trip (operation ++ ":" ++ name)
  trip operation

/-- Fails if the context of a request is done. -/
def live (done : Option Context.Cause) : Operation Unit :=
  match done with
  | some cause => throw cause.error
  | none => return ()

def inspect (name : String) : Operation String := do
  mayFail "inspect" name
  if ((← get).container? name).isSome then return s!"\"/{name}\"\n"
  throw (.commandFailed s!"inspect {name}" s!"Error: No such object: {name}" true)

def checkRunning (name : String) : Operation Bool := do
  mayFail "is_running" name
  return (← get).isRunning name

/-- The host port of the first binding: the one asked for, or else the next free one. -/
def assignPort (spec : ContainerSpec) : Operation (Option Port) := do
  match spec.ports with
  | [] => return none
  | ⟨some host, _⟩ :: _ => return some host
  | ⟨none, _⟩ :: _ =>
    let e ← get
    set { e with nextPort := e.nextPort + 1 }
    return some e.nextPort

def run (done : Option Context.Cause) (spec : ContainerSpec) : Operation Unit := do
  live done
  mayFail "run" spec.name
  if ((← get).container? spec.name).isSome then
    throw (.commandFailed s!"run {spec.name}"
      s!"Conflict. The container name \"/{spec.name}\" is already in use" false)
  let hostPort ← assignPort spec
  modify (·.putContainer ⟨spec, true, hostPort⟩)

def mappedPort (name : String) (containerPort : Port) : Operation Port := do
  mayFail "mapped_port" name
  match (← get).container? name with
  | none => throw (.commandFailed s!"port {name}" s!"Error: No such container: {name}" true)
  | some c =>
    match c.hostPort with
    | some port =>
      if c.spec.ports.any (·.container = containerPort) then return port
      throw (unpublished name containerPort)
    | none => throw (unpublished name containerPort)
where
  unpublished (name : String) (containerPort : Port) : Error :=
    .commandFailed s!"port {name} {containerPort}"
      s!"no public port '{containerPort}/tcp' published for {name}" false

def portReady (e : SimulatedEngine) (name : String) : Bool :=
  e.isRunning name && !e.unready.contains name

def exec (done : Option Context.Cause) (name : String) (cmd : List String) :
    Operation ExecOutput := do
  live done
  mayFail "exec" name
  let e ← get
  if !e.isRunning name then
    throw (.commandFailed s!"exec {name}" s!"container {name} is not running" false)
  return ⟨0, e.outputOf name cmd⟩

def remove (name : String) : Operation Unit := do
  mayFail "remove" name
  let e ← get
  set (e.eraseContainer name)
  if (e.container? name).isNone then
    throw (.commandFailed s!"rm -f {name}" s!"Error: No such container: {name}" true)

def createNetwork (done : Option Context.Cause) (spec : NetworkSpec) : Operation Unit := do
  live done
  mayFail "create_network" spec.name
  let e ← get
  if e.networks.contains spec.name then
    throw (.commandFailed s!"network create {spec.name}"
      s!"network with name {spec.name} already exists" false)
  set (e.addNetwork spec.name)

def networkExists (name : String) : Operation Bool := do
  mayFail "network_exists" name
  return (← get).networks.contains name

def removeNetwork (name : String) : Operation Unit := do
  mayFail "remove_network" name
  let e ← get
  if e.networks.contains name then
    set { e with networks := e.networks.filter (· ≠ name) }
  else
    throw (.commandFailed s!"network rm {name}" s!"Error: No such network: {name}" true)

def pruneNetworks : Operation Unit := mayFail "prune_networks" ""

/-- Whatever was attached to the container before is attached no more. -/
def attachLogs (fresh : StreamId) (name : String) : Operation StreamId := do
  mayFail "attach_logs" name
  modify fun e => { e with
    attached := (name, fresh) :: e.attached.filter (·.1 ≠ name)
    streams := (fresh, name) :: e.streams }
  return fresh

def ping (port : Port) : Operation Unit := mayFail "ping" (toString port)

/-- Answers a request. `done` says whether the context of the request is done, and `fresh` names
the stream that the request opens if it attaches to one. -/
def serve (done : Option Context.Cause) (fresh : StreamId) :
    (r : Engine.Request) → StateM SimulatedEngine (Engine.Reply r)
  | .available => return true
  | .inspect name => (inspect name).run
  | .isRunning name => (checkRunning name).run
  | .run _ spec => (run done spec).run
  | .mappedPort name containerPort => (mappedPort name containerPort).run
  | .host => return "localhost"
  | .isPortReady name _ _ _ => return (← get).portReady name
  | .exec _ name cmd => (exec done name cmd).run
  | .remove name => (remove name).run
  | .createNetwork _ spec => (createNetwork done spec).run
  | .networkExists name => (networkExists name).run
  | .removeNetwork name => (removeNetwork name).run
  | .pruneNetworks => pruneNetworks.run
  | .attachLogs name => (attachLogs fresh name).run
  | .ping _ port _ => (ping port).run

/-- Records a request and answers it. -/
def answer (done : Option Context.Cause) (fresh : StreamId) (r : Engine.Request) :
    StateM SimulatedEngine (Engine.Reply r) := do
  modify fun e => { e with calls := e.calls ++ (label r).toList }
  serve done fresh r

end SimulatedEngine

end Testbed.Simulation
