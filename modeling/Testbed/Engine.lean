import Testbed.Context
import Testbed.Container

/-!
# Container engines

The interface of a container engine: one request for each thing it can be told or asked. Requests
that may take long carry the context they are bounded by.
-/

namespace Testbed

inductive Engine.Request where
  /-- Whether the engine answers. -/
  | available
  /-- The raw name the engine has for a container, such as `"/redis"`. -/
  | inspect (name : String)
  | isRunning (name : String)
  /-- Creates and starts a container. -/
  | run (ctx : Context) (spec : ContainerSpec)
  /-- The host port that a container port is published on. -/
  | mappedPort (name : String) (containerPort : Port)
  /-- The host on which published ports can be reached. -/
  | host
  /-- Whether a container listens on `containerPort` and `hostPort` accepts connections. -/
  | isPortReady (name host : String) (hostPort containerPort : Port)
  | exec (ctx : Context) (name : String) (cmd : List String)
  /-- Removes a container, running or not. -/
  | remove (name : String)
  | createNetwork (ctx : Context) (spec : NetworkSpec)
  | networkExists (name : String)
  | removeNetwork (name : String)
  /-- Removes the networks that no container uses. -/
  | pruneNetworks
  /-- Follows the output of a container. -/
  | attachLogs (name : String)
  /-- Opens a connection. -/
  | ping (host : String) (port : Port) (timeout : Duration)
  deriving DecidableEq, Repr

/-- The interface of a container engine. -/
def Engine : Interface where
  Request := Engine.Request
  Reply
    | .available | .isPortReady _ _ _ _ => Bool
    | .host => String
    | .inspect _ => Except Error String
    | .isRunning _ | .networkExists _ => Except Error Bool
    | .mappedPort _ _ => Except Error Port
    | .exec _ _ _ => Except Error ExecOutput
    | .attachLogs _ => Except Error StreamId
    | .run _ _ | .remove _ | .createNetwork _ _ | .removeNetwork _ | .pruneNetworks
    | .ping _ _ _ => Except Error Unit

/-- A program over an engine and a system. -/
abbrev Action (α : Type) := Prog Engine.onSystem α

/-- An action that may fail. -/
abbrev Attempt (α : Type) := Task Engine.onSystem α

namespace Engine

/-- Makes one request to the engine. -/
def ask (r : Engine.Request) : Action (Engine.Reply r) :=
  Prog.request (I := Engine.onSystem) (Sum.inl r)

def available : Action Bool := ask .available

def inspect (name : String) : Attempt String := .mk (ask (.inspect name))

def isRunning (name : String) : Attempt Bool := .mk (ask (.isRunning name))

def run (ctx : Context) (spec : ContainerSpec) : Attempt Unit := .mk (ask (.run ctx spec))

def mappedPort (name : String) (containerPort : Port) : Attempt Port :=
  .mk (ask (.mappedPort name containerPort))

def host : Action String := ask .host

def isPortReady (name host : String) (hostPort containerPort : Port) : Action Bool :=
  ask (.isPortReady name host hostPort containerPort)

def exec (ctx : Context) (name : String) (cmd : List String) : Attempt ExecOutput :=
  .mk (ask (.exec ctx name cmd))

def remove (name : String) : Attempt Unit := .mk (ask (.remove name))

def createNetwork (ctx : Context) (spec : NetworkSpec) : Attempt Unit :=
  .mk (ask (.createNetwork ctx spec))

def networkExists (name : String) : Attempt Bool := .mk (ask (.networkExists name))

def removeNetwork (name : String) : Attempt Unit := .mk (ask (.removeNetwork name))

def pruneNetworks : Attempt Unit := .mk (ask .pruneNetworks)

def attachLogs (name : String) : Attempt StreamId := .mk (ask (.attachLogs name))

def ping (host : String) (port : Port) (timeout : Duration) : Attempt Unit :=
  .mk (ask (.ping host port timeout))

end Engine

/-- Tells the operator something. -/
def notify (notice : Notice) : Action Unit := System.notify notice

end Testbed
