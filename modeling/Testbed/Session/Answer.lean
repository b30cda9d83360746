import Testbed.Config.Load
import Testbed.FixtureSet
import Testbed.Simulation.Engine

/-!
# Session answers

What a step of a session tells: its result, and what happened on the engine and in the log
meanwhile.
-/

namespace Testbed.Session

open Simulation

inductive Answer where
  | none
  | flag (value : Bool)
  | number (value : Nat)
  | text (value : String)
  | names (values : List String)
  | error (error : Error)
  | unplanned (error : Config.LoadError)
  /-- The step refers to something that is not there. -/
  | noHandle
  /-- Nobody holds the records of the collector. -/
  | noReceiver
  /-- The step did not end within the rounds it was given. -/
  | diverged
  | port (port : Port)
  | output (output : ExecOutput)
  | network (network : Network)
  | service (service : Service)
  | cache (cache : Cache)
  | database (database : Database)
  | broker (broker : Broker)
  | replicaSet (set : ReplicaSet)
  | set (set : FixtureSet)
  /-- A collector; `taken` when its records are held. -/
  | collector (container : String) (taken : Bool)
  | container (container : Option SimulatedContainer)
  | engineCalls (count total : Nat) (last : List String)
  | received (records : List LogRecord) (closed : Bool)
  | logs (records : List LogRecord) (ended : Option Bool)
  deriving DecidableEq, Repr

/-- What was asked of the engine: labels of requests, or argument lists of its client. -/
inductive Commands where
  | labels (labels : List String)
  | calls (calls : List (List String))
  deriving DecidableEq, Repr

/-- The containers, and whether each is running, and the networks of a simulated engine. -/
structure Inventory where
  containers : List (String × Bool)
  networks : List String
  deriving DecidableEq, Repr

structure Observation where
  answer : Answer
  /-- What was asked of the engine since the observation before. -/
  commands : Commands
  /-- What the operator was told since the observation before. -/
  notices : List Notice
  /-- What there is now, if the engine is simulated. -/
  inventory : Option Inventory
  deriving DecidableEq, Repr

end Testbed.Session
