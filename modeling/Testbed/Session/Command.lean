import Testbed.Config.Load
import Testbed.FixtureSet
import Testbed.Launch.Profile
import Testbed.Simulation.Bench

/-!
# Session commands

What can be done in a session, one step at a time. A command that makes something names it, and
later commands refer to it by that name.
-/

namespace Testbed.Session

open Simulation

inductive Command where
  | setup (change : Setup)
  /-- Whether a container exists. -/
  | containerExists (name : String)
  | removeForced (name : String)
  | removeNetwork (name : String)
  | pruneNetworks
  | dropContainers (names : List String)
  /-- Drops the containers that a plan will use. -/
  | dropPlan (plan : Plan)
  | createNetwork (name saveAs : String)
  | createUniqueNetwork (stem saveAs : String)
  | launch (draft : ServiceDraft) (profile : Profile) (saveAs : String)
  | waitForPort (name host : String) (hostPort containerPort : Port) (timeout : Duration)
  | startCache (draft : ServiceDraft) (saveAs : String)
  | startDatabase (draft : ServiceDraft) (saveAs : String)
  | startReplicaSet (draft : ServiceDraft) (saveAs : String)
  | startBroker (draft : BrokerDraft) (saveAs : String)
  /-- Does nothing, since the plan that was meant could not be loaded. -/
  | unplanned (error : Config.LoadError)
  | newSet (saveAs : String)
  | provision (plan : Plan) (saveAs : String)
  | extend (handle : String) (plan : Plan)
  | intoReady (handle : String)
  /-- Releases what a handle stands for and keeps the handle. -/
  | terminate (handle : String)
  /-- Releases what a handle stands for and forgets the handle. -/
  | drop (handle : String)
  | display (handle : String)
  /-- A container of the simulated engine. -/
  | container (name : String)
  /-- What the simulated engine was asked, and how often for `label`. -/
  | engineCalls (label : String)
  | collect (name saveAs : String)
  | takeRecords (handle : String)
  | dropRecords (handle : String)
  | forward (handle : String)
  | receive (handle : String) (count : Nat) (bySource : Bool)
  /-- Lets a container write lines; each line is given with its number. -/
  | writeLines (container : String) (source : LogSource) (lines : List (List UInt8))
  /-- Makes one request to the engine. -/
  | request (of : Context → Engine.Request)
  /-- Attaches to the output of a container, reads at most `read` records or else all of them, and
  then perhaps interrupts the stream. -/
  | readLogs (name : String) (read : Option Nat) (interrupt : Bool)

structure Step where
  command : Command
  /-- Bounds the context of the command. -/
  timeout : Option Duration := none

end Testbed.Session
