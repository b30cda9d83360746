import Testbed.Session.Answer
import Testbed.Simulation.Bench
import Testbed.Simulation.Client

/-!
# Worlds

A session takes place on a simulated engine, or on an engine behind a simulated client. A simulated
engine is there in either case; beside a client it can be set up and looked at, and is never asked.
-/

namespace Testbed.Session

open Simulation

inductive World where
  | engine (bench : Bench)
  | client (bench : ClientBench) (aside : SimulatedEngine)

namespace World

def host : World → Host
  | engine b => b.host
  | client b _ => b.host

def setHost (host : Host) : World → World
  | engine b => .engine { b with host }
  | client b aside => .client { b with host } aside

/-- The context commands are bounded by. -/
def context : World → Context
  | engine b => b.context
  | client b _ => b.context

/-- The simulated engine, which is asked or only stands aside. -/
def simulated : World → SimulatedEngine
  | engine b => b.engine
  | client _ aside => aside

/-- Runs an action; nothing comes of one that diverges. -/
def perform {α : Type} (action : Action α) : StateM World (Option α) := do
  match ← get with
  | engine b =>
    let (result, b) := (Bench.perform action).run b
    set (engine b)
    return result
  | client b aside =>
    let (result, b) := (ClientBench.perform action).run b
    set (client b aside)
    return result

/-- Makes a change. Beside a client it concerns the context or the engine that stands aside. -/
def apply (change : Setup) : World → World
  | engine b => .engine (b.apply change)
  | client b aside =>
    let bench := match change with
      | .cancelContext => b.cancelContext
      | .renewContext => b.renewContext
      | _ => b
    .client bench (aside.apply change)

def writeLine (container : String) (source : LogSource) (line : List UInt8) :
    StateM World Bool := do
  match ← get with
  | engine b =>
    let (accepted, b) := b.writeLine container source line
    set (engine b)
    return accepted
  | client _ _ => return false

/-- Everything that was asked of the engine. -/
def commands : World → Commands
  | engine b => .labels b.recorded
  | client b _ => .calls b.calls

/-- What there is, in the order of the names. -/
def inventory : World → Option Inventory
  | engine b => some {
      containers := (b.engine.containers.map fun c => (c.spec.name, c.running)).mergeSort
        fun a b => a.1 ≤ b.1
      networks := b.engine.networks.mergeSort fun a b => a ≤ b }
  | client _ _ => none

end World

/-- What is left of `cs` without the first `n` commands. -/
def Commands.drop (n : Nat) : Commands → Commands
  | .labels l => .labels (l.drop n)
  | .calls l => .calls (l.drop n)

def Commands.count : Commands → Nat
  | .labels l => l.length
  | .calls l => l.length

end Testbed.Session
