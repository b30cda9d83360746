import Testbed.Launch.Service
import Testbed.Simulation.Bench

/-!
# Sessions of contexts

Contexts are made, copied, derived from each other and cancelled by name, and asked whether they are
done.
-/

namespace Testbed.Session

open Simulation

inductive ContextCommand where
  | background (saveAs : String)
  | copy (context saveAs : String)
  | withTimeout (context saveAs : String) (timeout : Duration)
  | cancel (context : String)
  | check (context : String)
  | isDone (context : String)
  | sleep (context : String) (duration : Duration)
  | remaining (context : String)
  | sameDeadline (context other : String)
  deriving DecidableEq, Repr

inductive ContextAnswer where
  | none
  | ok
  | error (error : Error)
  | flag (value : Bool)
  | remaining (time : Option Duration)
  /-- The command names a context that is not there. -/
  | unknown
  | diverged
  deriving DecidableEq, Repr

/-- The contexts of a session; the newest of a name counts. -/
structure Contexts where
  bench : Bench
  named : List (String × Context)

namespace Contexts

/-- The name of the context that is there from the beginning. -/
def backgroundName : String := "bg"

def new : Contexts := ⟨.new 0, [(backgroundName, (Bench.new 0).context)]⟩

abbrev Run := StateM Contexts

def perform {α : Type} (action : Action α) : Run (Option α) := do
  let s ← get
  let (result, bench) := (Bench.perform action).run s.bench
  set { s with bench }
  return result

def keep (name : String) : Option Context → Run ContextAnswer
  | some ctx => do
    modify fun s => { s with named := (name, ctx) :: s.named }
    return .none
  | none => return .diverged

def withContext (name : String) (go : Context → Run ContextAnswer) : Run ContextAnswer := do
  match (← get).named.lookup name with
  | some ctx => go ctx
  | none => return .unknown

def attempt (task : Attempt Unit) : Run ContextAnswer := do
  match ← perform task.run with
  | some (.ok ()) => return .ok
  | some (.error e) => return .error e
  | none => return .diverged

def run : ContextCommand → Run ContextAnswer
  | .background saveAs => do keep saveAs (← perform Context.background)
  | .copy context saveAs => withContext context fun ctx => keep saveAs (some ctx)
  | .withTimeout context saveAs timeout => withContext context fun ctx => do
    keep saveAs (← perform (ctx.withTimeout timeout))
  | .cancel context => withContext context fun ctx => do
    discard (perform ctx.cancel)
    return .none
  | .check context => withContext context fun ctx => attempt ctx.check
  | .isDone context => withContext context fun ctx => do
    return ((← perform ctx.isDone).map .flag).getD .diverged
  | .sleep context duration => withContext context fun ctx =>
    attempt (ctx.sleep duration ({} : Pacing).rounds)
  | .remaining context => withContext context fun ctx => do
    return ((← perform ctx.remaining).map .remaining).getD .diverged
  | .sameDeadline context other => withContext context fun ctx => withContext other fun ctx' =>
    return .flag (ctx.deadline = ctx'.deadline)

/-- Runs commands in order, beginning with the background context alone. -/
def runAll (commands : List ContextCommand) : List ContextAnswer :=
  (commands.mapM run new).1

end Contexts

end Testbed.Session
