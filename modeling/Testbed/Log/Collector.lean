import Testbed.Engine

/-!
# Log collectors

A collector follows the output of one running container until it is stopped.
-/

namespace Testbed

/-- Follows the output of `container`, until it is stopped. It is stopped once. -/
structure Collector where
  container : String
  stream : StreamId
  stopped : Bool := false
  deriving DecidableEq, Repr

namespace Collector

/-- Any failure to attach is reported as such, and names the container. -/
def wrapError (container : String) : Error → Error
  | .attach container reason => .attach container reason
  | e => .attach container e.message

/-- Follows the output of a container that is running. -/
def start (ctx : Context) (container : String) : Attempt Collector := do
  ctx.check
  let running ← Task.mapError (fun e => .attach container e.message) (Engine.isRunning container)
  if !running then throw (.attach container "container is not running")
  let stream ← Task.mapError (wrapError container) (Engine.attachLogs container)
  (System.follow stream : Action Unit)
  return { container, stream }

/-- Prints the records as they come in. -/
def forward (c : Collector) : Action Unit :=
  System.forward c.stream c.container

/-- Stops following, unless that has been done. -/
def stop (c : Collector) : Action Collector := do
  if c.stopped then return c
  System.unfollow c.stream
  return { c with stopped := true }

end Collector

end Testbed
