import Testbed.Engine
import Testbed.Text.Blank

/-!
# Removal

Removing is best effort and never fails. A container is tried again as the retry policy says; one
that is already gone counts as removed.
-/

namespace Testbed

/-- How often a removal is tried, and how long to wait between two tries. -/
structure RetryPolicy where
  attempts : Nat
  backoff : Duration
  deriving DecidableEq, Repr

/-- Three tries, a second apart. -/
def RetryPolicy.standard : RetryPolicy := ⟨3, .ofSecs 1⟩

/-- At least one try is made. -/
def RetryPolicy.budget (retry : RetryPolicy) : Nat := max retry.attempts 1

/-- The name in what an engine says about a container, without blanks and quotes around it. -/
def inspectedName (raw : String) : String :=
  .ofList <| Text.trimWhile (fun c => c == '\x22' || c == '\x27') (Text.trim raw).toList

/-- Whether a container of this name exists, running or not. -/
def containerExists (name : String) : Attempt Bool :=
  .mk do
    match ← (Engine.inspect name).run with
    | .ok raw => return .ok (inspectedName raw == "/" ++ name)
    | .error e => return if e.isNotFound then .ok false else .error e

/-- Tries up to `tries` times to remove a container, and says so when it gives up. -/
def removeWithin (backoff : Duration) (name : String) : Nat → Action Unit
  | 0 => notify (.removalAbandoned name)
  | tries + 1 => do
    match ← (Engine.remove name).run with
    | .ok () => return ()
    | .error e =>
      if e.isNotFound then return ()
      notify (.removalFailed name)
      if 0 < tries then System.sleep backoff
      removeWithin backoff name tries

/-- Removes a container, trying again as `retry` says. -/
def removeForced (retry : RetryPolicy) (name : String) : Action Unit :=
  removeWithin retry.backoff name retry.budget

def removeNetwork (name : String) : Action Unit := do
  match ← (Engine.removeNetwork name).run with
  | .ok () => return ()
  | .error e => if !e.isNotFound then notify (.networkRemovalFailed name)

def pruneNetworks : Action Unit := do
  match ← Engine.pruneNetworks.run with
  | .ok () => return ()
  | .error _ => notify .pruneFailed

/-- Removes the containers in order. -/
def removeAll (retry : RetryPolicy) : List String → Action Unit
  | [] => return ()
  | name :: names => do
    removeForced retry name
    removeAll retry names

/-- Clears what an earlier run left behind: prunes the networks, then removes the containers. -/
def dropContainers (retry : RetryPolicy) (names : List String) : Action Unit := do
  if names.isEmpty then return ()
  pruneNetworks
  removeAll retry names

end Testbed
