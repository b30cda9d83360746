import Testbed.Removal

/-!
# Networks

Fixtures talk over bridge networks. A network of the wanted name that is already there is adopted.
-/

namespace Testbed

/-- A network that is there to be used. It is removed once. -/
structure Network where
  name : String
  removed : Bool := false
  deriving DecidableEq, Repr

namespace Network

/-- How long creating a network may take. -/
def createTimeout : Duration := .ofSecs 10

/-- Any failure but cancellation is reported as one to create the network. -/
def wrapError (name : String) : Error → Error
  | .cancelled reason => .cancelled reason
  | e => .networkCreate name e.message

/-- Adopts the network called `name`, or creates it. -/
def create (ctx : Context) (name : String) : Attempt Network :=
  Task.mapError (wrapError name) do
    if !(← Engine.networkExists name) then
      let bounded ← (ctx.withTimeout createTimeout : Action Context)
      Engine.createNetwork bounded (.bridge name)
    return { name }

/-- Creates a network whose name is `stem` and a random suffix. -/
def createUnique (ctx : Context) (stem : String) : Attempt Network := do
  create ctx (stem ++ "-" ++ (← (System.suffix : Action String)))

/-- Removes the network, unless that has been done. -/
def remove (network : Network) : Action Network := do
  if network.removed then return network
  removeNetwork network.name
  return { network with removed := true }

end Network

end Testbed
