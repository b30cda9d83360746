import Testbed.Time.Duration

/-!
# Errors

Why providing a service failed. `message` is the one place where an error is put into words.
-/

namespace Testbed

/-- A TCP port number. -/
abbrev Port := UInt16

/-- What a fixture is for. -/
inductive Role where
  | network
  | cache
  | primaryStore
  | broker
  deriving DecidableEq, Repr

def Role.text : Role → String
  | .network => "network"
  | .cache => "cache"
  | .primaryStore => "primary store"
  | .broker => "broker"

inductive Error where
  /-- The container did not listen on the port in time. -/
  | startupTimeout (container : String) (port : Port) (timeout : Duration)
  /-- A command of the container engine failed; `notFound` when what it names does not exist. -/
  | commandFailed (command reason : String) (notFound : Bool)
  | networkCreate (network reason : String)
  | replicaSetInit (replicaSet reason : String)
  | masterVerification (container reason : String)
  | connect (address reason : String)
  | attach (container reason : String)
  /-- The context was cancelled or its deadline has passed. -/
  | cancelled (reason : String)
  /-- The step of a plan that provides `role` failed. -/
  | setup (role : Role) (source : Error)
  deriving DecidableEq, Repr

namespace Error

def message : Error → String
  | startupTimeout container port timeout =>
    s!"container {container} did not accept connections on port {port} within " ++ timeout.text
  | commandFailed command reason _ => s!"runtime command \x60{command}\x60 failed: {reason}"
  | networkCreate network reason => s!"failed to create network {network}: {reason}"
  | replicaSetInit replicaSet reason =>
    s!"failed to initiate replica set {replicaSet}: {reason}"
  | masterVerification container reason =>
    s!"failed to verify master node {container}: {reason}"
  | connect address reason => s!"failed to connect to {address}: {reason}"
  | attach container reason => s!"failed to attach to output of {container}: {reason}"
  | cancelled reason => s!"operation cancelled: {reason}"
  | setup role source => role.text ++ " setup failed: " ++ source.message

/-- What the command names does not exist. -/
def isNotFound : Error → Bool
  | commandFailed _ _ notFound => notFound
  | _ => false

def isCancelled : Error → Bool
  | cancelled _ => true
  | _ => false

/-- The error without the steps of plans around it. -/
def root : Error → Error
  | setup _ source => source.root
  | e => e

end Error

end Testbed
