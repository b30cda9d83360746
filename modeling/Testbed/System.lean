import Testbed.Task

/-!
# The system a program runs on

Besides its container engine a program needs a clock, sleep, cancellation flags, random name
suffixes, a free port, a place for its notices, and threads that follow container output. `System`
is the interface for these; the functions below ask for one thing each, next to any other interface.
-/

namespace Testbed

/-- Names a cancellation flag. -/
structure Token where
  id : Nat
  deriving DecidableEq, Repr

/-- Names the output of a container that is being read. -/
structure StreamId where
  id : Nat
  deriving DecidableEq, Repr

/-- How far the bootstrap of a replica set has come. -/
inductive Stage where
  | networkReady
  | nodesStarted
  | addressesResolved
  | initiated
  | masterVerified
  | primaryElected
  | ready
  deriving DecidableEq, Repr

def Stage.text : Stage → String
  | .networkReady => "network ready"
  | .nodesStarted => "nodes started"
  | .addressesResolved => "addresses resolved"
  | .initiated => "replica set initiated"
  | .masterVerified => "master verified"
  | .primaryElected => "primary elected"
  | .ready => "ready"

inductive Severity where
  | warning
  | error
  | stage
  deriving DecidableEq, Repr

/-- What a program tells its operator. -/
inductive Notice where
  | removalFailed (container : String)
  | removalAbandoned (container : String)
  | networkRemovalFailed (network : String)
  | pruneFailed
  | halfStartedNotRemoved (container : String)
  | notCreated (container : String)
  | notStarted (container : String)
  | passwordWithoutUser (container : String)
  | credentialsIgnored (replicaSet : String)
  | bootstrapFailed (replicaSet : String)
  | noPrimaryYet (observer : String)
  | stageReached (replicaSet : String) (stage : Stage)
  | setClosed
  | setupFailed (role : Role)
  | survivedTeardown (container : String)
  | existenceUnknown (container : String)
  deriving DecidableEq, Repr

namespace Notice

def severity : Notice → Severity
  | notCreated _ | notStarted _ | setupFailed _ => .error
  | stageReached _ _ => .stage
  | _ => .warning

def text : Notice → String
  | removalFailed _ => "Failed to remove container"
  | removalAbandoned _ => "Giving up on container removal"
  | networkRemovalFailed _ => "Failed to remove network"
  | pruneFailed => "Failed to prune networks"
  | halfStartedNotRemoved _ => "Failed to remove half-started container"
  | notCreated _ => "Container could not be created"
  | notStarted _ => "Container failed to start"
  | passwordWithoutUser _ => "Database password given without a user, starting without auth"
  | credentialsIgnored _ =>
    "Replica-set members run without auth, ignoring the configured credentials"
  | bootstrapFailed _ => "Replica set bootstrap failed, rolling back"
  | noPrimaryYet _ => "No primary elected yet, continuing"
  | stageReached _ stage => stage.text
  | setClosed => "Fixture set already closed, ignoring plan"
  | setupFailed _ => "Fixture setup failed"
  | survivedTeardown _ => "Container survived teardown, removing"
  | existenceUnknown _ => "Could not check container, removing"

end Notice

inductive System.Request where
  /-- Reads the clock. -/
  | now
  | sleep (duration : Duration)
  /-- A cancellation flag that is not set. -/
  | newToken
  | cancel (token : Token)
  | isCancelled (token : Token)
  | notify (notice : Notice)
  /-- Twelve random hexadecimal digits. -/
  | suffix
  /-- A host port nobody listens on, or why none was found. -/
  | freePort
  /-- Starts a thread that moves the records of a stream into a bounded channel. -/
  | follow (stream : StreamId)
  /-- Prints every record of a followed stream as output of `container`. -/
  | forward (stream : StreamId) (container : String)
  /-- Stops the threads of a followed stream and waits for them. -/
  | unfollow (stream : StreamId)
  deriving DecidableEq, Repr

/-- The interface of the system. -/
def System : Interface where
  Request := System.Request
  Reply
    | .now => Instant
    | .newToken => Token
    | .isCancelled _ => Bool
    | .suffix => String
    | .freePort => Except String Port
    | .sleep _ | .cancel _ | .notify _ | .follow _ | .forward _ _ | .unfollow _ => Unit

/-- Requests to `A` or to the system. -/
abbrev Interface.onSystem (A : Interface) : Interface := A.sum System

namespace System

variable {A : Interface}

/-- Makes one request to the system. -/
def ask (r : System.Request) : Prog A.onSystem (System.Reply r) :=
  Prog.request (I := A.onSystem) (Sum.inr r)

def now : Prog A.onSystem Instant := ask .now

def sleep (d : Duration) : Prog A.onSystem Unit := ask (.sleep d)

def newToken : Prog A.onSystem Token := ask .newToken

def cancel (token : Token) : Prog A.onSystem Unit := ask (.cancel token)

def isCancelled (token : Token) : Prog A.onSystem Bool := ask (.isCancelled token)

def notify (notice : Notice) : Prog A.onSystem Unit := ask (.notify notice)

def suffix : Prog A.onSystem String := ask .suffix

def freePort : Prog A.onSystem (Except String Port) := ask .freePort

def follow (stream : StreamId) : Prog A.onSystem Unit := ask (.follow stream)

def forward (stream : StreamId) (container : String) : Prog A.onSystem Unit :=
  ask (.forward stream container)

def unfollow (stream : StreamId) : Prog A.onSystem Unit := ask (.unfollow stream)

end System

end Testbed
