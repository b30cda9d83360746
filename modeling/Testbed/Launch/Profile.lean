import Testbed.Launch.Request

/-!
# Launch profiles

The kinds of launch requests, each of which turns service options into what the engine is to run.
-/

namespace Testbed

inductive Profile where
  | cache
  | database
  | coordinator
  | replicaMember (node : ReplicaNode) (network : String)
  | broker (coordinatorName : String) (hostPort : Port)
  deriving DecidableEq, Repr

namespace Profile

def request (o : ServiceOptions) : Profile → LaunchRequest
  | cache => .cache o
  | database => .database o
  | coordinator => .coordinator o
  | replicaMember node network => .replicaMember o node network
  | broker coordinatorName hostPort => .broker o coordinatorName hostPort

/-- What the operator is told about the options. -/
def notice? (o : ServiceOptions) : Profile → Option Notice
  | database => LaunchRequest.databaseNotice? o
  | _ => none

end Profile

end Testbed
