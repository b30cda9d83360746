import Testbed.Env
import Testbed.Error

/-!
# Containers and networks

What a container engine is told about a container or a network, and what it tells in return.
-/

namespace Testbed

/-- A container port published on the host. Without a host port the engine picks a free one. -/
structure PortBinding where
  host : Option Port
  container : Port
  deriving DecidableEq, Repr

structure ContainerSpec where
  name : String
  image : String
  hostname : Option String := none
  ports : List PortBinding := []
  env : Env := .empty
  /-- The networks to join, in order. The aliases apply to the first one. -/
  networks : List String := []
  networkAliases : List String := []
  autoRemove : Bool := false
  cmd : List String := []
  deriving DecidableEq, Repr

structure NetworkSpec where
  name : String
  driver : String
  attachable : Bool
  deriving DecidableEq, Repr

/-- An attachable bridge network. -/
def NetworkSpec.bridge (name : String) : NetworkSpec := ⟨name, "bridge", true⟩

/-- The result of a command run inside a container. -/
structure ExecOutput where
  exitCode : Int
  /-- Standard output followed by standard error. -/
  output : String
  deriving DecidableEq, Repr

/-- Where a container port can be reached from outside. -/
structure Address where
  host : String
  port : Port
  deriving DecidableEq, Repr

def Address.text (a : Address) : String := s!"{a.host}:{a.port}"

structure Credentials where
  user : Option String
  password : String
  deriving DecidableEq, Repr

/-- What a connection string has before the address: `user:password@` when both are set and
neither is empty, else nothing. -/
def Credentials.uriStem (c : Credentials) : String :=
  match c.user with
  | some user => if user ≠ "" ∧ c.password ≠ "" then s!"{user}:{c.password}@" else ""
  | none => ""

/-- The connection string of a database that runs by itself. -/
def standaloneUri (credentials : Option Credentials) (address : Address) : String :=
  "mongodb://" ++ (credentials.map Credentials.uriStem).getD "" ++ address.text ++
    "/?connect=direct"

/-- The name all replica sets go by. -/
def replicaSetName : String := "rs0"

/-- The connection string of a member of a replica set. -/
def replicaSetUri (address : Address) : String :=
  "mongodb://" ++ address.text ++ "/?connect=direct&retryWrites=true&w=majority" ++
    "&readPreference=primaryPreferred&replicaSet=" ++ replicaSetName

end Testbed
