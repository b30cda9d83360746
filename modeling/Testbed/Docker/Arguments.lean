import Testbed.Container

/-!
# Argument lists

What a client is run with, for each thing an engine can be told or asked. Options stand before what
they apply to, and everything after the image of a container is its command.
-/

namespace Testbed.Docker.Arguments

/-- Every item of a list with an option before it. -/
def each (option : String) (values : List String) : List String :=
  values.flatMap fun value => [option, value]

/-- The host port and the container port, or the container port alone. -/
def published (binding : PortBinding) : String :=
  match binding.host with
  | some host => s!"{host}:{binding.container}"
  | none => toString binding.container

def assignment (entry : String × String) : String :=
  entry.1 ++ "=" ++ entry.2

/-- The network a container starts in, with the names it has there. A container without networks
has no names either. -/
def firstNetwork (spec : ContainerSpec) : List String :=
  match spec.networks with
  | network :: _ => ["--network", network] ++ each "--network-alias" spec.networkAliases
  | [] => []

/-- Creates and starts a container in the first of its networks. -/
def run (spec : ContainerSpec) : List String :=
  ["run", "-d", "--name", spec.name] ++
    each "--hostname" spec.hostname.toList ++
    firstNetwork spec ++
    (if spec.autoRemove then ["--rm"] else []) ++
    each "-p" (spec.ports.map published) ++
    each "-e" (spec.env.entries.map assignment) ++
    spec.image :: spec.cmd

/-- Joins a running container to a further network. -/
def connect (network container : String) : List String :=
  ["network", "connect", network, container]

def exec (name : String) (cmd : List String) : List String :=
  "exec" :: name :: cmd

def version : List String := ["version"]

def inspectName (name : String) : List String :=
  ["inspect", "--format=\x7b\x7b.Name\x7d\x7d", name]

def inspectRunning (name : String) : List String :=
  ["inspect", "--format=\x7b\x7b.State.Running\x7d\x7d", name]

def mappedPort (name : String) (containerPort : Port) : List String :=
  ["port", name, s!"{containerPort}/tcp"]

def remove (name : String) : List String := ["rm", "-f", name]

def createNetwork (spec : NetworkSpec) : List String :=
  ["network", "create", "--driver", spec.driver] ++
    (if spec.attachable then ["--attachable"] else []) ++ [spec.name]

def inspectNetwork (name : String) : List String := ["network", "inspect", name]

def removeNetwork (name : String) : List String := ["network", "rm", name]

def pruneNetworks : List String := ["network", "prune", "-f"]

def logs (name : String) : List String := ["logs", "--follow", "--timestamps", name]

/-- `n` in upper-case hexadecimal with at least four digits. -/
def upperHex (n : Nat) : String :=
  let digits := (Nat.toDigits 16 n).map Char.toUpper
  .ofList (List.replicate (4 - digits.length) '0' ++ digits)

/-- The test, run inside a container, whether something listens on a port. State `0A` of a socket
means that it does. -/
def listeningProbe (port : Port) : List String :=
  ["sh", "-c",
    s!"grep -Eqsi ':{upperHex port.toNat} [0-9A-F]+:0+ 0A' /proc/net/tcp /proc/net/tcp6"]

end Testbed.Docker.Arguments
