import Testbed.Options.Broker

/-!
# Launch requests

What it takes to start one container of each family and to wait for it. Every request begins with
the environment of the family and lays the caller's environment upon it, so the caller wins.
-/

namespace Testbed

structure LaunchRequest where
  spec : ContainerSpec
  /-- The port that must listen before the service counts as started. -/
  containerPort : Port
  startupTimeout : Duration
  log : Bool
  credentials : Option Credentials
  deriving DecidableEq, Repr

/-- The members of a replica set, in the order in which they start. -/
inductive ReplicaNode where
  | master
  | second
  | third
  deriving DecidableEq, Repr

namespace ReplicaNode

def all : List ReplicaNode := [master, second, third]

/-- What the member's container name ends with. -/
def ending : ReplicaNode → String
  | master => "m1"
  | second => "rs2"
  | third => "rs3"

/-- The member's name on the network of the set. -/
def hostname : ReplicaNode → String
  | master => "master"
  | second => "rs2"
  | third => "rs3"

def containerName (base : String) (node : ReplicaNode) : String :=
  base ++ "-" ++ node.ending

end ReplicaNode

namespace LaunchRequest

/-- The port on which brokers talk to each other. -/
def brokerInternalPort : Port := 29092

def published (o : ServiceOptions) : PortBinding :=
  ⟨o.port, o.family.containerPort⟩

def layeredEnv (family : List (String × String)) (o : ServiceOptions) : Env :=
  (Env.ofList family).overlay o.env

/-- The container that `o` asks for, so far without ports and command. -/
def baseSpec (o : ServiceOptions) (name : String) : ContainerSpec where
  name := name
  image := o.image
  networks := o.networks
  autoRemove := o.autoRemove

def ofSpec (o : ServiceOptions) (spec : ContainerSpec) : LaunchRequest where
  spec := spec
  containerPort := o.family.containerPort
  startupTimeout := o.startupTimeout
  log := o.log
  credentials := o.credentials

/-- A key-value store, with a password when credentials are set. -/
def cache (o : ServiceOptions) : LaunchRequest :=
  ofSpec o { baseSpec o o.name with
    ports := [published o]
    env := layeredEnv [] o
    cmd := match o.credentials with
      | some c => ["redis-server", "--requirepass", c.password]
      | none => [] }

/-- The root user of a database. There is none without a user name, as the image takes a root
password only together with a root user. -/
def rootUser? (o : ServiceOptions) : Option (String × String) := do
  let c ← o.credentials
  let user ← c.user
  if user = "" then none else some (user, c.password)

/-- A database that runs by itself. -/
def database (o : ServiceOptions) : LaunchRequest :=
  ofSpec o { baseSpec o o.name with
    ports := [published o]
    env := layeredEnv (match rootUser? o with
      | some (user, password) =>
        [("MONGO_INITDB_ROOT_USERNAME", user), ("MONGO_INITDB_ROOT_PASSWORD", password)]
      | none => []) o }

/-- A password without a user has no effect on a database. -/
def databaseNotice? (o : ServiceOptions) : Option Notice :=
  if o.credentials.isSome ∧ rootUser? o = none then some (.passwordWithoutUser o.name) else none

/-- `first`, then the other names of `names`. -/
def networksFrom (first : String) (names : List String) : List String :=
  first :: names.filter (· ≠ first)

/-- A member of a replica set on `network`. Its host port is picked by the engine, and it runs
without credentials. -/
def replicaMember (o : ServiceOptions) (node : ReplicaNode) (network : String) : LaunchRequest :=
  { ofSpec o { baseSpec o (node.containerName o.name) with
      networks := networksFrom network o.networks
      hostname := some node.hostname
      networkAliases := [node.hostname]
      ports := [⟨none, Family.mongo.containerPort⟩]
      env := layeredEnv [] o
      cmd := ["--replSet", replicaSetName, "--bind_ip", "localhost," ++ node.hostname] } with
    credentials := none }

def coordinator (o : ServiceOptions) : LaunchRequest :=
  ofSpec o { baseSpec o o.name with
    hostname := some o.name
    ports := [published o]
    env := layeredEnv
      [("ZOOKEEPER_CLIENT_PORT", toString Family.zookeeper.containerPort),
       ("ZOOKEEPER_TICK_TIME", "2000")] o }

/-- A broker that other containers reach under its name and the host under `hostPort`. -/
def broker (o : ServiceOptions) (coordinatorName : String) (hostPort : Port) : LaunchRequest :=
  ofSpec o { baseSpec o o.name with
    hostname := some o.name
    ports := [⟨some hostPort, Family.kafka.containerPort⟩]
    env := layeredEnv
      [("KAFKA_BROKER_ID", "1"),
       ("KAFKA_ZOOKEEPER_CONNECT", s!"{coordinatorName}:{Family.zookeeper.containerPort}"),
       ("KAFKA_LISTENER_SECURITY_PROTOCOL_MAP", "PLAINTEXT:PLAINTEXT,PLAINTEXT_HOST:PLAINTEXT"),
       ("KAFKA_INTER_BROKER_LISTENER_NAME", "PLAINTEXT"),
       ("KAFKA_OFFSETS_TOPIC_REPLICATION_FACTOR", "1"),
       ("KAFKA_LISTENERS",
        s!"PLAINTEXT://0.0.0.0:{brokerInternalPort}," ++
          s!"PLAINTEXT_HOST://0.0.0.0:{Family.kafka.containerPort}"),
       ("KAFKA_ADVERTISED_LISTENERS",
        s!"PLAINTEXT://{o.name}:{brokerInternalPort},PLAINTEXT_HOST://localhost:{hostPort}")] o }

end LaunchRequest

end Testbed
