import Testbed.ReplicaSet

/-!
# Fixtures

A cache, a database or a broker, ready to be used. Each start either returns a fixture whose
endpoint accepted a connection, or releases everything it created.
-/

namespace Testbed

/-- A key-value store. -/
structure Cache where
  service : Service
  password : Option String
  dbIndex : Int
  deriving DecidableEq, Repr

inductive Database where
  | standalone (service : Service)
  | replicated (set : ReplicaSet)
  deriving DecidableEq, Repr

/-- A message broker with its coordinator. -/
structure Broker where
  /-- The addresses by which the host reaches the broker. -/
  brokers : List String
  version : String
  broker : Service
  coordinator : Service
  /-- The network, when it was made for this broker. -/
  network : Option Network
  terminated : Bool := false
  deriving DecidableEq, Repr

/-- How long an endpoint may take to accept a connection. -/
def connectTimeout : Duration := .ofSecs 5

/-- Opens a connection to an endpoint. -/
def connect (address : Address) : Attempt Unit :=
  Task.mapError (fun
    | .connect a reason => .connect a reason
    | e => .connect address.text e.message)
    (Engine.ping address.host address.port connectTimeout)

/-- Terminates a service that is not handed out. -/
def Service.release (pacing : Pacing) (service : Service) : Action Unit :=
  discard (service.terminate pacing)

namespace Cache

def start (pacing : Pacing) (ctx : Context) (o : ServiceOptions) : Attempt Cache := do
  let service ← launch pacing ctx (.cache o)
  (connect service.address).onFailure fun _ => service.release pacing
  return { service, password := o.credentials.map (·.password), dbIndex := o.dbIndex }

def containerNames (c : Cache) : List String := [c.service.name]

def terminate (pacing : Pacing) (c : Cache) : Action Cache := do
  return { c with service := ← c.service.terminate pacing }

end Cache

namespace Database

/-- A replica set when the options ask for one, else a database by itself. -/
def start (pacing : Pacing) (ctx : Context) (o : ServiceOptions) : Attempt Database := do
  if o.replicaSet then
    let set ← ReplicaSet.start pacing ctx o
    (connect set.master.address).onFailure fun _ => discard (set.terminate pacing)
    return .replicated set
  else
    (LaunchRequest.databaseNotice? o).forM fun notice => (notify notice : Action Unit)
    let service ← launch pacing ctx (.database o)
    (connect service.address).onFailure fun _ => service.release pacing
    return .standalone service

def uri : Database → String
  | standalone service => standaloneUri service.credentials service.address
  | replicated set => set.uri

def containerNames : Database → List String
  | standalone service => [service.name]
  | replicated set => set.containerNames

def replicaSet? : Database → Option ReplicaSet
  | standalone _ => none
  | replicated set => some set

def terminate (pacing : Pacing) : Database → Action Database
  | standalone service => return .standalone (← service.terminate pacing)
  | replicated set => return .replicated (← set.terminate pacing)

end Database

namespace Broker

/-- The first network of the options, or else a network made for the broker. -/
def obtainNetwork (ctx : Context) (o : BrokerOptions) : Attempt (String × Option Network) := do
  match o.networks with
  | name :: _ => return (name, none)
  | [] =>
    let network ← Network.createUnique ctx "kafka"
    return (network.name, some network)

/-- The host port that was asked for, or else a free one. -/
def obtainPort (o : BrokerOptions) : Attempt Port := do
  match o.broker.port with
  | some port => return port
  | none =>
    match ← (System.freePort : Action (Except String Port)) with
    | .ok port => return port
    | .error reason => throw (.commandFailed "allocate host port" reason false)

def onNetworks (request : LaunchRequest) (networks : List String) : LaunchRequest :=
  { request with spec := { request.spec with networks := networks } }

/-- Starts the broker next to a running coordinator. -/
def startBeside (pacing : Pacing) (ctx : Context) (o : BrokerOptions) (networks : List String)
    (network : Option Network) (coordinator : Service) : Attempt Broker := do
  let port ← obtainPort o
  let request := onNetworks (.broker o.broker coordinator.name port) networks
  let broker ← launch pacing ctx request
  (connect broker.address).onFailure fun _ => broker.release pacing
  return {
    brokers := [s!"localhost:{port}"]
    version := o.protocolVersion
    broker, coordinator, network }

/-- Starts first the coordinator and then the broker, both on one network. -/
def start (pacing : Pacing) (ctx : Context) (o : BrokerOptions) : Attempt Broker := do
  let (networkName, network) ← obtainNetwork ctx o
  let networks := LaunchRequest.networksFrom networkName o.networks
  Task.onFailure
    (do
      let coordinator ← launch pacing ctx (onNetworks (.coordinator o.coordinator) networks)
      (startBeside pacing ctx o networks network coordinator).onFailure fun _ =>
        coordinator.release pacing)
    fun _ => network.forM fun network => discard network.remove

def containerNames (b : Broker) : List String := [b.broker.name, b.coordinator.name]

/-- Releases the broker, the coordinator and the broker's own network, unless that has been done. -/
def terminate (pacing : Pacing) (b : Broker) : Action Broker := do
  if b.terminated then return b
  let broker ← b.broker.terminate pacing
  let coordinator ← b.coordinator.terminate pacing
  let network ← b.network.mapM Network.remove
  return { b with broker, coordinator, network, terminated := true }

end Broker

end Testbed
