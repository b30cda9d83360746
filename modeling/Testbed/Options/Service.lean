import Testbed.Container
import Testbed.System
import Testbed.Text.Blank

/-!
# Service options

A draft collects settings; the last setting of a field counts. `ServiceDraft.resolve` never fails:
it replaces what is blank, zero or out of range by the default of the service family.
-/

namespace Testbed

/-- The services that can be started. -/
inductive Family where
  | redis
  | mongo
  | zookeeper
  | kafka
  deriving DecidableEq, Repr

namespace Family

def image : Family → String
  | redis => "redis"
  | mongo => "mongo"
  | zookeeper => "confluentinc/cp-zookeeper"
  | kafka => "confluentinc/cp-kafka"

def defaultTag : Family → String
  | redis | mongo => "latest"
  | zookeeper | kafka => "7.6.1"

/-- The port the service listens on inside its container. -/
def containerPort : Family → Port
  | redis => 6379
  | mongo => 27017
  | zookeeper => 2181
  | kafka => 9092

/-- The host port when none is asked for. Without one the port is picked at the start. -/
def defaultHostPort : Family → Option Port
  | redis => some 6379
  | mongo => some 27017
  | zookeeper | kafka => none

def defaultTimeout : Family → Duration
  | redis => .ofSecs 60
  | mongo => .ofSecs 300
  | zookeeper | kafka => .ofSecs 120

/-- What generated names begin with. -/
def nameStem (replicaSet : Bool) : Family → String
  | redis => "redis"
  | mongo => if replicaSet then "mongo-replicaset" else "mongo"
  | zookeeper => "zookeeper"
  | kafka => "kafka"

end Family

/-- Which host port is asked for. -/
inductive HostPort where
  | familyDefault
  | requested (port : Int)
  | dynamic
  deriving DecidableEq, Repr

/-- The configuration of one service container. -/
structure ServiceOptions where
  family : Family
  imageTag : String
  /-- The container's name; for a replica set what its members' names begin with. -/
  name : String
  /-- The host port to publish on; without one the engine picks it. -/
  port : Option Port
  env : Env
  startupTimeout : Duration
  networks : List String
  autoRemove : Bool
  log : Bool
  replicaSet : Bool
  credentials : Option Credentials
  dbIndex : Int
  deriving DecidableEq, Repr

def ServiceOptions.image (o : ServiceOptions) : String :=
  o.family.image ++ ":" ++ o.imageTag

/-- A change to a draft. -/
inductive ServiceSetting where
  | imageTag (tag : String)
  | name (name : String)
  | port (port : Int)
  /-- Lets the engine pick the host port. -/
  | dynamicPort
  | startupTimeout (timeout : Duration)
  /-- Replaces the whole environment. -/
  | env (env : Env)
  | envVar (name value : String)
  /-- Replaces the list of networks. -/
  | networks (names : List String)
  /-- Adds a network at the end. -/
  | network (name : String)
  | autoRemove (enabled : Bool)
  | log (enabled : Bool)
  | replicaSet (enabled : Bool)
  | credentials (user password : String)
  /-- A password without a user. -/
  | password (password : String)
  | dbIndex (index : Int)
  deriving DecidableEq, Repr

/-- Options as far as they have been set. -/
structure ServiceDraft where
  family : Family
  imageTag : Option String := none
  name : Option String := none
  port : HostPort := .familyDefault
  env : Env := .empty
  startupTimeout : Option Duration := none
  networks : List String := []
  autoRemove : Bool := true
  log : Bool := false
  replicaSet : Bool := false
  credentials : Option Credentials := none
  dbIndex : Int := 1
  deriving DecidableEq, Repr

namespace ServiceDraft

def set (d : ServiceDraft) : ServiceSetting → ServiceDraft
  | .imageTag tag => { d with imageTag := some tag }
  | .name name => { d with name := some name }
  | .port port => { d with port := .requested port }
  | .dynamicPort => { d with port := .dynamic }
  | .startupTimeout timeout => { d with startupTimeout := some timeout }
  | .env env => { d with env := env }
  | .envVar name value => { d with env := d.env.insert name value }
  | .networks names => { d with networks := names }
  | .network name => { d with networks := d.networks ++ [name] }
  | .autoRemove enabled => { d with autoRemove := enabled }
  | .log enabled => { d with log := enabled }
  | .replicaSet enabled => { d with replicaSet := enabled }
  | .credentials user password => { d with credentials := some ⟨some user, password⟩ }
  | .password password => { d with credentials := some ⟨none, password⟩ }
  | .dbIndex index => { d with dbIndex := index }

/-- Applies settings in order. -/
def setAll (d : ServiceDraft) (settings : List ServiceSetting) : ServiceDraft :=
  settings.foldl set d

/-- The name that was set, unless it is blank. -/
def configuredName (d : ServiceDraft) : Option String :=
  d.name.filter (!Text.isBlank ·)

/-- `port` as a port number, when it is one other than 0. -/
def portNumber? (port : Int) : Option Port :=
  if 1 ≤ port ∧ port ≤ 65535 then some (.ofNat port.toNat) else none

def hostPort (d : ServiceDraft) : Option Port :=
  match d.port with
  | .familyDefault => d.family.defaultHostPort
  | .dynamic => none
  | .requested port => portNumber? port <|> d.family.defaultHostPort

/-- The options with `name` as their name. -/
def named (d : ServiceDraft) (name : String) : ServiceOptions where
  family := d.family
  imageTag := (d.imageTag.filter (!Text.isBlank ·)).getD d.family.defaultTag
  name := name
  port := d.hostPort
  env := d.env
  startupTimeout := (d.startupTimeout.filter (· ≠ .zero)).getD d.family.defaultTimeout
  networks := d.networks
  autoRemove := d.autoRemove
  log := d.log
  replicaSet := d.replicaSet
  credentials := d.credentials.filter (·.password ≠ "")
  dbIndex := if d.dbIndex < 0 then 1 else d.dbIndex

/-- The name for a draft without one. -/
def generatedName (d : ServiceDraft) (suffix : String) : String :=
  d.family.nameStem d.replicaSet ++ "-" ++ suffix

/-- The options; `suffix` ends the name when none was set. -/
def resolve (d : ServiceDraft) (suffix : String) : ServiceOptions :=
  d.named (d.configuredName.getD (d.generatedName suffix))

/-- The options. A random suffix is asked for only when no name was set. -/
def build {A : Interface} (d : ServiceDraft) : Prog A.onSystem ServiceOptions := do
  match d.configuredName with
  | some name => return d.named name
  | none => return d.named (d.generatedName (← System.suffix))

end ServiceDraft

end Testbed
