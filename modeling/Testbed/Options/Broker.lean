import Testbed.Options.Service

/-!
# Broker options

A broker runs next to a coordinator. Settings of both, such as networks, reach both drafts.
-/

namespace Testbed

structure BrokerOptions where
  broker : ServiceOptions
  coordinator : ServiceOptions
  protocolVersion : String
  deriving DecidableEq, Repr

/-- The networks both containers join. -/
def BrokerOptions.networks (o : BrokerOptions) : List String :=
  o.broker.networks

inductive BrokerSetting where
  | brokerName (name : String)
  | coordinatorName (name : String)
  | brokerImageTag (tag : String)
  | coordinatorImageTag (tag : String)
  /-- The host port the broker is advertised on. -/
  | port (port : Int)
  | brokerEnvVar (name value : String)
  | networks (names : List String)
  | startupTimeout (timeout : Duration)
  | autoRemove (enabled : Bool)
  | log (enabled : Bool)
  | protocolVersion (version : String)
  deriving DecidableEq, Repr

structure BrokerDraft where
  broker : ServiceDraft := { family := .kafka }
  coordinator : ServiceDraft := { family := .zookeeper }
  protocolVersion : Option String := none
  deriving DecidableEq, Repr

namespace BrokerDraft

def setBroker (d : BrokerDraft) (s : ServiceSetting) : BrokerDraft :=
  { d with broker := d.broker.set s }

def setCoordinator (d : BrokerDraft) (s : ServiceSetting) : BrokerDraft :=
  { d with coordinator := d.coordinator.set s }

def setBoth (d : BrokerDraft) (s : ServiceSetting) : BrokerDraft :=
  (d.setBroker s).setCoordinator s

def set (d : BrokerDraft) : BrokerSetting → BrokerDraft
  | .brokerName name => d.setBroker (.name name)
  | .coordinatorName name => d.setCoordinator (.name name)
  | .brokerImageTag tag => d.setBroker (.imageTag tag)
  | .coordinatorImageTag tag => d.setCoordinator (.imageTag tag)
  | .port port => d.setBroker (.port port)
  | .brokerEnvVar name value => d.setBroker (.envVar name value)
  | .networks names => d.setBoth (.networks names)
  | .startupTimeout timeout => d.setBoth (.startupTimeout timeout)
  | .autoRemove enabled => d.setBoth (.autoRemove enabled)
  | .log enabled => d.setBoth (.log enabled)
  | .protocolVersion version => { d with protocolVersion := some version }

/-- Applies settings in order. -/
def setAll (d : BrokerDraft) (settings : List BrokerSetting) : BrokerDraft :=
  settings.foldl set d

/-- The names that were set and are not blank, the broker's first. -/
def configuredNames (d : BrokerDraft) : List String :=
  d.broker.configuredName.toList ++ d.coordinator.configuredName.toList

def version (d : BrokerDraft) : String :=
  (d.protocolVersion.filter (!Text.isBlank ·)).getD "3.6.1"

def build {A : Interface} (d : BrokerDraft) : Prog A.onSystem BrokerOptions := do
  let broker ← d.broker.build
  let coordinator ← d.coordinator.build
  return ⟨broker, coordinator, d.version⟩

end BrokerDraft

end Testbed
