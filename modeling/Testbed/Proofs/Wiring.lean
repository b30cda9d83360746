import Testbed.Proofs.Credentials
import Testbed.Proofs.NormalForm
import Testbed.Proofs.Protocol

/-!
# The wiring of a broker

A broker is told under which names and ports it and its coordinator are reached, the engine is told
to publish that port and to give the containers those names, and the fixture hands out the port once
more. In a broker that has started, all these are the same.
-/

open Testbed.Task (KeepsTo)

namespace Testbed

variable {pacing : Pacing} {ctx : Context} {t : Trace}

/-! ## Networks -/

namespace LaunchRequest

variable {first : String} {names : List String}

theorem count_networksFrom : (networksFrom first names).count first = 1 := by
  have others : first ∉ names.filter (· ≠ first) := by simp
  simpa [networksFrom] using List.count_eq_zero.2 others

theorem subset_networksFrom : names ⊆ networksFrom first names := by
  intro name mem
  by_cases same : name = first <;> simp [networksFrom, same, mem]

end LaunchRequest

namespace Broker

variable {o : BrokerOptions}

/-- The containers join the first network that the options name, or else one with a new name, which
belongs to the broker. -/
inductive ObtainsNetwork (ctx : Context) (o : BrokerOptions) : Script (String × Option Network)
  | named {name : String} {others : List String} (h : o.networks = name :: others) :
      ObtainsNetwork ctx o (name, none) []
  | unnamed {d : Dialogue} {network : Network} (suffix : String) (h : o.networks = [])
      (called : network = { name := "kafka-" ++ suffix })
      (obtained : Network.Obtained ctx network.name d) :
      ObtainsNetwork ctx o (network.name, some network) d

theorem obtainNetwork_keepsTo : KeepsTo (obtainNetwork ctx o) (ObtainsNetwork ctx o) := by
  unfold obtainNetwork
  split
  · next name others h => exact KeepsTo.pure (.named h)
  · next unnamed =>
    refine (Network.createUnique_keepsTo ctx _).bind fun network d ⟨suffix, called, obtained⟩ => ?_
    refine KeepsTo.pure ?_
    rw [Script.after, List.append_nil]
    exact .unnamed suffix unnamed called obtained

/-- Both containers join these networks, the first of which is the caller's first, or else the
broker's own. -/
structure Networked (o : BrokerOptions) (b : Broker) (networks : List String) : Prop where
  head : ∃ first, networks.head? = some first ∧ networks.count first = 1 ∧
    (o.networks.head? = some first ∧ b.network = none ∨
      o.networks = [] ∧ b.network = some { name := first } ∧ ∃ suffix, first = "kafka-" ++ suffix)
  all : o.networks ⊆ networks

theorem ObtainsNetwork.networked {choice : String × Option Network} {d : Dialogue} {b : Broker}
    (h : ObtainsNetwork ctx o choice d) (own : b.network = choice.2) :
    Networked o b (LaunchRequest.networksFrom choice.1 o.networks) := by
  refine ⟨⟨choice.1, rfl, LaunchRequest.count_networksFrom, ?_⟩, LaunchRequest.subset_networksFrom⟩
  cases h with
  | named h => exact .inl ⟨by simp [h], own⟩
  | unnamed suffix h called => exact .inr ⟨h, called ▸ own, suffix, called ▸ rfl⟩

/-! ## The protocol of a start -/

/-- What the engine is asked for the coordinator. -/
def coordinatorRequest (o : BrokerOptions) (networks : List String) : LaunchRequest :=
  onNetworks (.coordinator o.coordinator) networks

/-- What the engine is asked for the broker, next to the coordinator of the same options. -/
def brokerRequest (o : BrokerOptions) (networks : List String) (port : Port) : LaunchRequest :=
  onNetworks (.broker o.broker o.coordinator.name port) networks

/-- What a start says, and the broker it hands out: it obtains a network, brings up the coordinator
and then the broker, and connects to the broker. -/
inductive Protocol (ctx : Context) (o : BrokerOptions) : Script Broker
  | stages {name : String} {own : Option Network} {n z k : Dialogue} {port : Port}
      {coordinator broker : Service} (obtains : ObtainsNetwork ctx o (name, own) n)
      (first : Launch.BringsUp ctx
        (coordinatorRequest o (LaunchRequest.networksFrom name o.networks)) z)
      (called : coordinator.name = o.coordinator.name)
      (requested : ∀ asked ∈ o.broker.port, asked = port)
      (second : Launch.BringsUp ctx
        (brokerRequest o (LaunchRequest.networksFrom name o.networks) port) k)
      (named : broker.name = o.broker.name) :
      Protocol ctx o
        { brokers := [s!"localhost:{port}"], version := o.protocolVersion, broker, coordinator,
          network := own }
        (n ++ (z ++ (k ++
          [⟨.ping broker.address.host broker.address.port connectTimeout, .ok ()⟩])))

/-- The broker is published on the port that the options ask for, if they do; which other port is
free, is for the system to say. -/
theorem obtainPort_keepsTo :
    KeepsTo (obtainPort o) fun port d => d = [] ∧ ∀ asked ∈ o.broker.port, asked = port := by
  unfold obtainPort
  split
  · next port asked => exact KeepsTo.pure ⟨rfl, fun _ mem => Option.some.inj (mem.symm.trans asked)⟩
  · next none =>
    have any : ∀ port : Port, ∀ asked ∈ o.broker.port, asked = port := by simp [none]
    refine KeepsTo.silent_seq (System.ask_atSystem .freePort) fun free => ?_
    cases free with
    | ok port => exact KeepsTo.pure ⟨rfl, any port⟩
    | error reason => exact KeepsTo.throw ⟨0, [], rfl, any 0⟩

theorem connect_keepsTo (address : Address) :
    KeepsTo (connect address) fun _ d =>
      d = [⟨.ping address.host address.port connectTimeout, .ok ()⟩] := by
  have pings : Task.Asks (Engine.ping address.host address.port connectTimeout)
      (.ping address.host address.port connectTimeout) .ok :=
    Task.asks_of_request rfl fun _ _ h => h
  exact pings.mapError.keepsTo

theorem start_keepsTo : KeepsTo (start pacing ctx o) (Protocol ctx o) := by
  refine obtainNetwork_keepsTo.bind fun ⟨name, own⟩ n obtains => ?_
  refine KeepsTo.onFailure ?_ fun _ => ?_
  · refine (launch_keepsTo _).bind fun coordinator z ⟨called, first⟩ => ?_
    refine KeepsTo.onFailure ?_ fun _ => coordinator.release_cleans _
    refine obtainPort_keepsTo.bind fun port _ ⟨silent, requested⟩ => ?_
    subst silent
    -- The broker is told the name that the running coordinator goes by, which is the one asked for.
    have beside : coordinator.name = o.coordinator.name := called
    rw [beside]
    refine (launch_keepsTo _).bind fun broker k ⟨named, second⟩ => ?_
    refine ((connect_keepsTo _).onFailure fun _ => broker.release_cleans _).bind ?_
    intro _ d connects
    subst connects
    refine KeepsTo.pure ?_
    have whole : Protocol ctx o _ _ := .stages obtains first called requested second named
    simpa [Script.after] using whole
  · -- A network of the broker's own is all that there is to clean up.
    cases own with
    | none => trivial
    | some network => exact Prog.Only.bind network.remove_cleans fun _ => trivial

/-! ## One port and two names -/

/-- The broker is published on `port`, tells that port to its clients on the host and its own name
to those on the network, and is told the coordinator's. Both containers answer to their names, and
join the same networks. -/
structure Wired (o : BrokerOptions) (b : Broker) (port : Port)
    (coordinator broker : ContainerSpec) : Prop where
  requested : ∀ asked ∈ o.broker.port, asked = port
  published : broker.ports = [⟨some port, 9092⟩]
  brokers : b.brokers = [s!"localhost:{port}"]
  listeners : broker.env.get? "KAFKA_ADVERTISED_LISTENERS" =
    some s!"PLAINTEXT://{broker.name}:29092,PLAINTEXT_HOST://localhost:{port}"
  brokerName : broker.name = o.broker.name ∧ broker.hostname = some broker.name ∧
    b.broker.name = broker.name
  connect : broker.env.get? "KAFKA_ZOOKEEPER_CONNECT" = some s!"{coordinator.name}:2181"
  coordinatorName : coordinator.name = o.coordinator.name ∧
    coordinator.hostname = some coordinator.name ∧ b.coordinator.name = coordinator.name
  networks : coordinator.networks = broker.networks
  networked : Networked o b broker.networks

/-- Of the two containers, which are the only ones, the coordinator is run and gets ready before the
broker is run and gets ready. -/
def BringsUpBoth (ctx : Context) (coordinator broker : LaunchRequest) (d : Dialogue) : Prop :=
  ∃ before first second after, d = before ++ (first ++ (second ++ after)) ∧
    Launch.BringsUp ctx coordinator first ∧ Launch.BringsUp ctx broker second ∧
    ∀ e ∈ before ++ after, ∀ ctx' spec, e.request ≠ .run ctx' spec

theorem ObtainsNetwork.runs_nothing {choice : String × Option Network} {d : Dialogue}
    (h : ObtainsNetwork ctx o choice d) : ∀ e ∈ d, ∀ ctx' spec, e.request ≠ .run ctx' spec := by
  cases h with
  | named => simp
  | unnamed suffix h called obtained =>
    cases obtained with
    | adopted => exact List.forall_mem_singleton.2 fun _ _ => nofun
    | created now =>
      exact List.forall_mem_cons.2 ⟨fun _ _ => nofun, List.forall_mem_singleton.2 fun _ _ => nofun⟩

/-- The environment does not say how the broker is reached or where it finds its coordinator. -/
structure Unwired (o : BrokerOptions) : Prop where
  listeners : o.broker.env.get? "KAFKA_ADVERTISED_LISTENERS" = none
  connect : o.broker.env.get? "KAFKA_ZOOKEEPER_CONNECT" = none

theorem toString_text (s : String) : toString s = s := rfl

theorem brokerRequest_listeners (free : Unwired o) (networks : List String) (port : Port) :
    (brokerRequest o networks port).spec.env.get? "KAFKA_ADVERTISED_LISTENERS" =
      some s!"PLAINTEXT://{o.broker.name}:29092,PLAINTEXT_HOST://localhost:{port}" := by
  have internal : ":29092,PLAINTEXT_HOST://localhost:" =
      ":" ++ (toString LaunchRequest.brokerInternalPort ++ ",PLAINTEXT_HOST://localhost:") := by
    decide +kernel
  refine (LaunchRequest.layeredEnv_get? _ free.listeners).trans ?_
  simp [Env.ofList, Env.update, toString_text, internal, String.append_assoc]

theorem brokerRequest_connect (free : Unwired o) (networks : List String) (port : Port) :
    (brokerRequest o networks port).spec.env.get? "KAFKA_ZOOKEEPER_CONNECT" =
      some s!"{o.coordinator.name}:2181" := by
  have internal : ":2181" = ":" ++ toString Family.zookeeper.containerPort := by decide +kernel
  refine (LaunchRequest.layeredEnv_get? _ free.connect).trans ?_
  simp [Env.ofList, Env.update, toString_text, internal, String.append_assoc]

/-- A start that goes through its protocol wires the broker. -/
theorem Protocol.wired {b : Broker} {d : Dialogue} (h : Protocol ctx o b d) (free : Unwired o) :
    ∃ port coordinator broker, Wired o b port coordinator.spec broker.spec ∧
      BringsUpBoth ctx coordinator broker d := by
  cases h with
  | @stages name own n z k port coordinator broker obtains first called requested second named =>
    let networks := LaunchRequest.networksFrom name o.networks
    refine ⟨port, coordinatorRequest o networks, brokerRequest o networks port, ?_, ?_⟩
    · exact {
        requested
        published := rfl
        brokers := rfl
        listeners := brokerRequest_listeners free networks port
        brokerName := ⟨rfl, rfl, named⟩
        connect := brokerRequest_connect free networks port
        coordinatorName := ⟨rfl, rfl, called⟩
        networks := rfl
        networked := obtains.networked rfl }
    · refine ⟨n, z, k, _, rfl, first, second, List.forall_mem_append.2 ⟨obtains.runs_nothing, ?_⟩⟩
      exact List.forall_mem_singleton.2 fun _ _ => nofun

/-- A port that is asked for last, and is one, is the port that the options ask for. -/
theorem port_of_settings {settings : List BrokerSetting} {n : Int}
    (built : Prog.Yields ((({} : BrokerDraft).setAll settings).build : Action BrokerOptions) t o)
    (last : ServiceSetting.last ServiceSetting.port? (settings.filterMap (·.forBroker)) =
      some (some n)) (valid : 1 ≤ n ∧ n ≤ 65535) :
    portNumber o.broker.port = some n := by
  have gathers := ServiceDraft.gathers_setAll .kafka (settings.filterMap (·.forBroker))
  rw [← BrokerDraft.broker_setAll {} settings] at gathers
  have settles := ServiceDraft.hostPort_settles (({} : BrokerDraft).setAll settings).broker
  have port : o.broker.port = (({} : BrokerDraft).setAll settings).broker.hostPort := by
    rw [(BrokerDraft.yields_build built).1]
    rfl
  rw [gathers.port, last, ← port] at settles
  generalize portNumber o.broker.port = number at settles ⊢
  cases settles with
  | kept => rfl
  | replaced bad => exact absurd (by simpa using valid) bad

/-- Unless its environment says otherwise, a broker that has started is reached as it says, under
one port, which is the one that was asked for if it was a port at all. It is told the name under
which its coordinator was run and got ready before it, and both are on the same networks: first the
caller's first one or else a new one, and then all others. -/
theorem started_broker_is_wired (pacing : Pacing) (ctx : Context) {o : BrokerOptions} {t : Trace}
    {b : Broker} (free : Unwired o) (h : Prog.Yields (start pacing ctx o).run t (.ok b)) :
    ∃ port coordinator broker, Wired o b port coordinator.spec broker.spec ∧
      BringsUpBoth ctx coordinator broker t.commands ∧
      ∀ settings (s : Trace) (n : Int),
        Prog.Yields ((({} : BrokerDraft).setAll settings).build : Action BrokerOptions) s o →
        ServiceSetting.last ServiceSetting.port? (settings.filterMap (·.forBroker)) =
          some (some n) →
        1 ≤ n ∧ n ≤ 65535 → (port.toNat : Int) = n := by
  have protocol : Protocol ctx o b t.commands := start_keepsTo.ends t _ h
  obtain ⟨port, coordinator, broker, wired, both⟩ := protocol.wired free
  refine ⟨port, coordinator, broker, wired, both, ?_⟩
  intro settings s n built last valid
  obtain ⟨asked, requested, number⟩ := Option.map_eq_some_iff.1 (port_of_settings built last valid)
  rw [← wired.requested asked requested, number]

/-- Settings for a broker that joins two networks. -/
def wiringSettings : List BrokerSetting :=
  [.brokerName "kafka", .coordinatorName "zoo", .port 9092, .networks ["a", "b", "a"]]

def wiringSample : BrokerOptions :=
  ⟨(({} : BrokerDraft).setAll wiringSettings).broker.named "kafka",
    (({} : BrokerDraft).setAll wiringSettings).coordinator.named "zoo", "3.6.1"⟩

theorem started_broker_is_wired_sample :
    ∃ (t : Trace) (b : Broker) (port : Port) (coordinator broker : LaunchRequest),
      Unwired wiringSample ∧
      Prog.Yields (start {} ⟨⟨0⟩, none⟩ wiringSample).run t (.ok b) ∧
      Wired wiringSample b port coordinator.spec broker.spec ∧
      BringsUpBoth ⟨⟨0⟩, none⟩ coordinator broker t.commands ∧ (port.toNat : Int) = 9092 := by
  obtain ⟨_ | b, brokers, yields⟩ := Prog.exists_yields_play Engine.obliging
    (p := (start {} ⟨⟨0⟩, none⟩ wiringSample).run) (f := fun r => r.toOption.map (·.brokers))
    (b := ["localhost:9092"]) (by decide +kernel)
  · cases brokers
  · have free : Unwired wiringSample := ⟨rfl, rfl⟩
    have built : Prog.Yields ((({} : BrokerDraft).setAll wiringSettings).build :
        Action BrokerOptions) [] wiringSample := .done _
    obtain ⟨port, coordinator, broker, wired, both, asked⟩ :=
      started_broker_is_wired {} ⟨⟨0⟩, none⟩ free yields
    exact ⟨_, b, port, coordinator, broker, free, yields, wired, both,
      asked wiringSettings [] 9092 built rfl (by decide)⟩

end Broker

end Testbed
