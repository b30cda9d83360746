import Testbed.Proofs.Starts

/-!
# The endpoint that is handed out

A start ends with a connection to the address that the engine gave for the container. A cache and a
database hand out that address. A broker hands out `localhost` and the port it was to be published
on, whatever the engine said; that is where the connection went if the engine said the same.
-/

namespace Testbed

variable {α : Type} {pacing : Pacing} {ctx : Context}

/-! ## Addresses as text -/

theorem toList_port (port : Port) : (toString port).toList = Nat.toDigits 10 port.toNat :=
  String.toList_ofList

theorem toString_port_inj {port port' : Port} (h : toString port = toString port') :
    port = port' := by
  have digits : Nat.toDigits 10 port.toNat = Nat.toDigits 10 port'.toNat := by
    rw [← toList_port, h, toList_port]
  have numbers := congrArg (Nat.ofDigitChars 10 · 0) digits
  simp only [Nat.ofDigitChars_toDigits (b := 10) (by decide) (by decide)] at numbers
  exact UInt16.toNat_inj.1 numbers

theorem colon_notMem_port (port : Port) : ':' ∉ (toString port).toList := by
  rw [toList_port]
  intro mem
  exact absurd (Nat.isDigit_of_mem_toDigits (by decide) (by decide) mem) (by decide)

theorem Address.text_toList (a : Address) :
    a.text.toList = a.host.toList ++ ':' :: (toString a.port).toList := by
  simp only [Address.text, String.toList_append, List.append_assoc]
  rfl

/-- What comes after the last colon is known by what comes before it. -/
theorem eq_nil_of_colon {more port port' : List Char} (plain : ':' ∉ port)
    (h : ':' :: port = more ++ ':' :: port') : more = [] := by
  cases more with
  | nil => rfl
  | cons c more =>
    have inside : port = more ++ ':' :: port' := (List.cons.inj h).2
    exact absurd (inside ▸ by simp) plain

/-- The port is what comes after the last colon. -/
theorem Address.text_inj {a b : Address} (h : a.text = b.text) : a = b := by
  have parts : a.host.toList ++ ':' :: (toString a.port).toList =
      b.host.toList ++ ':' :: (toString b.port).toList := by
    rw [← a.text_toList, h, b.text_toList]
  have hosts : a.host.toList = b.host.toList := by
    rcases List.append_eq_append_iff.1 parts with ⟨more, host, rest⟩ | ⟨more, host, rest⟩
    · rw [host, eq_nil_of_colon (colon_notMem_port a.port) rest, List.append_nil]
    · rw [host, eq_nil_of_colon (colon_notMem_port b.port) rest, List.append_nil]
  have ports : a.port = b.port := by
    rw [hosts, List.append_cancel_left_eq] at parts
    exact toString_port_inj (String.toList_inj.1 (List.cons.inj parts).2)
  cases a
  cases b
  congr
  exact String.toList_inj.1 hosts

/-! ## Connections -/

/-- The last thing that was asked for is a connection to `a`, which was accepted. -/
def Trace.Connects (t : Trace) (a : Address) : Prop :=
  ∃ before : Trace, t = before ++ [Engine.event (.ping a.host a.port connectTimeout) (.ok ())]

theorem Trace.Connects.later {t : Trace} {a : Address} (h : t.Connects a) (before : Trace) :
    Trace.Connects (before ++ t) a := by
  obtain ⟨between, rfl⟩ := h
  exact ⟨before ++ between, (List.append_assoc ..).symm⟩

theorem connect_connects {a : Address} {cleanup : Error → Action Unit} {t : Trace}
    (h : Prog.Yields ((connect a).onFailure cleanup).run t (.ok ())) : t.Connects a := by
  have pings : Prog.Yields (Engine.ping a.host a.port connectTimeout).run t (.ok ()) :=
    Task.yields_mapError (Task.yields_onFailure h)
  cases pings with
  | ask b rest =>
    cases rest
    exact ⟨[], rfl⟩

/-- The engine said that a port of a container is reached at `a`. -/
structure Trace.Locates (t : Trace) (name : String) (containerPort : Port) (a : Address) :
    Prop where
  host : Engine.event .host a.host ∈ t
  port : Engine.event (.mappedPort name containerPort) (.ok a.port) ∈ t

theorem Trace.Locates.within {t u : Trace} {name : String} {containerPort : Port} {a : Address}
    (h : t.Locates name containerPort a) (sub : t ⊆ u) : u.Locates name containerPort a :=
  ⟨sub h.host, sub h.port⟩

theorem Launch.awaitReady_locates {request : LaunchRequest} {t : Trace} {service : Service}
    (h : Prog.Yields (awaitReady pacing ctx request).run t (.ok service)) :
    t.Locates request.spec.name request.containerPort service.address := by
  obtain ⟨hosts, rest, host, rfl, hhost, h⟩ := Task.yields_bind h
  obtain ⟨ports, rest, port, rfl, hport, h⟩ := Task.yields_bind h
  obtain ⟨waits, rest, ⟨⟩, rfl, -, h⟩ := Task.yields_bind h
  have reached : service.address = ⟨host, port⟩ := by
    dsimp only at h
    split at h <;>
    · obtain ⟨logs, rest, collector, rfl, -, h⟩ := Task.yields_bind h
      cases h
      rfl
  have told : Engine.event .host host ∈ hosts := by
    cases Task.yields_lift hhost with
    | ask b rest =>
      cases rest
      exact List.mem_singleton_self _
  have mapped : Engine.event (.mappedPort request.spec.name request.containerPort) (.ok port) ∈
      ports := by
    cases hport with
    | ask b rest =>
      cases rest
      exact List.mem_singleton_self _
  rw [reached]
  constructor <;> simp [told, mapped]

theorem launch_locates {request : LaunchRequest} {t : Trace} {service : Service}
    (h : Prog.Yields (launch pacing ctx request).run t (.ok service)) :
    Engine.event (.run ctx request.spec) (.ok ()) ∈ t ∧
      t.Locates request.spec.name request.containerPort service.address := by
  obtain ⟨runs, rest, ⟨⟩, rfl, hruns, h⟩ := Task.yields_bind h
  constructor
  · have ran : Prog.Yields (Engine.run ctx request.spec).run runs (.ok ()) :=
      Task.yields_onFailure hruns
    cases ran with
    | ask b rest =>
      cases rest
      exact List.mem_append_left _ (List.mem_singleton_self _)
  · exact (Launch.awaitReady_locates (Task.yields_onFailure h)).within
      (List.subset_append_right _ _)

/-! ## What is handed out -/

theorem Cache.start_connects {o : ServiceOptions} {t : Trace} {c : Cache}
    (h : Prog.Yields (Cache.start pacing ctx o).run t (.ok c)) : t.Connects c.service.address := by
  obtain ⟨launches, rest, service, rfl, -, h⟩ := Task.yields_bind h
  obtain ⟨connects, rest, ⟨⟩, rfl, hconnects, h⟩ := Task.yields_bind h
  cases h
  rw [List.append_nil]
  exact (connect_connects hconnects).later launches

/-- The address of the node that a database is reached at: its only one, or the master. -/
def Database.endpoint : Database → Address
  | standalone service => service.address
  | replicated set => set.master.address

theorem Database.start_connects {o : ServiceOptions} {t : Trace} {d : Database}
    (h : Prog.Yields (Database.start pacing ctx o).run t (.ok d)) : t.Connects d.endpoint := by
  unfold Database.start at h
  split at h
  · obtain ⟨boots, rest, set, rfl, -, h⟩ := Task.yields_bind h
    obtain ⟨connects, rest, ⟨⟩, rfl, hconnects, h⟩ := Task.yields_bind h
    cases h
    rw [List.append_nil]
    exact (connect_connects hconnects).later boots
  · obtain ⟨notes, rest, ⟨⟩, rfl, -, h⟩ := Task.yields_bind h
    obtain ⟨launches, rest, service, rfl, -, h⟩ := Task.yields_bind h
    obtain ⟨connects, rest, ⟨⟩, rfl, hconnects, h⟩ := Task.yields_bind h
    cases h
    rw [List.append_nil]
    exact ((connect_connects hconnects).later launches).later notes

/-- `address` is the host and port of a connection string: it comes after the user, if there is one,
and before the path. -/
def UriNames (uri : String) (address : Address) : Prop :=
  ∃ user query, (user = "" ∨ ∃ name password, user = name ++ ":" ++ password ++ "@") ∧
    uri = "mongodb://" ++ user ++ address.text ++ "/?connect=direct" ++ query

theorem Credentials.uriStem_cases (c : Credentials) :
    c.uriStem = "" ∨ ∃ name password, c.uriStem = name ++ ":" ++ password ++ "@" := by
  unfold uriStem
  split
  · split
    · exact .inr ⟨_, c.password, rfl⟩
    · exact .inl rfl
  · exact .inl rfl

theorem Database.uri_names (d : Database) : UriNames d.uri d.endpoint := by
  cases d with
  | standalone service =>
    refine ⟨(service.credentials.map Credentials.uriStem).getD "", "", ?_, ?_⟩
    · cases service.credentials with
      | none => exact .inl rfl
      | some c => exact c.uriStem_cases
    · simp [uri, standaloneUri, endpoint]
  | replicated set =>
    refine ⟨"", "&retryWrites=true&w=majority&readPreference=primaryPreferred&replicaSet=rs0",
      .inl rfl, ?_⟩
    simp only [uri, ReplicaSet.uri, replicaSetUri, endpoint, String.append_assoc]
    rfl

theorem localhost_text (port : Port) :
    s!"localhost:{port}" = Address.text ⟨"localhost", port⟩ := by
  have stem : "localhost:" = "localhost" ++ ":" := by decide +kernel
  exact congrArg (· ++ toString port) stem

/-- A broker that hands out the port it was to be published on. -/
structure Broker.Handed (b : Broker) (o : BrokerOptions) (port : Port) (t : Trace) : Prop where
  published : ∃ ctx spec, Engine.event (.run ctx spec) (.ok ()) ∈ t ∧ spec.name = o.broker.name ∧
    spec.ports = [⟨some port, Family.kafka.containerPort⟩]
  located : t.Locates o.broker.name o.broker.family.containerPort b.broker.address
  connected : t.Connects b.broker.address
  brokers : b.brokers = [Address.text ⟨"localhost", port⟩]

theorem Broker.Handed.later {b : Broker} {o : BrokerOptions} {port : Port} {t : Trace}
    (h : b.Handed o port t) (before : Trace) : b.Handed o port (before ++ t) where
  published := by
    obtain ⟨ctx, spec, ran, named, ports⟩ := h.published
    exact ⟨ctx, spec, List.mem_append_right _ ran, named, ports⟩
  located := h.located.within (List.subset_append_right _ _)
  connected := h.connected.later before
  brokers := h.brokers

theorem Broker.startBeside_handed {o : BrokerOptions} {networks : List String}
    {network : Option Network} {coordinator : Service} {t : Trace} {b : Broker}
    (h : Prog.Yields (startBeside pacing ctx o networks network coordinator).run t (.ok b)) :
    ∃ port, b.Handed o port t := by
  obtain ⟨ports, rest, port, rfl, -, h⟩ := Task.yields_bind h
  obtain ⟨launches, rest, service, rfl, hlaunches, h⟩ := Task.yields_bind h
  obtain ⟨connects, rest, ⟨⟩, rfl, hconnects, h⟩ := Task.yields_bind h
  cases h
  obtain ⟨ran, located⟩ := launch_locates hlaunches
  rw [List.append_nil]
  refine ⟨port, Handed.later ?_ ports⟩
  exact {
    published := ⟨ctx, _, List.mem_append_left _ ran, rfl, rfl⟩
    located := located.within (List.subset_append_left _ _)
    connected := (connect_connects hconnects).later launches
    brokers := congrArg ([·]) (localhost_text port) }

theorem Broker.start_handed {o : BrokerOptions} {t : Trace} {b : Broker}
    (h : Prog.Yields (start pacing ctx o).run t (.ok b)) : ∃ port, b.Handed o port t := by
  obtain ⟨obtains, rest, ⟨networkName, network⟩, rfl, -, h⟩ := Task.yields_bind h
  obtain ⟨launches, rest, coordinator, rfl, -, h⟩ := Task.yields_bind (Task.yields_onFailure h)
  obtain ⟨port, handed⟩ := startBeside_handed (Task.yields_onFailure h)
  exact ⟨port, (handed.later launches).later obtains⟩

/-- What is handed out is what was connected to, if that is `localhost` and the port that the broker
was to be published on. -/
theorem Broker.Handed.forall_eq_iff {b : Broker} {o : BrokerOptions} {port : Port} {t : Trace}
    (h : b.Handed o port t) :
    (∀ broker ∈ b.brokers, broker = b.broker.address.text) ↔
      b.broker.address = ⟨"localhost", port⟩ := by
  rw [h.brokers, List.forall_mem_singleton]
  constructor
  · intro same
    exact (Address.text_inj same).symm
  · intro same
    rw [same]

/-- A start that succeeds has last of all connected to the endpoint of its fixture. A cache and a
database hand out that endpoint. So does a broker exactly if the endpoint is `localhost`, with the
port that the broker was to be published on; this depends on the engine, which says what host and
port the container is reached at. -/
theorem started_fixture_hands_out (pacing : Pacing) (ctx : Context) :
    (∀ o t c, Prog.Yields (Cache.start pacing ctx o).run t (.ok c) →
      Trace.Connects t c.service.address) ∧
    (∀ o t d, Prog.Yields (Database.start pacing ctx o).run t (.ok d) →
      Trace.Connects t d.endpoint ∧ UriNames d.uri d.endpoint) ∧
    (∀ o t b, Prog.Yields (Broker.start pacing ctx o).run t (.ok b) →
      ∃ port, b.Handed o port t ∧
        ((∀ broker ∈ b.brokers, broker = b.broker.address.text) ↔
          b.broker.address = ⟨"localhost", port⟩)) := by
  refine ⟨?_, ?_, ?_⟩
  · intro o t c h
    exact Cache.start_connects h
  · intro o t d h
    exact ⟨Database.start_connects h, d.uri_names⟩
  · intro o t b h
    obtain ⟨port, handed⟩ := Broker.start_handed h
    exact ⟨port, handed, handed.forall_eq_iff⟩

/-- An obliging engine on another machine. -/
def Engine.remote : (r : Engine.onSystem.Request) → Engine.onSystem.Reply r
  | .inl .host => "10.0.0.5"
  | r => obliging r

/-- A broker that is published on its own port. -/
def Broker.sample : BrokerOptions :=
  ⟨ServiceDraft.named { family := .kafka, port := .requested 9092 } "kafka",
    ServiceDraft.named { family := .zookeeper } "zoo", "3.6.1"⟩

/-- On its own machine a broker hands out what was connected to. -/
theorem local_broker_hands_out :
    ∃ t b, Prog.Yields (Broker.start {} ⟨⟨0⟩, none⟩ Broker.sample).run t (.ok b) ∧
      b.broker.address = ⟨"localhost", 9092⟩ ∧
      ∃ port, b.Handed Broker.sample port t ∧
        ((∀ broker ∈ b.brokers, broker = b.broker.address.text) ↔
          b.broker.address = ⟨"localhost", port⟩) := by
  obtain ⟨_ | b, address, yields⟩ := Prog.exists_yields_play Engine.obliging
    (p := (Broker.start {} ⟨⟨0⟩, none⟩ Broker.sample).run)
    (f := fun r => r.toOption.map (·.broker.address)) (b := ⟨"localhost", 9092⟩) (by decide +kernel)
  · cases address
  · exact ⟨_, b, yields, Option.some.inj address, (started_fixture_hands_out _ _).2.2 _ _ b yields⟩

/-- A broker on another machine is connected to there, and handed out here. -/
theorem remote_broker_hands_out_localhost :
    ∃ t b, Prog.Yields (Broker.start {} ⟨⟨0⟩, none⟩ Broker.sample).run t (.ok b) ∧
      Trace.Connects t ⟨"10.0.0.5", 9092⟩ ∧ b.brokers = ["localhost:9092"] := by
  obtain ⟨_ | b, ends, yields⟩ := Prog.exists_yields_play Engine.remote
    (p := (Broker.start {} ⟨⟨0⟩, none⟩ Broker.sample).run)
    (f := fun r => r.toOption.map fun b => (b.broker.address, b.brokers))
    (b := (⟨"10.0.0.5", 9092⟩, ["localhost:9092"])) (by decide +kernel)
  · cases ends
  · obtain ⟨address, brokers⟩ := Prod.mk.inj (Option.some.inj ends)
    obtain ⟨port, handed⟩ := Broker.start_handed yields
    exact ⟨_, b, yields, address ▸ handed.connected, brokers⟩

end Testbed
