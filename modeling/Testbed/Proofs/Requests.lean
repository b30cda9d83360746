import Testbed.Proofs.Conduct
import Testbed.Proofs.Sweeping

/-!
# What is asked for in a step

A fixture is started by asking for the containers that its options describe. A network is looked for
and made only if the options name none. This is told by what the requests of a start have in common,
whatever becomes of them. In a step of a plan, the options come from the draft of the step and from
the current network of the set.
-/

namespace Testbed

open Conduct (Free)

variable {α β : Type}

/-! ## Starting and joining -/

/-- Of the requests about containers to start and networks to join, only those for containers with
`A` and for networks whose names have `N`. -/
def Engine.Asking (A : ContainerSpec → Prop) (N : String → Prop) : Engine.onSystem.Request → Prop
  | .inl (.run _ spec) => A spec
  | .inl (.networkExists name) => N name
  | .inl (.createNetwork _ spec) => N spec.name
  | _ => True

open Engine (Asking)

variable {A : ContainerSpec → Prop} {N : String → Prop} {P : Engine.onSystem.Request → Prop}
  {pacing : Pacing} {ctx : Context}

theorem Engine.Asking.of_free {r : Engine.onSystem.Request} (h : Free r) : Asking A N r := by
  rcases r with r | r
  · cases r <;> first | exact h.elim | trivial
  · trivial

section Free

variable {p : Action α}

theorem asking_of_still (h : p.Only Engine.Still) : p.Only (Asking A N) :=
  h.mono fun _ still => .of_free (.of_still still)

theorem asking_of_cleans (h : p.Only Engine.Cleans) : p.Only (Asking A N) :=
  h.mono fun _ cleans => .of_free (.of_cleans cleans)

theorem notify_asking (notice : Notice) : (notify notice).Only (Asking A N) :=
  ⟨trivial, fun _ => trivial⟩

end Free

/-! ## Services and networks -/

theorem launch_asking {request : LaunchRequest} (asks : A request.spec) :
    Task.Only (Asking A N) (launch pacing ctx request) := by
  refine Task.Only.bind (Task.Only.onFailure ⟨asks, fun _ => trivial⟩ fun _ => ?_) fun _ => ?_
  · exact notify_asking _
  · refine Task.Only.onFailure (asking_of_still (Launch.awaitReady_still _ _ _)) fun _ => ?_
    exact Prog.Only.bind (notify_asking _) fun _ => asking_of_cleans (removeWithin_cleans _ _ _)

/-- A service that was launched is handed out once it can be reached, or else let go. -/
theorem connect_asking (address : Address) (service : Service) :
    Task.Only (Asking A N) ((connect address).onFailure fun _ => service.release pacing) :=
  Task.Only.onFailure (asking_of_still (connect_still _)) fun _ =>
    asking_of_cleans (service.release_cleans _)

theorem Network.create_asking {name : String} (asks : N name) :
    Task.Only (Asking A N) (Network.create ctx name) := by
  refine Task.Only.mapError (Task.Only.bind ⟨asks, fun _ => trivial⟩ fun known => ?_)
  cases known with
  | true => trivial
  | false =>
    refine Task.Only.bind (Task.Only.lift (p := ctx.withTimeout createTimeout) ?_) fun bounded => ?_
    · exact ⟨trivial, fun _ => trivial⟩
    · exact Task.Only.bind ⟨asks, fun _ => trivial⟩ fun _ => trivial

theorem Network.createUnique_asking {stem : String} (asks : ∀ name, N name) :
    Task.Only (Asking A N) (Network.createUnique ctx stem) :=
  Task.Only.bind (Task.Only.lift ⟨trivial, fun _ => trivial⟩) fun _ => create_asking (asks _)

/-! ## Caches -/

theorem Cache.start_asking {o : ServiceOptions} (asks : A (LaunchRequest.cache o).spec) :
    Task.Only (Asking A N) (Cache.start pacing ctx o) :=
  Task.Only.bind (launch_asking asks) fun _ =>
    Task.Only.bind (connect_asking _ _) fun _ => trivial

/-! ## Replica sets -/

namespace ReplicaSet

variable {o : ServiceOptions}

/-- The stage makes requests of one kind only, whatever is on record. -/
def Building.Only (P : Engine.onSystem.Request → Prop) (stage : Building α) : Prop :=
  ∀ progress, (stage.run.run progress).Only P

namespace Building.Only

theorem attempt {task : Attempt α} (h : Task.Only P task) :
    Building.Only P (ReplicaSet.attempt task) :=
  fun _ => Prog.Only.bind h fun _ => trivial

theorem bind {stage : Building α} {f : α → Building β} (h : Building.Only P stage)
    (hf : ∀ a, Building.Only P (f a)) : Building.Only P (stage >>= f) :=
  fun progress => Prog.Only.bind (h progress) fun
    | (.ok a, progress') => hf a progress'
    | (.error _, _) => trivial

end Building.Only

theorem startMember_asking {network : String} {node : ReplicaNode}
    (asks : A (LaunchRequest.replicaMember o node network).spec) :
    Building.Only (Asking A N) (startMember pacing ctx o network node) :=
  .bind (.attempt (launch_asking asks)) fun _ => .bind (fun _ => trivial) fun _ _ => trivial

/-- The network that the members join: the first one that the options name, or else one that is made
for them. -/
def Joins (o : ServiceOptions) (network : String) : Prop :=
  ∀ first ∈ o.networks.head?, network = first

theorem obtainNetwork_asking {f : String → Building α} (own : o.networks = [] → ∀ name, N name)
    (hf : ∀ network, Joins o network → Building.Only (Asking A N) (f network)) :
    Building.Only (Asking A N) (obtainNetwork ctx o >>= f) := by
  unfold obtainNetwork
  cases named : o.networks with
  | cons first others =>
    rw [pure_bind]
    exact hf first (by simp [Joins, named])
  | nil =>
    refine .bind ?_ fun network => hf network (by simp [Joins, named])
    refine .bind (.attempt (Network.createUnique_asking (own named))) fun _ => ?_
    exact .bind (fun _ => trivial) fun _ _ => trivial

theorem stages_asking
    (member : ∀ network, Joins o network →
      ∀ node, A (LaunchRequest.replicaMember o node network).spec)
    (own : o.networks = [] → ∀ name, N name) :
    Building.Only (Asking A N) (stages pacing ctx o) := by
  have quiet {α : Type} {task : Attempt α} (still : Task.Only Engine.Still task) :
      Building.Only (Asking A N) (attempt task) := .attempt (asking_of_still still)
  have reached (stage : Stage) : Building.Only (Asking A N) (reach o.name stage) :=
    quiet (Task.Only.lift (System.ask_still _))
  unfold stages
  refine obtainNetwork_asking own fun network joins => ?_
  have started (node : ReplicaNode) :
      Building.Only (Asking A N) (startMember pacing ctx o network node) :=
    startMember_asking (member network joins node)
  -- The other stages talk to the members and to the system only.
  refine (reached _).bind fun _ => ?_
  refine (started _).bind fun master => (started _).bind fun second => ?_
  refine (started _).bind fun third => ?_
  refine (reached _).bind fun _ => (reached _).bind fun _ => ?_
  refine (quiet (initiate_still _ _ _)).bind fun _ => (reached _).bind fun _ => ?_
  refine (quiet verifyMaster_still).bind fun _ => (reached _).bind fun _ => ?_
  exact (quiet awaitPrimary_still).bind fun _ => (reached _).bind fun _ _ => trivial

theorem start_asking
    (member : ∀ network, Joins o network →
      ∀ node, A (LaunchRequest.replicaMember o node network).spec)
    (own : o.networks = [] → ∀ name, N name) :
    Task.Only (Asking A N) (start pacing ctx o) := by
  unfold start
  change Prog.Only (Asking A N) _
  suffices staged : _ by
    split
    · exact Prog.Only.bind (notify_asking _) fun _ => staged
    · exact staged
  refine Prog.Only.bind (stages_asking member own {}) ?_
  rintro ⟨_ | set, progress⟩
  · refine Prog.Only.bind (notify_asking _) fun _ => ?_
    exact Prog.Only.bind (asking_of_cleans (rollback_cleans _ _)) fun _ => trivial
  · exact Prog.Only.bind (notify_asking _) fun _ => trivial

end ReplicaSet

/-! ## Databases -/

theorem Database.start_asking {o : ServiceOptions}
    (alone : o.replicaSet = false → A (LaunchRequest.database o).spec)
    (member : o.replicaSet = true → ∀ network, ReplicaSet.Joins o network →
      ∀ node, A (LaunchRequest.replicaMember o node network).spec)
    (own : o.networks = [] → ∀ name, N name) :
    Task.Only (Asking A N) (Database.start pacing ctx o) := by
  unfold start
  split
  · next replicated =>
    refine Task.Only.bind (ReplicaSet.start_asking (member replicated) own) fun set => ?_
    refine Task.Only.bind (Task.Only.onFailure (asking_of_still (connect_still _)) fun _ => ?_)
      fun _ => trivial
    exact Prog.Only.bind (asking_of_cleans (set.terminate_finishes _).only) fun _ => trivial
  · next single =>
    have notes : Task.Only (Asking A N) ((LaunchRequest.databaseNotice? o).forM
        fun notice => (notify notice : Action Unit) : Attempt Unit) := by
      cases LaunchRequest.databaseNotice? o with
      | none => trivial
      | some notice => exact Task.Only.lift (notify_asking _)
    refine Task.Only.bind notes fun _ => ?_
    refine Task.Only.bind (launch_asking (alone (by simpa using single))) fun service => ?_
    exact Task.Only.bind (connect_asking _ _) fun _ => trivial

/-! ## Brokers -/

namespace Broker

variable {o : BrokerOptions}

/-- The networks that a broker and its coordinator join: the first one that the options name, or
else one that is made for them, and then the others. -/
def Joins (o : BrokerOptions) (networks : List String) : Prop :=
  ∃ name, (∀ first ∈ o.networks.head?, name = first) ∧
    networks = LaunchRequest.networksFrom name o.networks

theorem start_asking
    (coordinator : ∀ networks, Joins o networks →
      A (onNetworks (.coordinator o.coordinator) networks).spec)
    (broker : ∀ networks, Joins o networks → ∀ coordinatorName port,
      A (onNetworks (.broker o.broker coordinatorName port) networks).spec)
    (own : o.networks = [] → ∀ name, N name) :
    Task.Only (Asking A N) (start pacing ctx o) := by
  have rest (name : String) (network : Option Network)
      (joins : Joins o (LaunchRequest.networksFrom name o.networks)) :
      Task.Only (Asking A N) (Task.onFailure (do
          let networks := LaunchRequest.networksFrom name o.networks
          let coordinator ← launch pacing ctx (onNetworks (.coordinator o.coordinator) networks)
          (startBeside pacing ctx o networks network coordinator).onFailure fun _ =>
            coordinator.release pacing)
        fun _ => network.forM fun network => discard network.remove) := by
    refine Task.Only.onFailure ?_ fun _ => ?_
    · refine Task.Only.bind (launch_asking (coordinator _ joins)) fun service => ?_
      refine Task.Only.onFailure ?_ fun _ => asking_of_cleans (service.release_cleans _)
      refine Task.Only.bind (asking_of_still (obtainPort_still o)) fun port => ?_
      refine Task.Only.bind (launch_asking (broker _ joins _ _)) fun beside => ?_
      exact Task.Only.bind (connect_asking _ _) fun _ => trivial
    · cases network with
      | none => trivial
      | some network =>
        exact Prog.Only.bind (asking_of_cleans network.remove_cleans) fun _ => trivial
  unfold start obtainNetwork
  cases named : o.networks with
  | cons first others =>
    rw [pure_bind]
    have joins := rest first none ⟨first, by simp [named], rfl⟩
    rwa [named] at joins
  | nil =>
    refine Task.Only.bind ?_ fun ⟨name, network⟩ => ?_
    · exact Task.Only.bind (Network.createUnique_asking (own named)) fun _ => trivial
    · have joins := rest name network ⟨name, by simp [named], rfl⟩
      rwa [named] at joins

end Broker

/-! ## Steps -/

namespace ServiceDraft

variable {d : ServiceDraft} {s t : Trace} {name : String}

/-- Only the name of the options may be made up. -/
theorem exists_named {o : ServiceOptions}
    (h : Prog.Yields (d.build : Action ServiceOptions) s o) : ∃ name, o = d.named name := by
  unfold build at h
  split at h
  · cases h
    exact ⟨_, rfl⟩
  · cases h with
    | ask suffix returns =>
      cases returns
      exact ⟨_, rfl⟩

theorem build_networks {o : ServiceOptions}
    (h : Prog.Yields (d.build : Action ServiceOptions) s o) : o.networks = d.networks := by
  obtain ⟨name, rfl⟩ := exists_named h
  rfl

/-- A container called after the name of a draft has a name that was set, or a generated one. -/
theorem Names.set_or_generated (h : d.Names t name) {f : String → List String}
    (hf : ∀ name, f name ⊆ name :: ReplicaNode.all.map (·.containerName name)) :
    ∀ n ∈ f name, n ∈ d.configuredName.toList.flatMap f ∨ t.Generated n := by
  obtain ⟨generated, split, made⟩ := h.split hf
  intro n hmem
  rw [split] at hmem
  exact (List.mem_append.1 hmem).imp_right (made n)

theorem Names.set_or_generated_self (h : d.Names t name) :
    name ∈ d.configuredName.toList ∨ t.Generated name := by
  have := h.set_or_generated (f := ([·])) (fun _ => List.cons_subset_cons _ (List.nil_subset _))
    name (List.mem_singleton_self name)
  rwa [List.flatMap_singleton'] at this

end ServiceDraft

theorem BrokerDraft.build_networks {d : BrokerDraft} {s : Trace} {o : BrokerOptions}
    (h : Prog.Yields (d.build : Action BrokerOptions) s o) :
    o.networks = d.broker.networks := by
  obtain ⟨_, _, broker, -, built, rest⟩ := Prog.yields_bind.1 h
  obtain ⟨_, _, coordinator, -, -, returns⟩ := Prog.yields_bind.1 rest
  cases returns
  exact ServiceDraft.build_networks built

namespace LaunchRequest

/-- Who is to join the one network that the options name, joins just that. -/
theorem networksFrom_self (name : String) : networksFrom name [name] = [name] := by
  simp [networksFrom]

end LaunchRequest

namespace FixtureSet

variable {set : FixtureSet} {names : FixtureNames} {s t : Trace}

/-- A container that a step may ask for. It joins the current network of the set, if there is one,
and no other. It has one of the names in `own`, or a name that was made up in the trace. -/
structure Wants (set : FixtureSet) (own : List String) (t : Trace) (spec : ContainerSpec) :
    Prop where
  networks : ∀ network, set.networkName = some network → spec.networks = [network]
  name : spec.name ∈ own ∨ t.Generated spec.name

theorem joinNetwork_networks {d : ServiceDraft} {o : ServiceOptions} {network : String}
    (built : Prog.Yields ((set.joinNetwork d).build : Action ServiceOptions) s o)
    (h : set.networkName = some network) : o.networks = [network] := by
  rw [ServiceDraft.build_networks built]
  unfold joinNetwork
  rw [h]
  rfl

theorem joinNetworkBoth_networks {d : BrokerDraft} {o : BrokerOptions} {network : String}
    (built : Prog.Yields ((set.joinNetworkBoth d).build : Action BrokerOptions) s o)
    (h : set.networkName = some network) : o.networks = [network] := by
  rw [BrokerDraft.build_networks built]
  unfold joinNetworkBoth
  rw [h]
  rfl

/-- Options without a network are those of a set without one. -/
theorem networkName_eq_none {networks : List String}
    (joined : ∀ network, set.networkName = some network → networks = [network])
    (h : networks = []) : set.networkName = none := by
  refine Option.eq_none_iff_forall_ne_some.2 fun network current => ?_
  simp [h] at joined
  exact joined network current

theorem cache_wants {d : ServiceDraft}
    (h : Prog.Reaches (do
      let options ← ((set.joinNetwork d).build : Action ServiceOptions)
      let cache ← Cache.start pacing ctx options
      return set.register .cache (.cache cache) : Attempt FixtureSet).run t) :
    ∀ e ∈ t, Asking (set.Wants d.configuredName.toList t) N e.request := by
  refine Task.Only.reaches_lift (ServiceDraft.build_only trivial _) (fun s o sub built => ?_) h
  have named := joinNetwork_names (ServiceDraft.build_names built).1
  have wanted : set.Wants d.configuredName.toList t (LaunchRequest.cache o).spec :=
    ⟨fun _ => joinNetwork_networks built, (named.mono sub).set_or_generated_self⟩
  exact Task.Only.bind (Cache.start_asking wanted) fun _ => trivial

theorem database_wants {d : ServiceDraft} (own : set.networkName = none → ∀ name, N name)
    (h : Prog.Reaches (set.startDatabase pacing ctx d).run t) :
    ∀ e ∈ t, Asking (set.Wants d.databaseNames t) N e.request := by
  refine Task.Only.reaches_lift (ServiceDraft.build_only trivial _) (fun s o sub built => ?_) h
  obtain ⟨named, flag⟩ := ServiceDraft.build_names built
  rw [joinNetwork_replicaSet] at flag
  have called : ∀ n ∈ Database.namesFor o.replicaSet o.name,
      n ∈ d.databaseNames ∨ t.Generated n := by
    rw [flag]
    exact ((joinNetwork_names named).mono sub).set_or_generated (Database.namesFor_subset _)
  have joined (network : String) (h : set.networkName = some network) : o.networks = [network] :=
    joinNetwork_networks built h
  refine Task.Only.bind (Database.start_asking ?alone ?member ?own) fun _ => trivial
  case alone =>
    intro single
    refine ⟨joined, called _ ?_⟩
    simp [Database.namesFor, single, LaunchRequest.database, LaunchRequest.ofSpec,
      LaunchRequest.baseSpec]
  case member =>
    intro replicated network joins node
    refine ⟨fun current h => ?_, called _ ?_⟩
    · have : network = current := joins current (by simp [joined current h])
      change LaunchRequest.networksFrom network o.networks = [current]
      rw [joined current h, this, LaunchRequest.networksFrom_self]
    · rw [replicated]
      cases node <;> simp [Database.namesFor, ReplicaNode.all, LaunchRequest.replicaMember,
        LaunchRequest.ofSpec, LaunchRequest.baseSpec]
  case own => exact fun none => own (networkName_eq_none joined none)

theorem broker_wants {d : BrokerDraft} (own : set.networkName = none → ∀ name, N name)
    (h : Prog.Reaches (do
      let options ← ((set.joinNetworkBoth d).build : Action BrokerOptions)
      let broker ← Broker.start pacing ctx options
      return set.register .broker (.broker broker) : Attempt FixtureSet).run t) :
    ∀ e ∈ t, Asking (set.Wants d.configuredNames t) N e.request := by
  refine Task.Only.reaches_lift (BrokerDraft.build_only trivial _) (fun s o sub built => ?_) h
  obtain ⟨broker_named, coordinator_named⟩ := BrokerDraft.build_names built
  have joined (network : String) (h : set.networkName = some network) : o.networks = [network] :=
    joinNetworkBoth_networks built h
  have alone {networks : List String} (joins : Broker.Joins o networks) :
      ∀ current, set.networkName = some current → networks = [current] := by
    intro current h
    obtain ⟨first, among, rfl⟩ := joins
    have : first = current := among current (by simp [joined current h])
    rw [joined current h, this, LaunchRequest.networksFrom_self]
  refine Task.Only.bind (Broker.start_asking ?coordinator ?broker ?own) fun _ => trivial
  case coordinator =>
    refine fun networks joins => ⟨alone joins, ?_⟩
    have called := ((joinNetworkBoth_coordinator coordinator_named).mono sub).set_or_generated_self
    exact called.imp_left (List.mem_append_right _)
  case broker =>
    refine fun networks joins _ _ => ⟨alone joins, ?_⟩
    have called := ((joinNetworkBoth_broker broker_named).mono sub).set_or_generated_self
    exact called.imp_left (List.mem_append_left _)
  case own => exact fun none => own (networkName_eq_none joined none)

/-- All that a step asks for, as far as it gets. As long as the set has a current network, only a
step that enters a network looks for one or makes one. -/
theorem runStep_wants {step : Step}
    (h : Prog.Reaches (set.runStep pacing ctx names step).run t) :
    ∀ e ∈ t, Asking (set.Wants (step.startNames names) t)
      (fun name => set.networkName = none ∨ step.networkName? names = some name) e.request := by
  cases step with
  | network name =>
    refine Prog.Only.reaches (?_ : Task.Only _ (set.enterNetwork ctx _)) h
    unfold enterNetwork
    split
    · trivial
    · exact Task.Only.bind (Network.create_asking (.inr rfl)) fun _ => trivial
  | cache draft => exact cache_wants h
  | database draft => exact database_wants (fun none _ => .inl none) h
  | replicatedDatabase draft => exact database_wants (fun none _ => .inl none) h
  | broker draft => exact broker_wants (fun none _ => .inl none) h

end FixtureSet

end Testbed
