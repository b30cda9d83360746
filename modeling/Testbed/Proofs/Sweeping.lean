import Testbed.Proofs.Reports

/-!
# Names to be swept

A plan names the containers that its steps will use, so that those of an earlier run can be swept
away. Here is what a run of the plan really starts, and which plans name just that.
-/

namespace Testbed

open Ledger (monitor)

/-! ## Requests to start -/

namespace Trace

/-- The names under which containers are asked for, in order. -/
def requested (t : Trace) : List String :=
  t.filterMap fun
    | ⟨.inl (.run _ spec), _⟩ => some spec.name
    | _ => none

theorem requested_append (t u : Trace) : requested (t ++ u) = requested t ++ requested u :=
  List.filterMap_append

/-- When no container is refused, those that are asked for are started. -/
theorem requested_eq {t : Trace} (h : t.refused = []) : t.requested = t.started.map (·.name) := by
  rw [refused, deeds, List.filterMap_filterMap] at h
  rw [started, deeds, List.filterMap_filterMap, List.map_filterMap]
  apply List.filterMap_congr
  intro e hmem
  have kept := List.filterMap_eq_nil_iff.1 h e hmem
  obtain ⟨r | r, b⟩ := e
  · cases r with
    | run ctx spec =>
      cases b with
      | ok => rfl
      | error => simp [Deed.of?, Deed.refused?] at kept
    | networkExists name => rcases b with _ | _ | _ <;> rfl
    | createNetwork ctx spec => cases b <;> rfl
    | _ => rfl
  · rfl

/-- A name that was made up in a trace: a stem with one of its suffixes, or what a member of a
replica set of such a name is called. -/
def Generated (t : Trace) (name : String) : Prop :=
  ∃ (d : ServiceDraft) (suffix : String), d.configuredName = none ∧
    (⟨Sum.inr .suffix, suffix⟩ : Prog.Event Engine.onSystem) ∈ t ∧
    name ∈ d.generatedName suffix ::
      ReplicaNode.all.map (·.containerName (d.generatedName suffix))

theorem Generated.mono {t u : Trace} {name : String} (h : t.Generated name) (sub : t ⊆ u) :
    u.Generated name := by
  obtain ⟨d, suffix, unnamed, asked, hname⟩ := h
  exact ⟨d, suffix, unnamed, sub asked, hname⟩

end Trace

/-! ## Steps -/

/-- The containers of a database with these options, as far as its name is set. -/
def ServiceDraft.databaseNames (d : ServiceDraft) : List String :=
  d.configuredName.toList.flatMap (Database.namesFor d.replicaSet)

/-- The containers a step starts, apart from those whose names are generated. -/
def Step.startNames (names : FixtureNames) : Step → List String
  | .network _ => []
  | .cache draft => (draft.getD names.cacheDraft).configuredName.toList
  | .database draft => (draft.getD names.databaseDraft).databaseNames
  | .replicatedDatabase draft => (draft.getD FixtureNames.replicatedDatabaseDraft).databaseNames
  | .broker draft => (draft.getD names.brokerDraft).configuredNames

/-- The containers a plan starts, apart from those whose names are generated. -/
def Plan.startNames (p : Plan) : List String :=
  p.steps.flatMap (Step.startNames p.names)

namespace ServiceDraft

/-- A name that the draft can get in a trace. -/
def Names (d : ServiceDraft) (t : Trace) (name : String) : Prop :=
  d.configuredName = some name ∨ d.configuredName = none ∧ ∃ suffix,
    (⟨Sum.inr .suffix, suffix⟩ : Prog.Event Engine.onSystem) ∈ t ∧ name = d.generatedName suffix

theorem build_names {d : ServiceDraft} {t : Trace} {o : ServiceOptions}
    (h : Prog.Yields (d.build : Action ServiceOptions) t o) :
    d.Names t o.name ∧ o.replicaSet = d.replicaSet := by
  unfold build at h
  split at h
  · next name configured =>
    cases h
    exact ⟨.inl configured, rfl⟩
  · next unnamed =>
    cases h with
    | ask suffix returns =>
      cases returns
      exact ⟨.inr ⟨unnamed, suffix, List.mem_singleton_self _, rfl⟩, rfl⟩

/-- The containers called after the name of a draft are either called after the name that was set,
or generated. -/
theorem Names.split {d : ServiceDraft} {t : Trace} {name : String} (h : d.Names t name)
    {f : String → List String}
    (hf : ∀ name, f name ⊆ name :: ReplicaNode.all.map (·.containerName name)) :
    ∃ generated, f name = d.configuredName.toList.flatMap f ++ generated ∧
      ∀ n ∈ generated, t.Generated n := by
  rcases h with configured | ⟨unnamed, suffix, asked, rfl⟩
  · exact ⟨[], by simp [configured], by simp⟩
  · refine ⟨f (d.generatedName suffix), by simp [unnamed], ?_⟩
    intro n hmem
    exact ⟨d, suffix, unnamed, asked, hf _ hmem⟩

theorem Names.single {d : ServiceDraft} {t : Trace} {name : String} (h : d.Names t name) :
    ∃ generated, [name] = d.configuredName.toList ++ generated ∧
      ∀ n ∈ generated, t.Generated n := by
  have := h.split (f := ([·])) fun _ => List.cons_subset_cons _ (List.nil_subset _)
  rwa [List.flatMap_singleton'] at this

end ServiceDraft

theorem ServiceDraft.Names.mono {d : ServiceDraft} {t u : Trace} {name : String}
    (h : d.Names t name) (sub : t ⊆ u) : d.Names u name :=
  h.imp_right fun ⟨unnamed, suffix, asked, hname⟩ => ⟨unnamed, suffix, sub asked, hname⟩

theorem BrokerDraft.build_names {d : BrokerDraft} {t : Trace} {o : BrokerOptions}
    (h : Prog.Yields (d.build : Action BrokerOptions) t o) :
    d.broker.Names t o.broker.name ∧ d.coordinator.Names t o.coordinator.name := by
  obtain ⟨s, u, broker, rfl, broker_built, rest⟩ := Prog.yields_bind.1 h
  obtain ⟨u, v, coordinator, rfl, coordinator_built, returns⟩ := Prog.yields_bind.1 rest
  cases returns
  refine ⟨(ServiceDraft.build_names broker_built).1.mono (List.subset_append_left _ _), ?_⟩
  rw [List.append_nil]
  exact (ServiceDraft.build_names coordinator_built).1.mono (List.subset_append_right _ _)

theorem Database.namesFor_subset (replicaSet : Bool) (name : String) :
    namesFor replicaSet name ⊆ name :: ReplicaNode.all.map (·.containerName name) := by
  unfold namesFor
  split
  · exact List.subset_cons_self _ _
  · exact List.cons_subset_cons _ (List.nil_subset _)

/-! ## Runs of steps -/

/-- What a trace has gained is what was asked for in it. -/
theorem Ledger.Gained.requested {t : Trace} {names own : List String}
    (h : Ledger.Gained {} (monitor.after {} t) names own) : t.requested = names := by
  have refused : t.refused = [] := by
    have := h.refused
    rwa [refused_after, List.nil_append] at this
  obtain ⟨specs, rfl, started⟩ := h.started
  rw [started_after, List.nil_append, List.nil_append] at started
  rw [Trace.requested_eq refused, started]

namespace Trace

/-- Containers called `names` have been asked for in the trace, and some with generated names. -/
def Asks (t : Trace) (names : List String) : Prop :=
  ∃ generated, t.requested.Perm (names ++ generated) ∧ ∀ n ∈ generated, t.Generated n

variable {t u : Trace} {names names' : List String}

theorem Asks.append (h : t.Asks names) (h' : u.Asks names') : Asks (t ++ u) (names ++ names') := by
  obtain ⟨generated, requested, made⟩ := h
  obtain ⟨generated', requested', made'⟩ := h'
  refine ⟨generated ++ generated', ?_, ?_⟩
  · rw [requested_append]
    exact (requested.append requested').trans (perm_append_append _ _ _ _)
  · intro n hmem
    rcases List.mem_append.1 hmem with hmem | hmem
    · exact (made n hmem).mono (List.subset_append_left _ _)
    · exact (made' n hmem).mono (List.subset_append_right _ _)

theorem asks_nil (h : t.requested = []) : t.Asks [] :=
  ⟨[], by rw [h]; exact .refl _, by simp⟩

end Trace

/-- Whoever asks only the system asks for no container. -/
theorem requested_atSystem {α : Type} {p : Action α} {t : Trace} (h : p.Only AtSystem)
    (ht : Prog.Reaches p t) : t.requested = [] := by
  refine List.filterMap_eq_nil_iff.2 fun e hmem => ?_
  have right := h.reaches ht e hmem
  obtain ⟨r | r, b⟩ := e
  · cases right
  · rfl

namespace FixtureSet

variable {pacing : Pacing} {ctx : Context} {names : FixtureNames} {set set' : FixtureSet}
  {t : Trace}

/-- Joining a network changes nothing about names. -/
theorem joinNetwork_names {d : ServiceDraft} {name : String}
    (h : (set.joinNetwork d).Names t name) : d.Names t name := by
  unfold joinNetwork at h
  split at h <;> exact h

theorem joinNetwork_replicaSet (set : FixtureSet) (d : ServiceDraft) :
    (set.joinNetwork d).replicaSet = d.replicaSet := by
  unfold joinNetwork
  split <;> rfl

/-- The containers called after the name of a draft are asked for, once it is built. -/
theorem build_asks {d : ServiceDraft} {s v : Trace} {o : ServiceOptions}
    {f : String → List String}
    (hf : ∀ name, f name ⊆ name :: ReplicaNode.all.map (·.containerName name))
    (built : Prog.Yields ((set.joinNetwork d).build : Action ServiceOptions) s o)
    (started : v.requested = f o.name) :
    Trace.Asks (s ++ v) (d.configuredName.toList.flatMap f) := by
  have named := joinNetwork_names (ServiceDraft.build_names built).1
  obtain ⟨generated, split, made⟩ := named.split hf
  refine ⟨generated, ?_, ?_⟩
  · have quiet : Trace.requested s = [] :=
      requested_atSystem (ServiceDraft.build_only (P := AtSystem) rfl _) built.reaches
    rw [Trace.requested_append, quiet, List.nil_append, started, split]
  · intro n hmem
    exact (made n hmem).mono (List.subset_append_left _ _)

theorem startDatabase_asks {draft : ServiceDraft}
    (h : Prog.Yields (set.startDatabase pacing ctx draft).run t (.ok set')) :
    t.Asks draft.databaseNames := by
  obtain ⟨s, u, o, rfl, built, rest⟩ := Task.yields_bind h
  obtain ⟨u, v, database, rfl, started, returns⟩ := Task.yields_bind rest
  cases returns
  have built := Task.yields_lift built
  have flag := (ServiceDraft.build_names built).2
  obtain ⟨-, names, -, gained⟩ := Prog.wp_yields (Database.start_gained (l := {})) started
  rw [List.append_nil]
  apply build_asks (Database.namesFor_subset draft.replicaSet) built
  rw [gained.requested, names, flag, joinNetwork_replicaSet]

theorem joinNetworkBoth_broker {d : BrokerDraft} {name : String}
    (h : (set.joinNetworkBoth d).broker.Names t name) : d.broker.Names t name := by
  unfold joinNetworkBoth at h
  split at h <;> exact h

theorem joinNetworkBoth_coordinator {d : BrokerDraft} {name : String}
    (h : (set.joinNetworkBoth d).coordinator.Names t name) : d.coordinator.Names t name := by
  unfold joinNetworkBoth at h
  split at h <;> exact h

theorem runStep_asks {step : Step}
    (h : Prog.Yields (set.runStep pacing ctx names step).run t (.ok set')) :
    t.Asks (step.startNames names) := by
  cases step with
  | network name =>
    obtain ⟨g, fits, -, gained⟩ := Prog.wp_yields (enterNetwork_advances (l := {})) h
    have none_added : g.registrations = [] := List.map_eq_nil_iff.1 fits.roles
    refine Trace.asks_nil ?_
    rw [gained.requested, Growth.startOrder, none_added]
    rfl
  | cache draft =>
    obtain ⟨s, u, o, rfl, built, rest⟩ := Task.yields_bind h
    obtain ⟨u, v, cache, rfl, started, returns⟩ := Task.yields_bind rest
    cases returns
    have built := Task.yields_lift built
    obtain ⟨-, names, gained⟩ := Prog.wp_yields (Cache.start_gained (l := {})) started
    have alone : Trace.requested u = [o.name] := by rw [gained.requested, names]
    have asks := build_asks (f := ([·]))
      (fun _ => List.cons_subset_cons _ (List.nil_subset _)) built alone
    rw [List.append_nil]
    rwa [List.flatMap_singleton'] at asks
  | database draft => exact startDatabase_asks h
  | replicatedDatabase draft => exact startDatabase_asks h
  | broker draft =>
    obtain ⟨s, u, o, rfl, built, rest⟩ := Task.yields_bind h
    obtain ⟨u, v, broker, rfl, started, returns⟩ := Task.yields_bind rest
    cases returns
    have built := Task.yields_lift built
    obtain ⟨broker_named, coordinator_named⟩ := BrokerDraft.build_names built
    obtain ⟨-, names, -, gained⟩ := Prog.wp_yields (Broker.start_gained (l := {})) started
    obtain ⟨generated, split, made⟩ := (joinNetworkBoth_broker broker_named).single
    obtain ⟨generated', split', made'⟩ := (joinNetworkBoth_coordinator coordinator_named).single
    refine ⟨generated ++ generated', ?_, ?_⟩
    · have quiet : Trace.requested s = [] :=
        requested_atSystem (BrokerDraft.build_only (P := AtSystem) rfl _) built.reaches
      rw [Trace.requested_append, quiet, List.append_nil, gained.requested, names]
      -- A plan names the broker first, though its coordinator starts before it.
      refine (List.reverse_perm _).trans ?_
      change ([o.broker.name] ++ [o.coordinator.name]).Perm _
      rw [split, split']
      exact perm_append_append _ _ _ _
    · intro n hmem
      rcases List.mem_append.1 hmem with hmem | hmem
      · exact (made n hmem).mono (List.subset_append_left _ _)
      · exact (made' n hmem).mono (List.subset_append_left _ _)

theorem runSteps_error {steps : List Step} {e : Error} (h : set.error = some e)
    (ht : Prog.Yields (runSteps pacing ctx names set steps) t set') : set'.error = some e := by
  induction steps generalizing set with
  | nil =>
    cases ht
    exact h
  | cons step steps ih =>
    unfold runSteps at ht
    rw [if_pos (by simp [h])] at ht
    have kept : (set.report step.role .skipped).error = some e := h
    exact ih kept ht

/-- Steps that all succeed ask for the containers they are meant to start. -/
theorem runSteps_asks {steps : List Step} (sound : set'.error = none)
    (h : Prog.Yields (runSteps pacing ctx names set steps) t set') :
    t.Asks (steps.flatMap (Step.startNames names)) := by
  induction steps generalizing set t with
  | nil =>
    cases h
    exact Trace.asks_nil rfl
  | cons step steps ih =>
    -- An error stays, so there is none before this step and none after it.
    have unfailed : set.error = none := by
      by_cases failed : set.error = none
      · exact failed
      · obtain ⟨e, failed⟩ := Option.ne_none_iff_exists'.1 failed
        exact absurd (runSteps_error failed h) (by simp [sound])
    unfold runSteps at h
    rw [if_neg (by simp [unfailed])] at h
    obtain ⟨u, v, outcome, rfl, runs, rest⟩ := Prog.yields_bind.1 h
    rw [List.flatMap_cons]
    cases outcome with
    | ok set₁ => exact (runStep_asks runs).append (ih rest)
    | error e =>
      obtain ⟨_, _, _, -, -, rest⟩ := Prog.yields_bind.1 rest
      exact absurd (runSteps_error rfl rest) (by simp [sound])

end FixtureSet

/-! ## Names of plans -/

theorem ServiceDraft.configuredName_eq_some {d : ServiceDraft} {name : String}
    (h : d.configuredName = some name) : d.name = some name ∧ Text.isBlank name = false := by
  obtain ⟨hname, hblank⟩ := Option.filter_eq_some_iff.1 h
  exact ⟨hname, by simpa using hblank⟩

theorem Text.isBlank_append (s t : String) : isBlank (s ++ t) = (isBlank s && isBlank t) := by
  simp [isBlank]

namespace Step

/-- The names that stand in for options which a step leaves open. -/
def defaultNames (names : FixtureNames) : Step → List String
  | .cache none => [names.cache]
  | .database none => [names.database]
  | .broker none => [names.broker, names.coordinator]
  | _ => []

/-- The options ask for a replica set where the step asks for none, or the other way round. -/
def Crossed : Step → Prop
  | .database (some options) => options.replicaSet = true
  | .replicatedDatabase (some options) => options.replicaSet = false
  | _ => False

variable {names : FixtureNames} {step : Step}

/-- No container that is started has a blank name. -/
theorem isBlank_of_mem_startNames {name : String} (h : name ∈ step.startNames names) :
    Text.isBlank name = false := by
  have single : ∀ d : ServiceDraft, name ∈ d.configuredName.toList →
      Text.isBlank name = false := by
    intro d hmem
    exact (ServiceDraft.configuredName_eq_some (Option.mem_toList.1 hmem)).2
  have database : ∀ d : ServiceDraft, name ∈ d.databaseNames → Text.isBlank name = false := by
    intro d hmem
    obtain ⟨base, configured, hname⟩ := List.mem_flatMap.1 hmem
    have base_named := (ServiceDraft.configuredName_eq_some (Option.mem_toList.1 configured)).2
    rcases List.mem_cons.1 (Database.namesFor_subset _ _ hname) with rfl | member
    · exact base_named
    · obtain ⟨node, -, rfl⟩ := List.mem_map.1 member
      simp [ReplicaNode.containerName, Text.isBlank_append, base_named]
  cases step with
  | network _ => cases h
  | cache draft => exact single _ h
  | database draft => exact database _ h
  | replicatedDatabase draft => exact database _ h
  | broker draft => exact (List.mem_append.1 h).elim (single _) (single _)

/-- A step names what it starts, unless it is crossed or a blank name stands in. -/
theorem containerNames_eq_startNames (straight : ¬ step.Crossed)
    (named : ∀ name ∈ step.defaultNames names, Text.isBlank name = false) :
    Plan.stepContainerNames names step = step.startNames names := by
  -- Both drop a blank name of a draft; only a name that stands in is listed blank or not.
  cases step with
  | network _ => rfl
  | cache draft =>
    cases draft with
    | some d => rfl
    | none =>
      have cache := named names.cache List.mem_cons_self
      simp [Plan.stepContainerNames, startNames, FixtureNames.cacheDraft, ServiceDraft.setAll,
        ServiceDraft.set, ServiceDraft.configuredName, Option.filter_some, cache]
  | database draft =>
    cases draft with
    | some d =>
      have single : d.replicaSet = false := by simpa [Crossed] using straight
      have alone : Database.namesFor false = ([·]) := rfl
      simp [Plan.stepContainerNames, startNames, ServiceDraft.databaseNames, single, alone]
    | none =>
      have database := named names.database List.mem_cons_self
      simp [Plan.stepContainerNames, startNames, FixtureNames.databaseDraft, ServiceDraft.setAll,
        ServiceDraft.set, ServiceDraft.databaseNames, ServiceDraft.configuredName,
        Database.namesFor, Option.filter_some, database]
  | replicatedDatabase draft =>
    cases draft with
    | some d =>
      have replicated : d.replicaSet = true := by simpa [Crossed] using straight
      cases configured : d.configuredName <;>
        simp [Plan.stepContainerNames, startNames, ServiceDraft.databaseNames, Database.namesFor,
          replicated, configured]
    | none => rfl
  | broker draft =>
    cases draft with
    | some d => rfl
    | none =>
      have broker := named names.broker List.mem_cons_self
      have coordinator := named names.coordinator (List.mem_cons_of_mem _ List.mem_cons_self)
      simp [Plan.stepContainerNames, startNames, FixtureNames.brokerDraft, BrokerDraft.setAll,
        BrokerDraft.set, BrokerDraft.setBroker, BrokerDraft.setCoordinator, ServiceDraft.set,
        BrokerDraft.configuredNames, ServiceDraft.configuredName, Option.filter_some, broker,
        coordinator]

theorem defaultNames_subset : step.defaultNames names ⊆ Plan.stepContainerNames names step := by
  rcases step with _ | (_ | _) | (_ | _) | (_ | _) | (_ | _) <;>
    simp [defaultNames, Plan.stepContainerNames]

end Step

namespace Plan

/-- No blank name stands in for an option, and each crossed step finds what it names started, and
what it starts named, on account of other steps. -/
structure NamesItsStarts (p : Plan) : Prop where
  named : ∀ step ∈ p.steps, ∀ name ∈ step.defaultNames p.names, Text.isBlank name = false
  crossed : ∀ step ∈ p.steps, step.Crossed →
    stepContainerNames p.names step ⊆ p.startNames ∧ step.startNames p.names ⊆ p.containerNames

theorem containerNames_iff_startNames (p : Plan) :
    (∀ name, name ∈ p.containerNames ↔ name ∈ p.startNames) ↔ p.NamesItsStarts := by
  have listed : ∀ step ∈ p.steps, stepContainerNames p.names step ⊆ p.containerNames := by
    intro step hmem name hname
    exact List.mem_flatMap.2 ⟨step, hmem, hname⟩
  have started : ∀ step ∈ p.steps, step.startNames p.names ⊆ p.startNames := by
    intro step hmem name hname
    exact List.mem_flatMap.2 ⟨step, hmem, hname⟩
  constructor
  · intro h
    constructor
    · -- A blank name would be named but never started.
      intro step hmem name hname
      have := (h name).1 (listed step hmem (Step.defaultNames_subset hname))
      obtain ⟨_, _, hstart⟩ := List.mem_flatMap.1 this
      exact Step.isBlank_of_mem_startNames hstart
    · intro step hmem _
      constructor
      · intro name hname
        exact (h name).1 (listed step hmem hname)
      · intro name hname
        exact (h name).2 (started step hmem hname)
  · intro h name
    constructor
    · intro hname
      obtain ⟨step, hmem, hname⟩ := List.mem_flatMap.1 hname
      by_cases crossed : step.Crossed
      · -- The names of a crossed step are other steps' business.
        exact (h.crossed step hmem crossed).1 hname
      · rw [Step.containerNames_eq_startNames crossed (h.named step hmem)] at hname
        exact started step hmem hname
    · intro hname
      obtain ⟨step, hmem, hname⟩ := List.mem_flatMap.1 hname
      by_cases crossed : step.Crossed
      · exact (h.crossed step hmem crossed).2 hname
      · rw [← Step.containerNames_eq_startNames crossed (h.named step hmem)] at hname
        exact listed step hmem hname

/-- When all steps of a plan succeed, the containers asked for are those that it is meant to start
and those whose names are generated. The first are the containers it names, exactly if no blank name
stands in for an option and no database is a replica set that its step does not ask for. -/
theorem named_containers_are_started_iff (p : Plan) (pacing : Pacing) (ctx : Context) (t : Trace)
    (set : FixtureSet) (h : Prog.Yields (FixtureSet.provision pacing ctx p) t set)
    (sound : set.error = none) :
    t.Asks p.startNames ∧
      ((∀ name, name ∈ p.containerNames ↔ name ∈ p.startNames) ↔ p.NamesItsStarts) :=
  ⟨FixtureSet.runSteps_asks sound h, p.containerNames_iff_startNames⟩

/-- A replica set called orders, and one without a name. -/
def ordersSample : Plan where
  steps := [.cache none, Step.replicatedDatabaseWith
    (ServiceDraft.set { family := .mongo } (.name "orders")), .replicatedDatabase none]

/-- A plan of which some names are generated. -/
theorem orders_are_started :
    ∃ t set, Prog.Yields (FixtureSet.provision {} ⟨⟨0⟩, none⟩ ordersSample) t set ∧
      (Trace.requested t).length = 7 ∧ Trace.Asks t ordersSample.startNames := by
  let run := Prog.play Engine.obliging (FixtureSet.provision {} ⟨⟨0⟩, none⟩ ordersSample)
  have ends : run.2.map (·.error) = some none := by decide +kernel
  obtain ⟨set, yields, sound⟩ := Option.map_eq_some_iff.1 ends
  have yields := Prog.yields_play _ yields
  exact ⟨run.1, set, yields, by decide +kernel,
    (named_containers_are_started_iff ordersSample _ _ _ set yields sound).1⟩

/-- A database whose options ask for a replica set. -/
def crossedSample : Plan where
  steps := [.database (some (ServiceDraft.setAll { family := .mongo }
    [.name "orders", .replicaSet true]))]

/-- A database that is a replica set goes by other names than its plan says. -/
theorem replica_set_is_not_named :
    ∃ t set, Prog.Yields (FixtureSet.provision {} ⟨⟨0⟩, none⟩ crossedSample) t set ∧
      set.error = none ∧ Trace.requested t = ["orders-m1", "orders-rs2", "orders-rs3"] ∧
      crossedSample.containerNames = ["orders"] := by
  let run := Prog.play Engine.obliging (FixtureSet.provision {} ⟨⟨0⟩, none⟩ crossedSample)
  have ends : run.2.map (·.error) = some none := by decide +kernel
  obtain ⟨set, yields, sound⟩ := Option.map_eq_some_iff.1 ends
  exact ⟨run.1, set, Prog.yields_play _ yields, sound, by decide +kernel, by decide +kernel⟩

end Plan

end Testbed
