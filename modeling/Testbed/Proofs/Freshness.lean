import Testbed.Proofs.Joining

/-!
# Fresh starts

A job that is to start afresh first sweeps up what an earlier run may have left. It removes each
container whose name its plan has from the configuration, and no other, before it looks for a
network or starts anything. So only containers with made-up names are started without a removal
before.
-/

namespace Testbed

/-! ## Names of containers -/

namespace Trace

/-- Each container is asked for under one of the names, or under a name that was made up before. -/
def StartsAs (names : List String) (t : Trace) : Prop :=
  ∀ v ctx spec b w, t = v ++ Engine.event (.run ctx spec) b :: w →
    spec.name ∈ names ∨ Generated v spec.name

variable {names : List String} {s u : Trace}

theorem StartsAs.append (hs : s.StartsAs names) (hu : u.StartsAs names) :
    StartsAs names (s ++ u) := by
  intro v ctx spec b w eq
  rcases List.append_eq_append_iff.1 eq with ⟨mid, rfl, rest⟩ | ⟨mid, rfl, rest⟩
  · -- The container is asked for in `u`.
    exact (hu mid ctx spec b w rest).imp_right (·.mono (List.subset_append_right _ _))
  · cases mid with
    | nil => exact (hu [] ctx spec b w rest.symm).imp_right (·.mono (List.nil_subset _))
    | cons e mid =>
      obtain ⟨rfl, -⟩ := List.cons.inj rest
      exact hs v ctx spec b mid rfl

theorem startsAs_of_nothing (h : ∀ e ∈ s, CommandLine.StartsNothing e.request) :
    s.StartsAs names := by
  rintro v ctx spec b w rfl
  exact absurd rfl (h (Engine.event (.run ctx spec) b) (by simp) ctx spec)

/-- Asking for a container makes up no name. -/
theorem Generated.of_run {ctx : Context} {spec : ContainerSpec} {b : Except Error Unit}
    {name : String} (h : Generated (s ++ [Engine.event (.run ctx spec) b]) name) :
    s.Generated name := by
  obtain ⟨d, suffix, unnamed, asked, hname⟩ := h
  rcases List.mem_append.1 asked with earlier | now
  · exact ⟨d, suffix, unnamed, earlier, hname⟩
  · cases List.mem_singleton.1 now

end Trace

/-- Providing a plan asks for containers under the names that its steps are to start, as far as they
are not made up. -/
theorem FixtureSet.provision_startsAs {pacing : Pacing} {ctx : Context} {plan : Plan} {t : Trace}
    (h : Prog.Reaches (provision pacing ctx plan) t) : t.StartsAs plan.startNames := by
  rintro v ctx' spec b w rfl
  rw [List.append_cons] at h
  have steps : Prog.Reaches (runSteps pacing ctx plan.names {} plan.steps)
      (v ++ [Engine.event (.run ctx' spec) b]) := h.before
  rcases runSteps_comesIn .new steps with free | ⟨before, turn, among, s, u, set, rfl, -, now⟩
  · exact free.elim
  · have asked := runStep_wants now (Engine.event (.run ctx' spec) b) (by simp)
    obtain ⟨step, hstep, rfl⟩ : ∃ step ∈ plan.steps, turn = ⟨ctx, plan.names, step⟩ := by
      have member := among.subset (List.mem_append_right before (List.mem_singleton_self turn))
      obtain ⟨step, hstep, rfl⟩ := List.mem_map.1 member
      exact ⟨step, hstep, rfl⟩
    refine asked.name.imp (fun named => List.mem_flatMap.2 ⟨step, hstep, named⟩) fun made => ?_
    -- The name was made up before, since asking for the container makes up none.
    exact made.of_run.mono (List.subset_append_right _ _)

/-! ## Plans from fixture files -/

namespace Config

theorem setAll_replicaSet {settings : List ServiceSetting} (d : ServiceDraft)
    (h : ∀ enabled, ServiceSetting.replicaSet enabled ∉ settings) :
    (d.setAll settings).replicaSet = d.replicaSet := by
  induction settings generalizing d with
  | nil => rfl
  | cons s settings ih =>
    have rest : ((d.set s).setAll settings).replicaSet = (d.set s).replicaSet :=
      ih _ fun enabled hmem => h enabled (List.mem_cons_of_mem _ hmem)
    refine rest.trans ?_
    cases s with
    | replicaSet enabled => exact absurd List.mem_cons_self (h enabled)
    | _ => rfl

/-- Whether a database is a replica set is not for the settings of its section to say. -/
theorem ServiceSection.replicaSet_notMem_settings (s : ServiceSection) (enabled : Bool) :
    ServiceSetting.replicaSet enabled ∉ s.settings := by
  have credentials : s.credentials ≠ some (.replicaSet enabled) := by
    unfold ServiceSection.credentials
    split <;> simp
  simp [settings, credentials]

/-- No step of the plan leaves its options open, and none asks for a replica set in passing. -/
theorem plan_straight (c : Config) :
    ∀ step ∈ c.plan.steps, ¬ step.Crossed ∧ step.defaultNames c.plan.names = [] := by
  intro step hmem
  have listed : c.networkStep? = some step ∨ c.cacheStep? = some step ∨
      c.databaseStep? = some step ∨ c.brokerStep? = some step := by
    simpa [plan, eq_comm] using hmem
  rcases listed with made | made | made | made <;>
    obtain ⟨s, -, rfl⟩ := Option.map_eq_some_iff.1 made
  case inr.inr.inl =>
    split
    · exact ⟨by simp [Step.Crossed, Step.replicatedDatabaseWith, ServiceDraft.set], rfl⟩
    · have single : (c.fixtureNames.databaseDraft.setAll s.settings).replicaSet = false :=
        setAll_replicaSet c.fixtureNames.databaseDraft s.replicaSet_notMem_settings
      exact ⟨by simp [Step.Crossed, single], rfl⟩
  all_goals exact ⟨id, rfl⟩

/-- The sweep goes by the names of the containers that the plan starts. -/
theorem plan_containerNames (c : Config) : c.plan.containerNames = c.plan.startNames := by
  refine List.flatMap_congr fun step hmem => ?_
  obtain ⟨straight, none_open⟩ := c.plan_straight step hmem
  refine Step.containerNames_eq_startNames straight ?_
  simp [none_open]

end Config

namespace CommandLine

/-! ## Sweeping -/

/-- A request that starts nothing, is about no network that may be joined, and removes none but the
named containers. -/
def Sweeps (names : List String) : Engine.onSystem.Request → Prop
  | .inl (.remove name) => name ∈ names
  | .inl (.run _ _) | .inl (.networkExists _) | .inl (.createNetwork _ _) => False
  | _ => True

theorem Sweeps.of_aside {names : List String} {r : Engine.onSystem.Request}
    (h : Engine.Aside r) : Sweeps names r := by
  rcases r with r | r
  · cases r <;> first | exact h.elim | trivial
  · trivial

theorem dropContainers_sweeps (retry : RetryPolicy) (names : List String) :
    Prog.Only (Sweeps names) (dropContainers retry names) := by
  have removes (some_names : List String) (h : some_names ⊆ names) :
      Prog.Only (Sweeps names) (removeAll retry some_names) := by
    induction some_names with
    | nil => trivial
    | cons name rest ih =>
      obtain ⟨first, rest⟩ := List.cons_subset.1 h
      refine Prog.Only.bind ?_ fun _ => ih rest
      exact (removeWithin_finishes first (fun _ => Sweeps.of_aside) _ _).only
  unfold dropContainers
  split
  · trivial
  · refine Prog.Only.bind ?_ fun _ => removes names (List.Subset.refl names)
    refine Prog.Only.bind ⟨trivial, fun _ => trivial⟩ fun reply => ?_
    cases reply with
    | ok => trivial
    | error => exact ⟨trivial, fun _ => trivial⟩

/-- At least one try is made to remove a container. -/
theorem removeForced_removes {retry : RetryPolicy} {name : String} {t : Trace}
    (h : Prog.Yields (removeForced retry name) t ()) :
    ∃ b, Engine.event (.remove name) b ∈ t := by
  obtain ⟨tries, budget⟩ : ∃ tries, retry.budget = tries + 1 :=
    Nat.exists_eq_add_one.2 (Nat.lt_of_lt_of_le Nat.one_pos (Nat.le_max_right _ _))
  rw [removeForced, budget] at h
  cases h with
  | ask b rest => exact ⟨b, List.mem_cons_self⟩

theorem dropContainers_removes {retry : RetryPolicy} {names : List String} {t : Trace}
    (h : Prog.Yields (dropContainers retry names) t ()) :
    ∀ name ∈ names, ∃ b, Engine.event (.remove name) b ∈ t := by
  have removes (some_names : List String) (u : Trace)
      (hu : Prog.Yields (removeAll retry some_names) u ()) :
      ∀ name ∈ some_names, ∃ b, Engine.event (.remove name) b ∈ u := by
    induction some_names generalizing u with
    | nil => simp
    | cons first rest ih =>
      obtain ⟨v, w, _, rfl, removed, others⟩ := Prog.yields_bind.1 hu
      intro name hmem
      rcases List.mem_cons.1 hmem with rfl | hmem
      · obtain ⟨b, asked⟩ := removeForced_removes removed
        exact ⟨b, List.mem_append_left _ asked⟩
      · obtain ⟨b, asked⟩ := ih w others name hmem
        exact ⟨b, List.mem_append_right _ asked⟩
  unfold dropContainers at h
  split at h
  · next none_named =>
    rw [List.isEmpty_iff.1 none_named]
    simp
  · obtain ⟨v, w, _, rfl, -, removed⟩ := Prog.yields_bind.1 h
    intro name hmem
    obtain ⟨b, asked⟩ := removes names w removed name hmem
    exact ⟨b, List.mem_append_right _ asked⟩

/-! ## The job -/

theorem Work.act_reaches {α β : Type} {action : Action α} {f : α → Work β}
    {t : List (Prog.Event Desk)} (h : Prog.Reaches (Work.act action >>= f).run t) :
    Prog.Reaches action (atEngine t) ∨
      ∃ s u a, t = s ++ u ∧ Prog.Yields action (atEngine s) a ∧ Prog.Reaches (f a).run u := by
  unfold Work.act at h
  rw [ExceptT.run_bind_lift] at h
  rcases Prog.reaches_bind.1 h with early | ⟨s, u, a, rfl, acts, rest⟩
  · exact .inl early.left
  · exact .inr ⟨s, u, a, rfl, acts.left, rest⟩

/-- A request that starts no container, at the engine or elsewhere. -/
abbrev StartsNothingAnywhere : Desk.Request → Prop :=
  Sum.elim StartsNothing fun _ => True

theorem startsNothing_atEngine {α : Type} {p : Prog Desk α} {t : List (Prog.Event Desk)}
    (h : p.Only StartsNothingAnywhere) (ht : Prog.Reaches p t) :
    ∀ e ∈ atEngine t, StartsNothing e.request := by
  intro e hmem
  obtain ⟨⟨r | r, b⟩, asked, eq⟩ := List.mem_filterMap.1 hmem
  · cases eq
    exact h.reaches ht _ asked
  · cases eq

/-- Once its plan has been run, a job shows what there is and closes the set. -/
theorem finish_startsNothing (pacing : Pacing) (set : FixtureSet) (noWait : Bool) :
    Task.Only StartsNothingAnywhere (do
      let set ← (Work.attempt (set.intoReady pacing)).during "provisioning fixtures"
      closeOnFailure pacing set (present set noWait)
      close pacing set
      printLines ["🧹 Fixtures removed"]) := by
  -- What is said at the console starts nothing, and neither does closing the set.
  have talks {r : Desk.Request} (h : AtConsole r) : StartsNothingAnywhere r := by
    rcases r with r | r
    · cases h
    · trivial
  have closes (set : FixtureSet) : Prog.Only StartsNothing (set.close pacing) := by
    refine (FixtureSet.close_finishes pacing set).only.mono ?_
    rintro _ closing ctx spec rfl
    exact closing
  have discards (set : FixtureSet) : Prog.Only StartsNothing (discard (set.close pacing)) :=
    Prog.Only.bind (closes set) fun _ => trivial
  have closing (set : FixtureSet) : Task.Only StartsNothingAnywhere (close pacing set) :=
    Prog.Only.bind (discards set).inLeft fun _ => trivial
  refine Task.Only.bind (Prog.Only.bind (Prog.Only.bind ?_ fun _ => trivial) fun _ => trivial)
    fun set => Task.Only.bind ?_ fun _ => Task.Only.bind (closing set) fun _ => ?_
  · refine Prog.Only.inLeft ?_
    unfold FixtureSet.intoReady
    split
    · trivial
    · exact Prog.Only.bind (discards set) fun _ => trivial
  · refine Prog.Only.bind ((present_atConsole set noWait).mono fun _ => talks) fun outcome => ?_
    cases outcome with
    | ok => trivial
    | error => exact Prog.Only.bind (Prog.Only.bind (closing set) fun _ => trivial) fun _ => trivial
  · exact (printLines_atConsole _).mono fun _ => talks

/-- A job that does not start afresh starts containers only in providing its plan. -/
theorem up_startsAs {config : Config} {noWait : Bool} {rounds : Nat}
    {t : List (Prog.Event Desk)} (h : Prog.Reaches (up config false noWait rounds).run t) :
    Trace.StartsAs config.plan.startNames (atEngine t) := by
  have fresh_context : Prog.Only StartsNothing (Context.background : Action Context) :=
    Prog.Only.bind ⟨nofun, fun _ => trivial⟩ fun _ => trivial
  rcases Work.act_reaches h with early | ⟨s, t, ctx, rfl, context, rest⟩
  · exact Trace.startsAs_of_nothing (fresh_context.reaches early)
  rw [atEngine, List.filterMap_append]
  refine (Trace.startsAs_of_nothing (fresh_context.reaches context.reaches)).append ?_
  rcases Work.act_reaches rest with early | ⟨u, v, set, rfl, provided, rest⟩
  · exact FixtureSet.provision_startsAs early
  rw [List.filterMap_append]
  refine (FixtureSet.provision_startsAs provided.reaches).append (Trace.startsAs_of_nothing ?_)
  exact startsNothing_atEngine (finish_startsNothing _ set noWait) rest

/-- A job that starts afresh begins with the sweep `s`, which removes each container whose name its
plan has from the configuration, and no other. No container is started and no network is asked for
before the sweep is over. After it, containers are started under these names and under names that
are made up on the way. They are just the names that the plan uses when all its steps succeed. -/
theorem fresh_sweeps_before_starting (config : Config) (noWait : Bool) (rounds : Nat) :
    (∀ t, Prog.Reaches (up config true noWait rounds).run t → ∃ s u, atEngine t = s ++ u ∧
      Prog.Reaches (dropContainers config.retryPolicy config.plan.containerNames) s ∧
      (∀ e ∈ s, Sweeps config.plan.startNames e.request) ∧
      (u ≠ [] → ∀ name ∈ config.plan.startNames, ∃ b, Engine.event (.remove name) b ∈ s) ∧
      Trace.StartsAs config.plan.startNames u) ∧
    ∀ pacing ctx t set, Prog.Yields (FixtureSet.provision pacing ctx config.plan) t set →
      set.error = none → Trace.Asks t config.plan.startNames := by
  refine ⟨fun t h => ?_, fun pacing ctx t set h sound => FixtureSet.runSteps_asks sound h⟩
  have sweeps := dropContainers_sweeps config.retryPolicy config.plan.containerNames
  rw [up_fresh] at h
  rw [← config.plan_containerNames]
  rcases Work.act_reaches h with early | ⟨s, u, _, rfl, swept, rest⟩
  · -- The sweep is not over yet.
    refine ⟨atEngine t, [], (List.append_nil _).symm, early, sweeps.reaches early, by simp, ?_⟩
    exact Trace.startsAs_of_nothing (by simp)
  · rw [atEngine, List.filterMap_append]
    refine ⟨_, _, rfl, swept.reaches, sweeps.reaches swept.reaches,
      fun _ => dropContainers_removes swept, ?_⟩
    rw [config.plan_containerNames]
    exact up_startsAs rest

/-- A cache with its usual name, and a replica set without a name. -/
def freshSample : Config where
  cache := some {}
  database := some { replicaSet := some true }

theorem usual_cache_is_swept :
    let job := Prog.play deafDesk (up freshSample true false 4).run
    let run := Prog.play Engine.obliging (FixtureSet.provision {} ⟨⟨0⟩, none⟩ freshSample.plan)
    freshSample.plan.startNames = ["test-redis"] ∧ (Trace.requested (atEngine job.1)).length = 4 ∧
      (∃ s u, atEngine job.1 = s ++ u ∧
        (u ≠ [] → ∃ b, Engine.event (.remove "test-redis") b ∈ s) ∧
        Trace.StartsAs ["test-redis"] u) ∧
      Trace.Asks run.1 ["test-redis"] := by
  intro job run
  have named : freshSample.plan.startNames = ["test-redis"] := by decide +kernel
  have fresh := fresh_sweeps_before_starting freshSample false 4
  rw [named] at fresh
  have ends : job.2.isSome := by decide +kernel
  obtain ⟨r, ends⟩ := Option.isSome_iff_exists.1 ends
  obtain ⟨s, u, eq, -, -, removed, startsAs⟩ := fresh.1 job.1 (Prog.yields_play _ ends).reaches
  have sound : run.2.map (·.error) = some none := by decide +kernel
  obtain ⟨set, provided, sound⟩ := Option.map_eq_some_iff.1 sound
  exact ⟨named, by decide +kernel,
    ⟨s, u, eq, fun more => removed more _ (List.mem_singleton_self _), startsAs⟩,
    fresh.2 _ _ _ set (Prog.yields_play _ provided) sound⟩

end CommandLine

end Testbed
