import Testbed.Proofs.Lives

/-!
# Conduct of a program

A program is handed a context and told the names of networks. It starts containers and creates
networks under that context or one derived from it, and it deals only with networks that it was told
of or has made up a name for.
-/

namespace Testbed

/-- Contexts derived from `ctx`: they share its flag and expire no later. -/
inductive Context.Derived (ctx : Context) : Context → Prop
  | self : Derived ctx ctx
  | expiringAt {ctx' : Context} (h : Derived ctx ctx') (now : Instant) (timeout : Duration) :
      Derived ctx (ctx'.expiringAt now timeout)

/-- What a program may use: contexts together with all that is derived from them, and networks. -/
structure Conduct where
  uses : Context → Prop
  enters : String → Prop
  derives : ∀ ctx now timeout, uses ctx → uses (ctx.expiringAt now timeout)

namespace Conduct

/-- Any network, under contexts derived from `ctx`. -/
def under (ctx : Context) : Conduct where
  uses := ctx.Derived
  enters _ := True
  derives _ now timeout h := h.expiringAt now timeout

/-- Only the networks given, under any context. -/
def within (networks : List String) : Conduct where
  uses _ := True
  enters network := network ∈ networks
  derives _ _ _ h := h

variable {c : Conduct}

/-- The network may be entered, or its name is made up of a stem and a suffix drawn before. -/
def Knows (c : Conduct) (drawn : List String) (network : String) : Prop :=
  c.enters network ∨ ∃ stem, ∃ suffix ∈ drawn, network = stem ++ "-" ++ suffix

theorem Knows.later {drawn : List String} {network : String} (h : c.Knows drawn network)
    (more : List String) : c.Knows (drawn ++ more) network := by
  refine h.imp_right ?_
  rintro ⟨stem, suffix, hmem, named⟩
  exact ⟨stem, suffix, List.mem_append_left more hmem, named⟩

/-- Keeps the suffixes that have been drawn. -/
def monitor (c : Conduct) : Monitor Engine.onSystem (List String) where
  step drawn e := drawn ++ Trace.drawn [e]
  allows drawn
    | .inl (.run ctx _) => c.uses ctx
    | .inl (.createNetwork ctx spec) => c.uses ctx ∧ c.Knows drawn spec.name
    | .inl (.networkExists name) => c.Knows drawn name
    | _ => True

theorem monitor_ignores_still : c.monitor.Ignores Engine.Still := by
  intro r h drawn
  obtain r | r := r
  · cases r <;> first | exact h.elim | exact ⟨trivial, fun _ => List.append_nil drawn⟩
  · cases r <;> first | exact h.elim | exact ⟨trivial, fun _ => List.append_nil drawn⟩

theorem drawn_after (drawn : List String) (t : Trace) :
    c.monitor.after drawn t = drawn ++ t.drawn := by
  induction t generalizing drawn with
  | nil => exact (List.append_nil drawn).symm
  | cons e t ih =>
    have split : Trace.drawn (e :: t) = Trace.drawn [e] ++ Trace.drawn t :=
      List.filterMap_append (l := [e])
    rw [Monitor.after_cons, ih, split, ← List.append_assoc]
    rfl

/-! ## Governed programs -/

variable {α β : Type} {p : Action α} {task : Attempt α}

/-- The program keeps to the conduct, whatever was drawn before. -/
def Governs (c : Conduct) (p : Action α) : Prop :=
  ∀ drawn, p.wp c.monitor (fun _ _ => True) drawn

/-- The task keeps to the conduct, whether it fails or not. -/
def GovernsTask (c : Conduct) (task : Attempt α) : Prop :=
  c.Governs task.run

/-- Requests that every conduct allows. -/
def Free : Engine.onSystem.Request → Prop
  | .inl (.run _ _) | .inl (.createNetwork _ _) | .inl (.networkExists _) => False
  | _ => True

theorem Free.of_still {r : Engine.onSystem.Request} (h : Engine.Still r) : Free r := by
  rcases r with r | r
  · cases r <;> first | exact h.elim | trivial
  · trivial

theorem Free.of_cleans {r : Engine.onSystem.Request} (h : Engine.Cleans r) : Free r := by
  rcases r with r | r
  · cases r <;> first | exact h.elim | trivial
  · trivial

theorem Free.of_closes {r : Engine.onSystem.Request} (h : Engine.Closes r) : Free r := by
  rcases r with r | r
  · cases r <;> first | exact h.elim | trivial
  · trivial

namespace Governs

theorem pure (a : α) : c.Governs (pure a : Action α) := fun _ => trivial

theorem free (h : p.Only Free) : c.Governs p := by
  induction p with
  | done a => exact fun _ => trivial
  | ask r next ih =>
    refine fun drawn => ⟨?_, fun b => ih b (h.2 b) _⟩
    have free := h.1
    rcases r with r | r
    · cases r <;> first | exact free.elim | trivial
    · trivial
  | diverge => exact fun _ => trivial

theorem still (h : p.Only Engine.Still) : c.Governs p := free (h.mono fun _ => Free.of_still)

theorem cleans (h : p.Only Engine.Cleans) : c.Governs p := free (h.mono fun _ => Free.of_cleans)

theorem bind {f : α → Action β} (h : c.Governs p) (hf : ∀ a, c.Governs (f a)) :
    c.Governs (p >>= f) :=
  fun drawn => Prog.wp_seq (h drawn) fun a drawn' _ => hf a drawn'

end Governs

namespace GovernsTask

theorem pure (a : α) : c.GovernsTask (pure a : Attempt α) := fun _ => trivial

theorem lift (h : c.Governs p) : c.GovernsTask (p : Attempt α) :=
  Governs.bind h fun _ _ => trivial

theorem still (h : Task.Only Engine.Still task) : c.GovernsTask task := Governs.still h

theorem bind {f : α → Attempt β} (h : c.GovernsTask task) (hf : ∀ a, c.GovernsTask (f a)) :
    c.GovernsTask (task >>= f) :=
  Governs.bind h fun
    | .ok a => hf a
    | .error _ => fun _ => trivial

theorem onFailure {cleanup : Error → Action Unit} (h : c.GovernsTask task)
    (hc : ∀ e, (cleanup e).Only Engine.Cleans) : c.GovernsTask (task.onFailure cleanup) :=
  Governs.bind h fun
    | .ok _ => fun _ => trivial
    | .error e => Governs.bind (.cleans (hc e)) fun _ _ => trivial

end GovernsTask

/-! ## Services and networks -/

variable {pacing : Pacing} {ctx : Context}

/-- In a proof about all ends of a task its failures are told apart from its results. -/
theorem wp_of_task {drawn : List String}
    (h : Task.wp c.monitor task (fun _ _ => True) (fun _ _ => True) drawn) :
    task.run.wp c.monitor (fun _ _ => True) drawn :=
  Prog.wp_mono (fun _ _ _ => trivial) h

theorem launch_governed (h : c.uses ctx) (request : LaunchRequest) :
    c.GovernsTask (launch pacing ctx request) := by
  refine fun drawn => wp_of_task ?_
  refine launch_wp monitor_ignores_still h (fun _ => trivial) (fun _ _ => trivial) ?_
  intro _
  exact Governs.cleans (removeWithin_cleans _ _ _) _

/-- A service that was launched is handed out once it can be reached, or else let go. -/
theorem connect_governed (address : Address) (service : Service) :
    c.GovernsTask ((connect address).onFailure fun _ => service.release pacing) :=
  (GovernsTask.still (connect_still _)).onFailure fun _ => service.release_cleans _

theorem network_governed {name : String} {drawn : List String} (h : c.uses ctx)
    (known : c.Knows drawn name) :
    Task.wp c.monitor (Network.create ctx name) (fun _ _ => True) (fun _ _ => True) drawn := by
  refine Network.create_wp monitor_ignores_still known (fun _ => trivial) trivial fun now => ?_
  have derived := c.derives ctx now Network.createTimeout h
  have known' : c.Knows (drawn ++ []) name := known.later []
  exact Engine.createNetwork_wp.2 ⟨⟨derived, known'⟩, fun _ => trivial, fun _ => trivial⟩

theorem createUnique_governed (h : c.uses ctx) (stem : String) :
    c.GovernsTask (Network.createUnique ctx stem) := by
  refine fun drawn => wp_of_task (Task.wp_bind.2 (Task.wp_lift.2 ⟨trivial, ?_⟩))
  intro (suffix : String)
  -- The name is made up with the suffix that was drawn just now.
  have last : suffix ∈ drawn ++ [suffix] := List.mem_append_right _ (List.mem_singleton_self _)
  exact network_governed h (.inr ⟨stem, suffix, last, rfl⟩)

/-! ## Replica sets -/

section Stages

open ReplicaSet

variable {o : ServiceOptions}

/-- The stage keeps to the conduct, whatever is on record. -/
def GovernsStage (c : Conduct) (stage : Building α) : Prop :=
  ∀ progress, c.Governs (stage.run.run progress)

namespace GovernsStage

theorem pure (a : α) : c.GovernsStage (pure a : Building α) := fun _ _ => trivial

theorem modify (f : Progress → Progress) : c.GovernsStage (modify f) := fun _ _ => trivial

theorem attempt (h : c.GovernsTask task) : c.GovernsStage (ReplicaSet.attempt task) :=
  fun _ => Governs.bind h fun _ _ => trivial

theorem bind {stage : Building α} {f : α → Building β} (h : c.GovernsStage stage)
    (hf : ∀ a, c.GovernsStage (f a)) : c.GovernsStage (stage >>= f) :=
  fun progress => Governs.bind (h progress) fun
    | (.ok a, progress') => hf a progress'
    | (.error _, _) => fun _ => trivial

end GovernsStage

theorem obtainNetwork_governed (h : c.uses ctx) : c.GovernsStage (obtainNetwork ctx o) := by
  unfold obtainNetwork
  split
  · exact .pure _
  · refine GovernsStage.bind (.attempt (createUnique_governed h _)) fun network => ?_
    exact GovernsStage.bind (.modify _) fun _ => .pure _

theorem startMember_governed (h : c.uses ctx) {network : String} {node : ReplicaNode} :
    c.GovernsStage (startMember pacing ctx o network node) := by
  refine GovernsStage.bind (.attempt (launch_governed h _)) fun service => ?_
  exact GovernsStage.bind (.modify _) fun _ => .pure _

theorem stages_governed (h : c.uses ctx) : c.GovernsStage (stages pacing ctx o) := by
  have still : ∀ {α : Type} {task : Attempt α}, Task.Only Engine.Still task →
      c.GovernsStage (attempt task) := fun only => .attempt (.still only)
  have reached : ∀ stage, c.GovernsStage (reach o.name stage) :=
    fun stage => still (Task.Only.lift (System.ask_still _))
  refine (obtainNetwork_governed h).bind fun network => (reached _).bind fun _ => ?_
  refine (startMember_governed h).bind fun master => ?_
  refine (startMember_governed h).bind fun second => ?_
  refine (startMember_governed h).bind fun third => ?_
  refine (reached _).bind fun _ => (reached _).bind fun _ => ?_
  refine (still (initiate_still _ _ _)).bind fun _ => (reached _).bind fun _ => ?_
  refine (still verifyMaster_still).bind fun _ => (reached _).bind fun _ => ?_
  exact (still awaitPrimary_still).bind fun _ => (reached _).bind fun _ => .pure _

theorem replicaSet_governed (h : c.uses ctx) : c.GovernsTask (ReplicaSet.start pacing ctx o) := by
  have silent : ∀ notice, c.Governs (notify notice) := fun _ => .still (System.ask_still _)
  unfold ReplicaSet.start
  change c.Governs _
  suffices staged : _ by
    split
    · exact (silent _).bind fun _ => staged
    · exact staged
  refine (stages_governed h {}).bind ?_
  rintro ⟨_ | set, progress⟩
  · refine (silent _).bind fun _ => ?_
    exact Governs.bind (.cleans (rollback_cleans _ _)) fun _ => .pure _
  · exact (silent _).bind fun _ => .pure _

end Stages

/-! ## Fixtures -/

theorem cache_governed (h : c.uses ctx) (o : ServiceOptions) :
    c.GovernsTask (Cache.start pacing ctx o) := by
  refine (launch_governed h _).bind fun service => ?_
  exact (connect_governed _ _).bind fun _ => .pure _

theorem database_governed (h : c.uses ctx) (o : ServiceOptions) :
    c.GovernsTask (Database.start pacing ctx o) := by
  unfold Database.start
  split
  · refine (replicaSet_governed h).bind fun set => ?_
    have connected := GovernsTask.still (c := c) (connect_still set.master.address)
    refine GovernsTask.bind (connected.onFailure fun _ => ?_) fun _ => .pure _
    exact Prog.Only.bind (set.terminate_finishes _).only fun _ => trivial
  · have notes : c.GovernsTask ((LaunchRequest.databaseNotice? o).forM
        fun notice => (notify notice : Action Unit) : Attempt Unit) := by
      cases LaunchRequest.databaseNotice? o with
      | none => exact .pure ()
      | some notice => exact .lift (.still (System.ask_still _))
    refine notes.bind fun _ => (launch_governed h _).bind fun service => ?_
    exact (connect_governed _ _).bind fun _ => .pure _

theorem broker_governed (h : c.uses ctx) (o : BrokerOptions) :
    c.GovernsTask (Broker.start pacing ctx o) := by
  have joined : c.GovernsTask (Broker.obtainNetwork ctx o) := by
    unfold Broker.obtainNetwork
    split
    · exact .pure _
    · exact (createUnique_governed h _).bind fun _ => .pure _
  refine joined.bind fun ⟨networkName, network⟩ => GovernsTask.onFailure ?_ fun _ => ?_
  · refine (launch_governed h _).bind fun coordinator => ?_
    refine GovernsTask.onFailure ?_ fun _ => coordinator.release_cleans _
    refine GovernsTask.bind (.still (Broker.obtainPort_still o)) fun port => ?_
    refine (launch_governed h _).bind fun broker => ?_
    exact (connect_governed _ _).bind fun _ => .pure _
  · cases network with
    | none => trivial
    | some network => exact Prog.Only.bind network.remove_cleans fun _ => trivial

end Conduct

/-! ## Sets -/

/-- The network that a step enters. -/
def Step.networkName? (names : FixtureNames) : Step → Option String
  | .network name => some (name.getD names.network)
  | _ => none

/-- The networks that the steps of a plan enter. -/
def Plan.networkNames (p : Plan) : List String :=
  p.steps.filterMap (Step.networkName? p.names)

namespace FixtureSet

open Conduct (Free Governs GovernsTask)

variable {c : Conduct} {pacing : Pacing} {ctx : Context} {set : FixtureSet} {names : FixtureNames}

/-- The use keeps to the conduct. -/
def Use.Keeps (c : Conduct) : Use → Prop
  | .extend ctx plan => c.uses ctx ∧ ∀ name ∈ plan.networkNames, c.enters name
  | .close => True

theorem startDatabase_governed (h : c.uses ctx) (draft : ServiceDraft) :
    c.GovernsTask (set.startDatabase pacing ctx draft) := by
  refine GovernsTask.bind (.lift (.free (ServiceDraft.build_only trivial _))) fun o => ?_
  exact (Conduct.database_governed h o).bind fun _ => .pure _

theorem runStep_governed (h : c.uses ctx) {step : Step}
    (enters : ∀ name ∈ step.networkName? names, c.enters name) :
    c.GovernsTask (set.runStep pacing ctx names step) := by
  cases step with
  | network name =>
    change c.GovernsTask (set.enterNetwork ctx _)
    unfold enterNetwork
    split
    · exact .pure _
    · have known := enters (name.getD names.network) rfl
      refine GovernsTask.bind (fun drawn => ?_) fun network => .pure _
      exact Conduct.wp_of_task (Conduct.network_governed h (.inl known))
  | cache draft =>
    refine GovernsTask.bind (.lift (.free (ServiceDraft.build_only trivial _))) fun o => ?_
    exact (Conduct.cache_governed h o).bind fun _ => .pure _
  | database draft => exact startDatabase_governed h _
  | replicatedDatabase draft => exact startDatabase_governed h _
  | broker draft =>
    refine GovernsTask.bind (.lift (.free (BrokerDraft.build_only trivial _))) fun o => ?_
    exact (Conduct.broker_governed h o).bind fun _ => .pure _

theorem runSteps_governed (h : c.uses ctx) {steps : List Step}
    (enters : ∀ name ∈ steps.filterMap (Step.networkName? names), c.enters name) :
    c.Governs (runSteps pacing ctx names set steps) := by
  induction steps generalizing set with
  | nil => exact .pure _
  | cons step steps ih =>
    have first : ∀ name ∈ step.networkName? names, c.enters name := fun name hmem =>
      enters name (List.mem_filterMap.2 ⟨step, List.mem_cons_self, hmem⟩)
    have rest : ∀ name ∈ steps.filterMap (Step.networkName? names), c.enters name := by
      intro name hmem
      obtain ⟨step', hstep, named⟩ := List.mem_filterMap.1 hmem
      exact enters name (List.mem_filterMap.2 ⟨step', List.mem_cons_of_mem _ hstep, named⟩)
    unfold runSteps
    split
    · exact ih rest
    · refine Governs.bind (runStep_governed h first) fun result => ?_
      cases result with
      | ok set' => exact ih rest
      | error e => exact Governs.bind (.still (System.ask_still _)) fun _ => ih rest

theorem extend_governed (h : c.uses ctx) {plan : Plan}
    (enters : ∀ name ∈ plan.networkNames, c.enters name) :
    c.Governs (set.extend pacing ctx plan) := by
  unfold extend
  split
  · exact Governs.bind (.still (System.ask_still _)) fun _ => .pure _
  · split
    · exact .pure _
    · exact runSteps_governed h enters

theorem close_governed : c.Governs (set.close pacing) :=
  .free ((close_finishes pacing set).only.mono fun _ => Free.of_closes)

/-- A set keeps to the conduct that its uses keep to. -/
theorem useAll_governed {uses : List Use} (h : ∀ u ∈ uses, u.Keeps c) :
    c.Governs (set.useAll pacing uses) := by
  induction uses generalizing set with
  | nil => exact .pure _
  | cons u uses ih =>
    obtain ⟨keeps, rest⟩ := List.forall_mem_cons.1 h
    have used : c.Governs (set.use pacing u) := by
      cases u with
      | extend ctx plan => exact extend_governed keeps.1 keeps.2
      | close => exact close_governed
    exact used.bind fun _ => ih rest

end FixtureSet

end Testbed
