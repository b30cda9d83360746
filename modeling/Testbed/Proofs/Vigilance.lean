import Testbed.Proofs.Provision

/-!
# Heeding a context

Whoever is told that an operation is cancelled passes this on as it is, and asks for nothing more
that could be cancelled. What fails in the same way without being told may be put into other words.
-/

namespace Testbed

variable {α β : Type} {ctx : Context} {pacing : Pacing}

/-! ## Being told -/

/-- In the trace something that heeds a context was told so: the engine replied that it cancels a
request, or a check of the context or a sleep within it has failed. -/
inductive Trace.Tells (ctx : Context) : Trace → Error → Prop
  | run {s u : Trace} {ctx' : Context} {spec : ContainerSpec} {reason : String} :
      Tells ctx (s ++ Engine.event (.run ctx' spec) (.error (.cancelled reason)) :: u)
        (.cancelled reason)
  | createNetwork {s u : Trace} {ctx' : Context} {spec : NetworkSpec} {reason : String} :
      Tells ctx (s ++ Engine.event (.createNetwork ctx' spec) (.error (.cancelled reason)) :: u)
        (.cancelled reason)
  | exec {s u : Trace} {ctx' : Context} {name : String} {cmd : List String} {reason : String} :
      Tells ctx (s ++ Engine.event (.exec ctx' name cmd) (.error (.cancelled reason)) :: u)
        (.cancelled reason)
  | check {s w u : Trace} {e : Error}
      (h : Prog.Yields (ctx.check : Attempt Unit).run w (.error e)) : Tells ctx (s ++ w ++ u) e
  | sleep {s w u : Trace} {duration : Duration} {rounds : Nat} {e : Error}
      (h : Prog.Yields (ctx.sleep duration rounds : Attempt Unit).run w (.error e)) :
      Tells ctx (s ++ w ++ u) e

/-- How far a context has been looked at. -/
inductive Vigil where
  | calm
  /-- The flag is not set, and the clock is read next. -/
  | asked
  | told (reason : String)

namespace Vigil

/-- Requests whose reply can be that an operation is cancelled. -/
def Minds : Engine.onSystem.Request → Prop
  | .inl (.run _ _) | .inl (.createNetwork _ _) | .inl (.exec _ _ _) | .inr (.isCancelled _) => True
  | _ => False

/-- What a flag tells: whether it is set, or whether the deadline is to be looked at. -/
def ofFlag (ctx : Context) (token : Token) (flagSet : Bool) : Vigil :=
  if token ≠ ctx.token then calm
  else if flagSet then told Context.Cause.cancelled.reason
  else if ctx.deadline.isSome then asked
  else calm

/-- What the clock tells about the deadline. -/
def ofClock (ctx : Context) (now : Instant) : Vigil :=
  if ctx.deadline.any (· ≤ now) then told Context.Cause.deadline.reason else calm

/-- What a reply tells by itself. -/
def listen (ctx : Context) : Prog.Event Engine.onSystem → Vigil
  | ⟨.inl (.run _ _), .error (.cancelled reason)⟩ => told reason
  | ⟨.inl (.createNetwork _ _), .error (.cancelled reason)⟩ => told reason
  | ⟨.inl (.exec _ _ _), .error (.cancelled reason)⟩ => told reason
  | ⟨.inr (.isCancelled token), flagSet⟩ => ofFlag ctx token flagSet
  | _ => calm

def step (ctx : Context) : Vigil → Prog.Event Engine.onSystem → Vigil
  | told reason, _ => told reason
  | asked, ⟨.inr .now, now⟩ => ofClock ctx now
  | _, e => listen ctx e

/-- Once it is told of a cancellation, a program makes no request that minds it. -/
def monitor (ctx : Context) : Monitor Engine.onSystem Vigil where
  step := step ctx
  allows
    | told _ => fun r => ¬ Minds r
    | _ => fun _ => True

theorem calm_ignores : (monitor ctx).IgnoresAt calm (¬ Minds ·) := by
  rintro (r | r) h
  · cases r <;> first | exact ⟨trivial, fun _ => rfl⟩ | exact (h trivial).elim
  · cases r <;> first | exact ⟨trivial, fun _ => rfl⟩ | exact (h trivial).elim

theorem told_ignores {reason : String} : (monitor ctx).IgnoresAt (told reason) (¬ Minds ·) :=
  fun _ h => ⟨h, fun _ => rfl⟩

theorem after_told {reason : String} (t : Trace) :
    (monitor ctx).after (told reason) t = told reason := by
  induction t with
  | nil => rfl
  | cons e t ih => exact ih

end Vigil

/-! ## Heeding -/

namespace Vigil

/-- A task fails without being told, or else with what it was told. -/
def Fails (e : Error) (v : Vigil) : Prop :=
  v = calm ∨ ∃ reason, v = told reason ∧ e = .cancelled reason

/-- The task fails if it is told of a cancellation, and passes it on as it is. -/
def Heeds (ctx : Context) (task : Attempt α) : Prop :=
  Task.wp (monitor ctx) task (fun _ v => v = calm) Fails calm

theorem not_minds_of_cleans {r : Engine.onSystem.Request} (h : Engine.Cleans r) : ¬ Minds r := by
  obtain r | r := r
  · cases r <;> first | exact h.elim | exact id
  · cases r <;> first | exact h.elim | exact id

/-- Cleaning up after a failure does not change what was told. -/
theorem Fails.clean {e : Error} {v : Vigil} {p : Action β} (h : Fails e v)
    (cleans : p.Only Engine.Cleans) : p.wp (monitor ctx) (fun _ => Fails e) v := by
  have deaf := cleans.mono fun _ => not_minds_of_cleans
  obtain rfl | ⟨reason, rfl, rfl⟩ := h
  · exact deaf.wp_at calm_ignores fun _ => .inl rfl
  · exact deaf.wp_at told_ignores fun _ => .inr ⟨reason, rfl, rfl⟩

namespace Heeds

variable {task : Attempt α} {f : α → Attempt β}

theorem pure (a : α) : Heeds ctx (pure a : Attempt α) := rfl

theorem throw (e : Error) : Heeds ctx (throw e : Attempt α) := .inl rfl

/-- A task that asks for nothing that could be cancelled. -/
theorem of_deaf (h : Task.Only (¬ Minds ·) task) : Heeds ctx task :=
  Prog.Only.wp_at h calm_ignores fun
    | .ok _ => rfl
    | .error _ => .inl rfl

theorem bind (h : Heeds ctx task) (hf : ∀ a, Heeds ctx (f a)) : Heeds ctx (task >>= f) := by
  apply Task.wp_seq h
  rintro a _ rfl
  exact hf a

theorem mapError {wrap : Error → Error} (h : Heeds ctx task)
    (passes : ∀ reason, wrap (.cancelled reason) = .cancelled reason) :
    Heeds ctx (task.mapError wrap) := by
  refine Task.wp_mapError.2 (Task.wp_weaken ?_ h)
  rintro e v (calm | ⟨reason, told, rfl⟩)
  · exact .inl calm
  · exact .inr ⟨reason, told, passes reason⟩

theorem onFailure {cleanup : Error → Action Unit} (h : Heeds ctx task)
    (cleans : ∀ e, (cleanup e).Only Engine.Cleans) : Heeds ctx (task.onFailure cleanup) :=
  Task.wp_onFailure.2 (Task.wp_weaken (fun e _ fails => fails.clean (cleans e)) h)

end Heeds

end Vigil

/-! ## Waiting -/

open Vigil (Heeds Minds)

namespace Context

theorem check_heeds (ctx : Context) : Heeds ctx ctx.check := by
  refine Task.wp_bind.2 (Task.wp_lift.2 ⟨trivial, fun flagSet => ?_⟩)
  -- The clock is read only if the flag is not set and there is a deadline.
  change Prog.wp _ _ _ (Vigil.ofFlag ctx ctx.token flagSet)
  cases flagSet with
  | true =>
    have told : Vigil.ofFlag ctx ctx.token true = .told Cause.cancelled.reason := by
      simp [Vigil.ofFlag]
    rw [told]
    exact .inr ⟨_, rfl, rfl⟩
  | false =>
    cases deadline : ctx.deadline with
    | none =>
      have calm : Vigil.ofFlag ctx ctx.token false = .calm := by simp [Vigil.ofFlag, deadline]
      rw [calm]
      exact Prog.wp_done.2 rfl
    | some d =>
      have asked : Vigil.ofFlag ctx ctx.token false = .asked := by simp [Vigil.ofFlag, deadline]
      rw [asked]
      refine ⟨trivial, fun now => Prog.wp_done.2 ?_⟩
      change Task.wp _ _ _ _ (Vigil.ofClock ctx now)
      by_cases late : d ≤ now
      · have told : Vigil.ofClock ctx now = .told Cause.deadline.reason := by
          simp [Vigil.ofClock, deadline, late]
        rw [if_pos late, told]
        exact .inr ⟨_, rfl, rfl⟩
      · have calm : Vigil.ofClock ctx now = .calm := by simp [Vigil.ofClock, deadline, late]
        rw [if_neg late, calm]
        exact Task.wp_pure.2 rfl

theorem sleepUntil_heeds (ctx : Context) (wake : Instant) (rounds : Nat) :
    Heeds ctx (ctx.sleepUntil wake rounds) := by
  induction rounds with
  | zero => trivial
  | succ rounds ih =>
    refine ctx.check_heeds.bind fun _ => ?_
    refine Heeds.bind (.of_deaf ⟨id, fun _ => trivial⟩) fun now => ?_
    split
    · exact .pure ()
    · exact Heeds.bind (.of_deaf ⟨id, fun _ => trivial⟩) fun _ => ih

theorem sleep_heeds (ctx : Context) (duration : Duration) (rounds : Nat) :
    Heeds ctx (ctx.sleep duration rounds) :=
  Heeds.bind (.of_deaf ⟨id, fun _ => trivial⟩) fun _ => ctx.sleepUntil_heeds _ rounds

end Context

namespace Collector

theorem start_heeds (ctx : Context) (container : String) : Heeds ctx (start ctx container) := by
  refine ctx.check_heeds.bind fun _ => ?_
  refine Heeds.bind (.of_deaf (Task.Only.mapError ⟨id, fun _ => trivial⟩)) fun running => ?_
  dsimp only
  split
  · exact .throw _
  · refine Heeds.bind (.of_deaf (Task.Only.mapError ⟨id, fun _ => trivial⟩)) fun stream => ?_
    exact Heeds.bind (.of_deaf ⟨id, fun _ => trivial⟩) fun _ => .pure _

end Collector

namespace Launch

theorem pollPort_heeds {name host : String} {hostPort containerPort : Port} {timeout : Duration}
    {started : Instant} (rounds : Nat) :
    Heeds ctx (pollPort pacing ctx name host hostPort containerPort timeout started rounds) := by
  induction rounds with
  | zero => trivial
  | succ rounds ih =>
    refine ctx.check_heeds.bind fun _ => ?_
    refine Heeds.bind (.of_deaf ⟨id, fun _ => trivial⟩) fun ready => ?_
    split
    · exact .pure ()
    refine Heeds.bind (.of_deaf ⟨id, fun _ => trivial⟩) fun running => ?_
    split
    · exact .throw _
    refine Heeds.bind (.of_deaf ⟨id, fun _ => trivial⟩) fun now => ?_
    dsimp only
    split
    · exact .throw _
    exact (ctx.sleep_heeds _ _).bind fun _ => ih

theorem awaitReady_heeds (request : LaunchRequest) :
    Heeds ctx (awaitReady pacing ctx request) := by
  refine Heeds.bind (.of_deaf ⟨id, fun _ => trivial⟩) fun host => ?_
  refine Heeds.bind (.of_deaf ⟨id, fun _ => trivial⟩) fun port => ?_
  have waits : Heeds ctx (waitForPort pacing ctx request.spec.name host port request.containerPort
      request.startupTimeout) :=
    Heeds.bind (.of_deaf ⟨id, fun _ => trivial⟩) fun _ => pollPort_heeds _
  refine waits.bind fun _ => ?_
  dsimp only
  split
  · have collects : Heeds ctx (some <$> collect ctx request.spec.name) := by
      rw [map_eq_pure_bind]
      refine Heeds.bind ?_ fun _ => .pure _
      refine (Collector.start_heeds _ _).bind fun c => ?_
      exact Heeds.bind (.of_deaf ⟨id, fun _ => trivial⟩) fun _ => .pure _
    exact collects.bind fun _ => .pure _
  · exact .pure _

end Launch

/-! ## Launching -/

theorem Engine.run_heeds (spec : ContainerSpec) : Heeds ctx (Engine.run ctx spec) := by
  refine Engine.run_wp.2 ⟨trivial, fun _ => rfl, ?_⟩
  intro e
  cases e with
  | cancelled reason => exact .inr ⟨reason, rfl, rfl⟩
  | _ => exact .inl rfl

theorem Engine.createNetwork_heeds (bounded : Context) (spec : NetworkSpec) :
    Heeds ctx (Engine.createNetwork bounded spec) := by
  refine Engine.createNetwork_wp.2 ⟨trivial, fun _ => rfl, ?_⟩
  intro e
  cases e with
  | cancelled reason => exact .inr ⟨reason, rfl, rfl⟩
  | _ => exact .inl rfl

theorem ReplicaSet.eval_heeds (container script : String) :
    Heeds ctx (ReplicaSet.eval ctx container script) := by
  refine ⟨trivial, forall_reply.2 ⟨fun _ => rfl, ?_⟩⟩
  intro e
  cases e with
  | cancelled reason => exact .inr ⟨reason, rfl, rfl⟩
  | _ => exact .inl rfl

theorem launch_heeds (request : LaunchRequest) : Heeds ctx (launch pacing ctx request) := by
  have runs : Heeds ctx (Engine.run ctx request.spec) := Engine.run_heeds _
  refine Heeds.bind (runs.onFailure fun _ => ⟨trivial, fun _ => trivial⟩) fun _ => ?_
  refine (Launch.awaitReady_heeds _).onFailure fun _ => ?_
  exact Prog.Only.bind ⟨trivial, fun _ => trivial⟩ fun _ => removeWithin_cleans _ _ _

theorem connect_heeds (address : Address) : Heeds ctx (connect address) :=
  .of_deaf (Task.Only.mapError ⟨id, fun _ => trivial⟩)

namespace Network

theorem create_heeds (name : String) : Heeds ctx (create ctx name) := by
  refine Heeds.mapError ?_ fun _ => rfl
  refine Heeds.bind (.of_deaf ⟨id, fun _ => trivial⟩) fun known => ?_
  dsimp only
  split
  · refine Heeds.bind (.of_deaf ⟨id, fun _ => trivial⟩) fun bounded => ?_
    exact (Engine.createNetwork_heeds _ _).bind fun _ => .pure _
  · exact .pure _

theorem createUnique_heeds (stem : String) : Heeds ctx (createUnique ctx stem) :=
  Heeds.bind (.of_deaf ⟨id, fun _ => trivial⟩) fun _ => create_heeds _

end Network

/-! ## Replica sets -/

namespace ReplicaSet

theorem unlessCancelled_cancelled (wrap : String → Error) (reason : String) :
    unlessCancelled wrap (.cancelled reason) = .cancelled reason := rfl

theorem initiate_heeds (base master : String) : Heeds ctx (initiate ctx base master) := by
  refine ((eval_heeds _ _).mapError (unlessCancelled_cancelled _)).bind fun out => ?_
  split
  · exact .throw _
  · exact .pure ()

theorem pollMaster_heeds {master : String} {started : Instant} (attempts rounds : Nat) :
    Heeds ctx (pollMaster pacing ctx master started attempts rounds) := by
  induction rounds generalizing attempts with
  | zero => trivial
  | succ rounds ih =>
    refine ((eval_heeds _ _).mapError (unlessCancelled_cancelled _)).bind fun out => ?_
    split
    · exact .pure ()
    refine Heeds.bind (.of_deaf ⟨id, fun _ => trivial⟩) fun now => ?_
    dsimp only
    split
    · exact .throw _
    exact (ctx.sleep_heeds _ _).bind fun _ => ih _

theorem verifyMaster_heeds (master : String) : Heeds ctx (verifyMaster pacing ctx master) :=
  Heeds.bind (.of_deaf ⟨id, fun _ => trivial⟩) fun _ => pollMaster_heeds _ _

/-- A question that fails counts as one in vain, but a cancelled one ends the poll. -/
theorem pollPrimary_heeds {observer : String} (attempts left : Nat) :
    Heeds ctx (pollPrimary pacing ctx observer attempts left) := by
  induction left generalizing attempts with
  | zero => exact Heeds.bind (.of_deaf ⟨id, fun _ => trivial⟩) fun _ => .pure _
  | succ left ih =>
    have again : Heeds ctx (do
        if 0 < left then ctx.sleep pacing.electionInterval pacing.rounds
        pollPrimary pacing ctx observer (attempts + 1) left) := by
      split
      · exact (ctx.sleep_heeds _ _).bind fun _ => ih _
      · exact ih _
    refine Task.wp_bind.2 (Task.wp_outcome.2 (Task.wp_mono ?_ ?_ (eval_heeds _ _)))
    · rintro out _ rfl
      dsimp only
      split
      · exact Heeds.pure _
      · exact again
    · rintro e v fails
      dsimp only
      split
      · exact Task.wp_throw.2 fails
      · next uncancelled =>
        -- An error that is no cancellation has come without being told of one.
        obtain rfl | ⟨reason, -, rfl⟩ := fails
        · exact again
        · exact absurd rfl uncancelled

theorem awaitPrimary_heeds (observer : String) : Heeds ctx (awaitPrimary pacing ctx observer) :=
  pollPrimary_heeds _ _

/-! ### Stages -/

/-- The stage heeds the context, whatever has been started before. -/
def Building.Heeds (ctx : Context) (b : Building α) : Prop :=
  ∀ p, Building.wp (Vigil.monitor ctx) b (fun _ _ v => v = .calm) (fun e _ => Vigil.Fails e) p
    .calm

theorem Building.Heeds.attempt {task : Attempt α} (h : Vigil.Heeds ctx task) :
    Building.Heeds ctx (attempt task) :=
  fun _ => Building.wp_attempt.2 h

theorem Building.Heeds.bind {b : Building α} {f : α → Building β} (h : Building.Heeds ctx b)
    (hf : ∀ a, Building.Heeds ctx (f a)) : Building.Heeds ctx (b >>= f) := by
  intro p
  apply Building.wp_seq (h p)
  rintro a p' _ rfl
  exact hf a p'

theorem reach_heeds (base : String) (stage : Stage) : Building.Heeds ctx (reach base stage) :=
  .attempt (.of_deaf ⟨id, fun _ => trivial⟩)

theorem obtainNetwork_heeds (o : ServiceOptions) :
    Building.Heeds ctx (obtainNetwork ctx o) := by
  unfold obtainNetwork
  split
  · exact fun _ => rfl
  · refine (Building.Heeds.attempt (Network.createUnique_heeds _)).bind fun network => ?_
    exact fun _ => rfl

theorem startMember_heeds (o : ServiceOptions) (network : String) (node : ReplicaNode) :
    Building.Heeds ctx (startMember pacing ctx o network node) := by
  refine (Building.Heeds.attempt (launch_heeds _)).bind fun service => ?_
  exact fun _ => rfl

theorem stages_heeds (o : ServiceOptions) : Building.Heeds ctx (stages pacing ctx o) := by
  refine (obtainNetwork_heeds o).bind fun network => ?_
  refine (reach_heeds _ _).bind fun _ => ?_
  refine (startMember_heeds o network .master).bind fun master => ?_
  refine (startMember_heeds o network .second).bind fun _ => ?_
  refine (startMember_heeds o network .third).bind fun _ => ?_
  refine (reach_heeds _ _).bind fun _ => ?_
  refine (reach_heeds _ _).bind fun _ => ?_
  refine (Building.Heeds.attempt (initiate_heeds _ _)).bind fun _ => ?_
  refine (reach_heeds _ _).bind fun _ => ?_
  refine (Building.Heeds.attempt (verifyMaster_heeds _)).bind fun _ => ?_
  refine (reach_heeds _ _).bind fun _ => ?_
  refine (Building.Heeds.attempt (awaitPrimary_heeds _)).bind fun _ => ?_
  refine (reach_heeds _ _).bind fun _ => ?_
  exact fun _ => rfl

theorem start_heeds (o : ServiceOptions) : Heeds ctx (start pacing ctx o) := by
  have notes : ∀ notice, Prog.Only (¬ Minds ·) (notify notice) := fun _ => ⟨id, fun _ => trivial⟩
  unfold start
  refine Task.wp_mk.2 ?_
  suffices booted : _ by
    split
    · exact Prog.wp_bind.2 ((notes _).wp_at Vigil.calm_ignores fun _ => booted)
    · exact booted
  apply Prog.wp_seq (stages_heeds o {})
  rintro ⟨e | set, p⟩ v h
  · have fails : Vigil.Fails e v := h
    have notes : Prog.Only Engine.Cleans (notify (.bootstrapFailed o.name)) :=
      ⟨trivial, fun _ => trivial⟩
    apply Prog.wp_seq (fails.clean notes)
    intro _ _ fails
    apply Prog.wp_seq (fails.clean (rollback_cleans _ _))
    intro _ _ fails
    exact fails
  · obtain rfl : v = .calm := h
    exact Prog.wp_bind.2 ((notes _).wp_at Vigil.calm_ignores fun _ => rfl)

end ReplicaSet

/-! ## Fixtures -/

theorem Cache.start_heeds (o : ServiceOptions) : Heeds ctx (Cache.start pacing ctx o) := by
  refine (launch_heeds _).bind fun service => ?_
  refine Heeds.bind ?_ fun _ => .pure _
  exact (connect_heeds _).onFailure fun _ => service.release_cleans _

theorem Database.start_heeds (o : ServiceOptions) : Heeds ctx (Database.start pacing ctx o) := by
  unfold start
  split
  · refine (ReplicaSet.start_heeds o).bind fun set => ?_
    refine Heeds.bind ((connect_heeds _).onFailure fun _ => ?_) fun _ => .pure _
    exact Prog.Only.bind (set.terminate_finishes _).only fun _ => trivial
  · have notes : Heeds ctx ((LaunchRequest.databaseNotice? o).forM
        fun notice => (notify notice : Action Unit) : Attempt Unit) := by
      cases LaunchRequest.databaseNotice? o with
      | none => exact .pure ()
      | some notice => exact .of_deaf ⟨id, fun _ => trivial⟩
    refine notes.bind fun _ => (launch_heeds _).bind fun service => ?_
    refine Heeds.bind ?_ fun _ => .pure _
    exact (connect_heeds _).onFailure fun _ => service.release_cleans _

namespace Broker

variable {o : BrokerOptions}

theorem obtainNetwork_heeds : Heeds ctx (obtainNetwork ctx o) := by
  unfold obtainNetwork
  split
  · exact .pure _
  · exact (Network.createUnique_heeds _).bind fun _ => .pure _

theorem obtainPort_heeds : Heeds ctx (obtainPort o) := by
  unfold obtainPort
  split
  · exact .pure _
  · refine Heeds.bind (.of_deaf ⟨id, fun _ => trivial⟩) fun port => ?_
    cases port with
    | ok port => exact .pure _
    | error reason => exact .throw _

theorem start_heeds : Heeds ctx (start pacing ctx o) := by
  refine obtainNetwork_heeds.bind fun ⟨networkName, network⟩ => ?_
  refine Heeds.onFailure ?_ fun _ => ?_
  · refine (launch_heeds _).bind fun coordinator => ?_
    refine Heeds.onFailure ?_ fun _ => coordinator.release_cleans _
    refine obtainPort_heeds.bind fun port => (launch_heeds _).bind fun broker => ?_
    refine Heeds.bind ?_ fun _ => .pure _
    exact (connect_heeds _).onFailure fun _ => broker.release_cleans _
  · cases network with
    | none => trivial
    | some network => exact Prog.Only.bind network.remove_cleans fun _ => trivial

end Broker

/-! ## Steps -/

namespace FixtureSet

variable {set : FixtureSet} {names : FixtureNames}

theorem startDatabase_heeds (draft : ServiceDraft) :
    Heeds ctx (set.startDatabase pacing ctx draft) := by
  refine Heeds.bind (.of_deaf (Task.Only.lift (ServiceDraft.build_only id _))) fun o => ?_
  exact (Database.start_heeds o).bind fun _ => .pure _

theorem enterNetwork_heeds (name : String) : Heeds ctx (set.enterNetwork ctx name) := by
  unfold enterNetwork
  split
  · exact .pure _
  · exact (Network.create_heeds _).bind fun _ => .pure _

theorem runStep_heeds (step : Step) : Heeds ctx (set.runStep pacing ctx names step) := by
  cases step with
  | network name => exact enterNetwork_heeds _
  | cache draft =>
    refine Heeds.bind (.of_deaf (Task.Only.lift (ServiceDraft.build_only id _))) fun o => ?_
    exact (Cache.start_heeds o).bind fun _ => .pure _
  | database draft => exact startDatabase_heeds _
  | replicatedDatabase draft => exact startDatabase_heeds _
  | broker draft =>
    refine Heeds.bind (.of_deaf (Task.Only.lift (BrokerDraft.build_only id _))) fun o => ?_
    exact Broker.start_heeds.bind fun _ => .pure _

/-- One of the steps failed with `e`: those before it are reported as provisioned, and those after
it as skipped. -/
def FailedAt (set set' : FixtureSet) (steps : List Step) (e : Error) : Prop :=
  ∃ done step rest, steps = done ++ step :: rest ∧
    set'.reports = set.reports ++ done.map (⟨·.role, .provisioned⟩) ++
      ⟨step.role, .failed e⟩ :: rest.map (⟨·.role, .skipped⟩) ∧
    set'.error = some (.setup step.role e)

/-- After a failure all steps are skipped. -/
theorem runSteps_skip {steps : List Step} (failed : set.error.isSome) :
    runSteps pacing ctx names set steps =
      pure { set with reports := set.reports ++ steps.map (⟨·.role, .skipped⟩) } := by
  induction steps generalizing set with
  | nil => simp [runSteps]
  | cons step steps ih =>
    have failed' : (set.report step.role .skipped).error.isSome := failed
    rw [runSteps, if_pos failed, ih failed']
    simp [report]

theorem runStep_keeps (step : Step) :
    Task.wp (Vigil.monitor ctx) (set.runStep pacing ctx names step)
      (fun set' v => v = .calm ∧ set'.reports = set.reports ∧ set'.error = set.error) Vigil.Fails
      .calm := by
  have grows : Task.wp Ledger.monitor (set.runStep pacing ctx names step)
      (fun set' _ => set'.reports = set.reports ∧ set'.error = set.error) (fun _ _ => True) {} := by
    refine Task.wp_mono ?_ (fun _ _ _ => trivial) runStep_advances
    rintro _ l ⟨g, -, rfl, -⟩
    exact ⟨rfl, rfl⟩
  exact Task.wp_and_result (runStep_heeds step) grows

/-- Whoever runs steps is told nothing, or the step that was told has failed with that. -/
theorem runSteps_failedAt {steps : List Step} (sound : set.error = none) :
    Prog.wp (Vigil.monitor ctx) (runSteps pacing ctx names set steps)
      (fun set' v => v = .calm ∨
        ∃ reason, v = .told reason ∧ set.FailedAt set' steps (.cancelled reason)) .calm := by
  induction steps generalizing set with
  | nil => exact .inl rfl
  | cons step steps ih =>
    unfold runSteps
    rw [if_neg (by simp [sound])]
    refine Task.wp_run_bind.2 (Task.wp_mono ?_ ?_ (runStep_keeps step))
    · rintro set' _ ⟨rfl, reports, error⟩
      have sound' : (set'.report step.role .provisioned).error = none := error.trans sound
      refine Prog.wp_mono ?_ (ih sound')
      rintro set'' v (calm | ⟨reason, told, done, step', rest, rfl, reports', error'⟩)
      · exact .inl calm
      · refine .inr ⟨reason, told, step :: done, step', rest, rfl, ?_, error'⟩
        rw [reports', report, reports]
        simp
    · intro e v fails
      have noted : Prog.Only Engine.Cleans (notify (.setupFailed step.role)) :=
        ⟨trivial, fun _ => trivial⟩
      apply Prog.wp_seq (fails.clean noted)
      intro _ v' fails'
      rw [runSteps_skip rfl]
      obtain rfl | ⟨reason, rfl, rfl⟩ := fails'
      · exact .inl rfl
      · exact .inr ⟨reason, rfl, [], step, steps, rfl, by simp [report], rfl⟩

theorem extend_failedAt (pacing : Pacing) (ctx : Context) (set : FixtureSet) (plan : Plan) :
    Prog.wp (Vigil.monitor ctx) (set.extend pacing ctx plan)
      (fun set' v => v = .calm ∨
        ∃ reason, v = .told reason ∧ set.FailedAt set' plan.steps (.cancelled reason)) .calm := by
  unfold extend
  split
  · have notes : Prog.Only (¬ Minds ·) (notify .setClosed) := ⟨id, fun _ => trivial⟩
    exact Prog.wp_bind.2 (notes.wp_at Vigil.calm_ignores fun _ => .inl rfl)
  · split
    · exact .inl rfl
    · next sound => exact runSteps_failedAt (by simpa using sound)

end FixtureSet

/-! ## Traces -/

namespace Context

/-- A check fails for the flag, or for the deadline. -/
inductive Fails (ctx : Context) : Trace → Error → Prop
  | cancelled : Fails ctx [⟨Sum.inr (.isCancelled ctx.token), true⟩] Cause.cancelled.error
  | deadline {d now : Instant} (has : ctx.deadline = some d) (late : d ≤ now) :
      Fails ctx [⟨Sum.inr (.isCancelled ctx.token), false⟩, ⟨Sum.inr .now, now⟩]
        Cause.deadline.error

theorem status_fails {t : Trace} {cause : Cause}
    (h : Prog.Yields (ctx.status : Action (Option Cause)) t (some cause)) :
    ctx.Fails t cause.error := by
  obtain ⟨s, u, flagSet, rfl, asked, rest⟩ := Prog.yields_bind.1 h
  cases asked with
  | ask flagSet returns =>
    cases returns
    cases flagSet with
    | true =>
      cases rest
      exact .cancelled
    | false =>
      cases has : ctx.deadline with
      | none =>
        simp only [has] at rest
        cases rest
      | some d =>
        simp only [has] at rest
        obtain ⟨v, w, now, rfl, read, returns⟩ := Prog.yields_bind.1 rest
        cases read with
        | ask now done =>
          cases done
          by_cases late : d ≤ now
          · rw [if_pos late] at returns
            cases returns
            exact .deadline has late
          · rw [if_neg late] at returns
            cases returns

theorem check_fails {t : Trace} {e : Error}
    (h : Prog.Yields (ctx.check : Attempt Unit).run t (.error e)) : ctx.Fails t e := by
  obtain ⟨s, u, r, rfl, looked, rest⟩ := Prog.yields_bind.1 h
  cases r with
  | error e =>
    obtain ⟨_, _, _, -, -, returns⟩ := Prog.yields_bind.1 looked
    cases returns
  | ok cause =>
    have looked := Task.yields_lift looked
    cases cause with
    | none => cases rest
    | some cause =>
      cases rest
      rw [List.append_nil]
      exact status_fails looked

theorem sleepUntil_fails {wake : Instant} {rounds : Nat} {t : Trace} {e : Error}
    (h : Prog.Yields (ctx.sleepUntil wake rounds : Attempt Unit).run t (.error e)) :
    ∃ s u, t = s ++ u ∧ Prog.Yields (ctx.check : Attempt Unit).run u (.error e) := by
  induction rounds generalizing t with
  | zero => cases h
  | succ rounds ih =>
    rcases Task.yields_bind_error h with checked | ⟨s, u, _, rfl, -, rest⟩
    · exact ⟨[], t, rfl, checked⟩
    rcases Task.yields_bind_error rest with failed | ⟨v, w, now, rfl, -, rest⟩
    · cases failed with
      | ask now returns => cases returns
    split at rest
    · cases rest
    rcases Task.yields_bind_error rest with failed | ⟨x, y, _, rfl, -, rest⟩
    · cases failed with
      | ask _ returns => cases returns
    obtain ⟨y, z, rfl, checked⟩ := ih rest
    exact ⟨s ++ (v ++ (x ++ y)), z, by simp, checked⟩

theorem sleep_fails {duration : Duration} {rounds : Nat} {t : Trace} {e : Error}
    (h : Prog.Yields (ctx.sleep duration rounds : Attempt Unit).run t (.error e)) :
    ∃ s u, t = s ++ u ∧ Prog.Yields (ctx.check : Attempt Unit).run u (.error e) := by
  rcases Task.yields_bind_error h with failed | ⟨s, u, start, rfl, -, rest⟩
  · cases failed with
    | ask start returns => cases returns
  · obtain ⟨v, w, rfl, checked⟩ := sleepUntil_fails rest
    exact ⟨s ++ v, w, (List.append_assoc _ _ _).symm, checked⟩

end Context

namespace Vigil

/-- Before a request that minds it, nothing has been told. -/
theorem after_minding {s u : Trace} {e : Prog.Event Engine.onSystem}
    (accepts : (monitor ctx).Accepts calm (s ++ e :: u)) (minds : Minds e.request) :
    (monitor ctx).after calm (s ++ [e]) = listen ctx e := by
  have allowed := accepts.allows
  rw [Monitor.after_append]
  cases heard : (monitor ctx).after calm s with
  | calm => rfl
  | asked =>
    -- Only a reading of the clock would mean something else here.
    obtain ⟨r | r, b⟩ := e
    · rfl
    · cases r <;> first | rfl | exact minds.elim
  | told reason =>
    rw [heard] at allowed
    exact absurd minds allowed

theorem after_told_append {s : Trace} {reason : String} (u : Trace)
    (told : (monitor ctx).after calm s = .told reason) :
    (monitor ctx).after calm (s ++ u) = .told reason := by
  rw [Monitor.after_append, told, after_told]

theorem after_event {s u : Trace} {e : Prog.Event Engine.onSystem} {reason : String}
    (accepts : (monitor ctx).Accepts calm (s ++ e :: u)) (minds : Minds e.request)
    (tells : listen ctx e = told reason) :
    (monitor ctx).after calm (s ++ e :: u) = told reason := by
  rw [List.append_cons]
  exact after_told_append u ((after_minding accepts minds).trans tells)

/-- A check that fails tells why. -/
theorem after_check {s w u : Trace} {e : Error} (h : ctx.Fails w e)
    (accepts : (monitor ctx).Accepts calm (s ++ w ++ u)) :
    ∃ reason, (monitor ctx).after calm (s ++ w ++ u) = told reason ∧ e = .cancelled reason := by
  rw [List.append_assoc] at accepts
  cases h with
  | cancelled =>
    refine ⟨_, after_told_append u ((after_minding accepts trivial).trans ?_), rfl⟩
    simp [listen, ofFlag]
  | @deadline d now has late =>
    have asks : (monitor ctx).after calm (s ++ [⟨Sum.inr (.isCancelled ctx.token), false⟩]) =
        asked := by
      rw [after_minding accepts trivial]
      simp [listen, ofFlag, has]
    refine ⟨_, after_told_append u ?_, rfl⟩
    rw [List.append_cons, Monitor.after_append, asks]
    change ofClock ctx now = _
    simp [ofClock, has, late]

end Vigil

theorem Trace.Tells.after {t : Trace} {e : Error} (h : t.Tells ctx e)
    (accepts : (Vigil.monitor ctx).Accepts .calm t) :
    ∃ reason, (Vigil.monitor ctx).after .calm t = .told reason ∧ e = .cancelled reason := by
  cases h with
  | run => exact ⟨_, Vigil.after_event accepts trivial rfl, rfl⟩
  | createNetwork => exact ⟨_, Vigil.after_event accepts trivial rfl, rfl⟩
  | exec => exact ⟨_, Vigil.after_event accepts trivial rfl, rfl⟩
  | check h => exact Vigil.after_check (Context.check_fails h) accepts
  | @sleep s _ u _ _ _ h =>
    -- A sleep fails in one of its checks, and then it ends.
    obtain ⟨v, w, rfl, checked⟩ := Context.sleep_fails h
    rw [← List.append_assoc] at accepts ⊢
    exact Vigil.after_check (Context.check_fails checked) accepts

/-- What a step is told of a cancellation is what it fails with. -/
theorem FixtureSet.runStep_told {set : FixtureSet} {names : FixtureNames} {step : Step} {t : Trace}
    {r : Except Error FixtureSet} {e : Error}
    (ht : Prog.Yields (set.runStep pacing ctx names step).run t r) (told : t.Tells ctx e) :
    r = .error e := by
  have heeds : Heeds ctx (set.runStep pacing ctx names step) := runStep_heeds step
  obtain ⟨reason, after, rfl⟩ := told.after (Prog.wp_reaches heeds ht.reaches)
  have ends := Prog.wp_yields heeds ht
  rw [after] at ends
  cases r with
  | ok set' => cases ends
  | error e =>
    obtain calm | ⟨reason', same, rfl⟩ := ends
    · cases calm
    · cases same
      rfl

/-- What a plan is told of a cancellation is what its failed step is reported with. -/
theorem FixtureSet.extend_told_failedAt {set set' : FixtureSet} {plan : Plan} {t : Trace}
    {e : Error} (ht : Prog.Yields (set.extend pacing ctx plan) t set') (told : t.Tells ctx e) :
    set.FailedAt set' plan.steps e := by
  have runs := extend_failedAt pacing ctx set plan
  obtain ⟨reason, after, rfl⟩ := told.after (Prog.wp_reaches runs ht.reaches)
  have ends := Prog.wp_yields runs ht
  rw [after] at ends
  obtain calm | ⟨reason', same, failed⟩ := ends
  · cases calm
  · cases same
    exact failed

end Testbed
