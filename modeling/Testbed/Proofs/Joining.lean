import Testbed.Proofs.Extension
import Testbed.Proofs.Requests

/-!
# Joining the network of a set

Whatever networks the options of a step list, its containers join the network that the set entered
last. To say so of a run of many plans, a request in it is traced back to the step that makes it and
to the steps that were provisioned before.
-/

namespace Testbed

open Conduct (Free)

/-! ## Turns -/

/-- One step of a plan, with what it is run with. -/
structure Turn where
  ctx : Context
  names : FixtureNames
  step : Step

namespace Turn

/-- Runs the step. -/
def run (turn : Turn) (pacing : Pacing) (set : FixtureSet) : Attempt FixtureSet :=
  set.runStep pacing turn.ctx turn.names turn.step

/-- The network that the step enters. -/
def network? (turn : Turn) : Option String :=
  turn.step.networkName? turn.names

/-- The network entered last. -/
def latestNetwork (turns : List Turn) : Option String :=
  (turns.filterMap network?).getLast?

theorem latestNetwork_append (turns : List Turn) (turn : Turn) :
    latestNetwork (turns ++ [turn]) = turn.network?.or (latestNetwork turns) := by
  cases entered : turn.network? <;> simp [latestNetwork, entered]

end Turn

open Turn (latestNetwork)

namespace FixtureSet

variable {pacing : Pacing} {ctx : Context} {names : FixtureNames} {set set' : FixtureSet}
  {t u : Trace} {e : Prog.Event Engine.onSystem} {earlier : List Turn}

/-- The steps of a use, in order. -/
def Use.turns : Use → List Turn
  | .extend ctx plan => plan.steps.map (⟨ctx, plan.names, ·⟩)
  | .close => []

/-- A new set has become `set`: each of the turns was run on what the turns before it had left, and
succeeded. -/
inductive Provisioned (pacing : Pacing) : List Turn → Trace → FixtureSet → Prop
  | new : Provisioned pacing [] [] {}
  | next {turns : List Turn} {s u : Trace} {set set' : FixtureSet} {turn : Turn}
      (done : Provisioned pacing turns s set)
      (runs : Prog.Yields (turn.run pacing set).run u (.ok set')) :
      Provisioned pacing (turns ++ [turn]) (s ++ u) (set'.report turn.step.role .provisioned)

/-- The event comes after the trace `t` in the turn `turn`, and the turns `earlier` were provisioned
before it. -/
def ComesIn (pacing : Pacing) (earlier : List Turn) (turn : Turn) (t : Trace)
    (e : Prog.Event Engine.onSystem) : Prop :=
  ∃ s u set, t = s ++ u ∧ Provisioned pacing earlier s set ∧
    Prog.Reaches (turn.run pacing set).run (u ++ [e])

/-! ## The current network -/

theorem startDatabase_networks {d : ServiceDraft}
    (h : Prog.Yields (set.startDatabase pacing ctx d).run t (.ok set')) :
    set'.networks = set.networks := by
  obtain ⟨_, _, o, -, -, rest⟩ := Task.yields_bind h
  obtain ⟨_, _, database, -, -, returns⟩ := Task.yields_bind rest
  cases returns
  rfl

/-- A step that enters a network makes it the current one, even if it was the current one before.
No other step touches the networks. -/
theorem runStep_networkName {step : Step}
    (h : Prog.Yields (set.runStep pacing ctx names step).run t (.ok set')) :
    set'.networkName = (step.networkName? names).or set.networkName := by
  cases step with
  | network name =>
    change Prog.Yields (set.enterNetwork ctx _).run t (.ok set') at h
    unfold enterNetwork at h
    split at h
    · next current =>
      cases h
      exact current
    · obtain ⟨_, _, network, -, created, returns⟩ := Task.yields_bind h
      cases returns
      obtain ⟨rfl, -⟩ := Prog.wp_yields (Network.create_gained (l := {})) created
      simp [networkName, Step.networkName?]
  | database draft => exact congrArg (·.getLast?.map (·.name)) (startDatabase_networks h)
  | replicatedDatabase draft => exact congrArg (·.getLast?.map (·.name)) (startDatabase_networks h)
  | _ =>
    obtain ⟨_, _, o, -, -, rest⟩ := Task.yields_bind h
    obtain ⟨_, _, fixture, -, -, returns⟩ := Task.yields_bind rest
    cases returns
    rfl

theorem runStep_error {step : Step}
    (h : Prog.Yields (set.runStep pacing ctx names step).run t (.ok set')) :
    set'.error = set.error := by
  obtain ⟨g, -, rfl, -⟩ := Prog.wp_yields (runStep_advances (l := {})) h
  rfl

namespace Provisioned

/-- Turns that have all succeeded leave an open set, whose current network is the one that was
entered last. -/
theorem networkName (h : Provisioned pacing earlier t set) :
    set.networkName = latestNetwork earlier := by
  induction h with
  | new => rfl
  | @next turns s u set set' turn done runs ih =>
    rw [Turn.latestNetwork_append, ← ih]
    have current : set'.networkName = turn.network?.or set.networkName := runStep_networkName runs
    exact current

theorem error (h : Provisioned pacing earlier t set) : set.error = none := by
  induction h with
  | new => rfl
  | next done runs ih => exact (runStep_error runs).trans ih

theorem closed (h : Provisioned pacing earlier t set) : set.closed = false := by
  induction h with
  | new => rfl
  | next done runs ih => exact (runStep_closed runs).trans ih

/-- Such a set takes a plan as it comes. -/
theorem extend_eq (h : Provisioned pacing earlier t set) (plan : Plan) :
    set.extend pacing ctx plan = runSteps pacing ctx plan.names set plan.steps := by
  simp [extend, h.error, h.closed]

end Provisioned

/-! ## Tracing requests back -/

/-- A set that has failed or is closed. -/
def Ended (set : FixtureSet) : Prop :=
  set.error.isSome ∨ set.closed = true

/-- Such a set starts no container and asks for no network. -/
theorem Ended.use_free (h : set.Ended) (use : Use) : Prog.Only Free (set.use pacing use) := by
  cases use with
  | extend ctx plan =>
    refine (extend_atSystem h).mono ?_
    rintro (r | r) right
    · cases right
    · trivial
  | close => exact (close_finishes pacing set).only.mono fun _ => Free.of_closes

theorem Ended.use {use : Use} (h : set.Ended) (ht : Prog.Yields (set.use pacing use) t set') :
    set'.Ended := by
  cases use with
  | extend ctx plan => rwa [extend_eq_self h ht]
  | close => exact .inr (close_result ht).1

theorem Ended.useAll_free {uses : List Use} (h : set.Ended)
    (ht : Prog.Reaches (set.useAll pacing uses) t) : ∀ e ∈ t, Free e.request := by
  induction uses generalizing set t with
  | nil =>
    cases ht
    simp
  | cons use uses ih =>
    rcases Prog.reaches_bind.1 ht with early | ⟨s, u, set', rfl, used, rest⟩
    · exact (h.use_free use).reaches early
    · intro e hmem
      rcases List.mem_append.1 hmem with hmem | hmem
      · exact (h.use_free use).reaches used.reaches e hmem
      · exact ih (h.use used) rest e hmem

/-- Steps that all succeed are provisioned one by one. -/
theorem Provisioned.runSteps {steps : List Step} (done : Provisioned pacing earlier t set)
    (sound : set'.error = none)
    (h : Prog.Yields (set.runSteps pacing ctx names steps) u set') :
    Provisioned pacing (earlier ++ steps.map (⟨ctx, names, ·⟩)) (t ++ u) set' := by
  induction steps generalizing earlier set t u with
  | nil =>
    cases h
    simpa using done
  | cons step steps ih =>
    unfold FixtureSet.runSteps at h
    rw [if_neg (by simp [done.error])] at h
    obtain ⟨v, w, outcome, rfl, runs, rest⟩ := Prog.yields_bind.1 h
    cases outcome with
    | ok set₁ =>
      have done' : Provisioned pacing (earlier ++ [⟨ctx, names, step⟩]) (t ++ v)
          (set₁.report step.role .provisioned) := done.next runs
      simpa using ih done' rest
    | error e =>
      -- The error would have stayed.
      obtain ⟨_, _, _, -, -, rest⟩ := Prog.yields_bind.1 rest
      exact absurd (runSteps_error rfl rest) (by simp [sound])

/-- A request that steps make is free, or one of the steps makes it. -/
theorem runSteps_comesIn {steps : List Step} (done : Provisioned pacing earlier t set)
    (h : Prog.Reaches (set.runSteps pacing ctx names steps) (u ++ [e])) :
    Free e.request ∨ ∃ before turn, before ++ [turn] <+: steps.map (⟨ctx, names, ·⟩) ∧
      ComesIn pacing (earlier ++ before) turn (t ++ u) e := by
  induction steps generalizing earlier set t u with
  | nil =>
    have quiet : Prog.Only (fun _ => False) (set.runSteps pacing ctx names []) := trivial
    exact (quiet.reaches h e (by simp)).elim
  | cons step steps ih =>
    unfold runSteps at h
    rw [if_neg (by simp [done.error])] at h
    rcases Prog.reaches_bind_last h with now | ⟨v, w, outcome, rfl, runs, rest⟩
    · exact .inr ⟨[], ⟨ctx, names, step⟩, by simp, t, u, set, rfl, by simpa using done, now⟩
    · cases outcome with
      | ok set₁ =>
        have done' : Provisioned pacing (earlier ++ [⟨ctx, names, step⟩]) (t ++ v)
            (set₁.report step.role .provisioned) := done.next runs
        refine (ih done' rest).imp_right ?_
        rintro ⟨before, turn, among, comes⟩
        refine ⟨⟨ctx, names, step⟩ :: before, turn, by simpa using among, ?_⟩
        simpa using comes
      | error cause =>
        -- What is left is to tell of the failure and to skip the other steps.
        have quiet : Prog.Only Free (do
            notify (.setupFailed step.role)
            runSteps pacing ctx names
              { set.report step.role (.failed cause) with
                error := some (.setup step.role cause) } steps) := by
          refine Prog.Only.bind ⟨trivial, fun _ => trivial⟩ fun _ => ?_
          rw [runSteps_skip rfl]
          trivial
        exact .inl (quiet.reaches rest e (by simp))

/-- A request made in using a set is free, or one of the steps makes it, with only provisioned steps
before it. -/
theorem useAll_comesIn {uses : List Use} (done : Provisioned pacing earlier t set)
    (h : Prog.Reaches (set.useAll pacing uses) (u ++ [e])) :
    Free e.request ∨ ∃ before turn, before ++ [turn] <+: uses.flatMap Use.turns ∧
      ComesIn pacing (earlier ++ before) turn (t ++ u) e := by
  induction uses generalizing earlier set t u with
  | nil =>
    have quiet : Prog.Only (fun _ => False) (set.useAll pacing []) := trivial
    exact (quiet.reaches h e (by simp)).elim
  | cons use uses ih =>
    rcases Prog.reaches_bind_last h with now | ⟨v, w, set₁, rfl, used, rest⟩
    · cases use with
      | extend ctx plan =>
        change Prog.Reaches (set.extend pacing ctx plan) _ at now
        rw [done.extend_eq] at now
        refine (runSteps_comesIn done now).imp_right ?_
        rintro ⟨before, turn, among, comes⟩
        exact ⟨before, turn, among.trans (List.prefix_append _ _), comes⟩
      | close =>
        have quiet := (close_finishes pacing set).only.mono fun _ => Free.of_closes
        exact .inl (quiet.reaches now e (by simp))
    · -- Only a set that has not failed and is not closed makes anything of what follows.
      by_cases ended : set₁.Ended
      · exact .inl (ended.useAll_free rest e (by simp))
      · obtain ⟨sound, opened⟩ := not_or.1 ended
        cases use with
        | extend ctx plan =>
          change Prog.Yields (set.extend pacing ctx plan) _ _ at used
          rw [done.extend_eq] at used
          refine (ih (done.runSteps (by simpa using sound) used) rest).imp_right ?_
          rintro ⟨before, turn, among, comes⟩
          refine ⟨plan.steps.map (⟨ctx, plan.names, ·⟩) ++ before, turn, ?_, by simpa using comes⟩
          rw [List.flatMap_cons, List.append_assoc]
          exact (List.prefix_append_right_inj _).2 among
        | close => exact absurd (close_result used).1 opened

/-! ## Joining -/

/-- Whatever plans are run on a set, each container that is asked for and each network that is
looked for or made belongs to the turn of one step, with only provisioned steps before it. If one of
these has entered a network, the container joins the network that was entered last and no other,
whatever networks its options list; and the network belongs to a step that enters it. -/
theorem everyone_joins_the_network (pacing : Pacing) (uses : List Use) (t : Trace)
    (e : Prog.Event Engine.onSystem)
    (h : Prog.Reaches (useAll pacing {} uses) (t ++ [e])) (asks : ¬ Free e.request) :
    (∃ earlier turn, earlier ++ [turn] <+: uses.flatMap Use.turns ∧
      ComesIn pacing earlier turn t e) ∧
    ∀ earlier turn, ComesIn pacing earlier turn t e →
      ∀ network, latestNetwork earlier = some network →
        (∀ ctx spec b, e = Engine.event (.run ctx spec) b → spec.networks = [network]) ∧
        (∀ ctx spec b, e = Engine.event (.createNetwork ctx spec) b →
          turn.network? = some spec.name) := by
  constructor
  · rcases useAll_comesIn .new h with free | ⟨earlier, turn, among, comes⟩
    · exact absurd free asks
    · exact ⟨earlier, turn, among, by simpa using comes⟩
  · rintro earlier turn ⟨s, u, set, rfl, done, now⟩ network entered
    have current : set.networkName = some network := done.networkName.trans entered
    have asked := runStep_wants now e (by simp)
    refine ⟨?_, ?_⟩
    · rintro ctx spec b rfl
      exact asked.networks network current
    · rintro ctx spec b rfl
      exact asked.resolve_left (by simp [current])

/-- A cache whose options list another network than that of the set. -/
def elsewhereCache : ServiceDraft :=
  ServiceDraft.setAll { family := .redis } [.name "sessions", .networks ["elsewhere"]]

/-- The network of the set is there, and is adopted. -/
def adoption : Trace := [Engine.event (.networkExists "test-network") (.ok true)]

/-- The cache joins that network. -/
theorem cache_joins_adopted_network :
    let ctx : Context := ⟨⟨0⟩, none⟩
    let uses : List Use := [.extend ctx { steps := [.network none, .cache (some elsewhereCache)] }]
    let spec : ContainerSpec := (LaunchRequest.cache
      ((elsewhereCache.set (.networks ["test-network"])).named "sessions")).spec
    let starts : Prog.Event Engine.onSystem := Engine.event (.run ctx spec) (.ok ())
    Prog.Reaches (useAll {} {} uses) (adoption ++ [starts]) ∧
      (∃ earlier turn, earlier ++ [turn] <+: uses.flatMap Use.turns ∧
        ComesIn {} earlier turn adoption starts) ∧
      spec.networks = ["test-network"] := by
  intro ctx uses spec starts
  have reaches : Prog.Reaches (useAll {} {} uses) (adoption ++ [starts]) :=
    .ask _ (.ask _ (.start _))
  have joins := everyone_joins_the_network {} uses adoption starts reaches id
  have comes : ComesIn {} [⟨ctx, {}, .network none⟩] ⟨ctx, {}, .cache (some elsewhereCache)⟩
      adoption starts :=
    ⟨adoption, [], _, rfl, .next .new (.ask _ (.done _)), .ask _ (.start _)⟩
  exact ⟨reaches, joins.1, (joins.2 _ _ comes _ rfl).1 _ _ _ rfl⟩

end FixtureSet

end Testbed
