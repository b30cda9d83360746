import Testbed.Proofs.Joining
import Testbed.Proofs.Scenes

/-!
# Adopted networks

A network that a plan enters is adopted if it is there already, and goes with the set like one that
the set has created. All other networks stay.
-/

namespace Testbed

open Ledger (monitor monitor_ignores)
open Simulation (Scene)

/-! ## Networks of a trace -/

namespace Deed

variable {e : Prog.Event Engine.onSystem} {network : String}

/-- A network is left by being told to go. -/
theorem of?_left (h : of? e = some (left network)) :
    ∃ b, e = Engine.event (.removeNetwork network) b := by
  unfold of? at h
  split at h <;> cases h
  exact ⟨_, rfl⟩

/-- A network is joined by being found or created. -/
theorem of?_joined (h : of? e = some (joined network)) :
    (∃ b, e = Engine.event (.networkExists network) b) ∨
      ∃ ctx spec b, spec.name = network ∧ e = Engine.event (.createNetwork ctx spec) b := by
  unfold of? at h
  split at h <;> cases h
  · exact .inl ⟨_, rfl⟩
  · exact .inr ⟨_, _, _, rfl, rfl⟩

end Deed

namespace Trace

variable {t : Trace} {network : String}

/-- The name of the network is made up of a stem and a suffix that is drawn. -/
def MakesUp (t : Trace) (network : String) : Prop :=
  ∃ stem, ∃ suffix ∈ t.drawn, network = stem ++ "-" ++ suffix

/-- A deed is done by some request of the trace. -/
theorem exists_of_mem_deeds {d : Deed} (h : d ∈ t.deeds) :
    ∃ s u e, t = s ++ e :: u ∧ Deed.of? e = some d := by
  obtain ⟨e, hmem, deed⟩ := List.mem_filterMap.1 h
  obtain ⟨s, u, rfl⟩ := List.append_of_mem hmem
  exact ⟨s, u, e, rfl, deed⟩

theorem exists_of_mem_left (h : network ∈ t.left) :
    ∃ s u b, t = s ++ Engine.event (.removeNetwork network) b :: u := by
  obtain ⟨d, done, left⟩ := List.mem_filterMap.1 h
  obtain ⟨s, u, e, rfl, deed⟩ := exists_of_mem_deeds done
  obtain rfl := Deed.eq_left left
  obtain ⟨b, rfl⟩ := Deed.of?_left deed
  exact ⟨s, u, b, rfl⟩

theorem exists_of_mem_joined (h : network ∈ t.joined) :
    (∃ s u b, t = s ++ Engine.event (.networkExists network) b :: u) ∨
      ∃ s u ctx spec b, spec.name = network ∧
        t = s ++ Engine.event (.createNetwork ctx spec) b :: u := by
  obtain ⟨d, done, joined⟩ := List.mem_filterMap.1 h
  obtain ⟨s, u, e, rfl, deed⟩ := exists_of_mem_deeds done
  obtain rfl := Deed.eq_joined joined
  obtain ⟨b, rfl⟩ | ⟨ctx, spec, b, name, rfl⟩ := Deed.of?_joined deed
  · exact .inl ⟨s, u, b, rfl⟩
  · exact .inr ⟨s, u, ctx, spec, b, name, rfl⟩

end Trace

/-- What is found or created goes by a known name. -/
theorem Conduct.knows_joined {c : Conduct} {t : Trace} {network : String}
    (h : c.monitor.Accepts [] t) (joined : network ∈ t.joined) : c.Knows t.drawn network := by
  have known : ∃ s u, t = s ++ u ∧ c.Knows s.drawn network := by
    obtain ⟨s, u, b, rfl⟩ | ⟨s, u, ctx, spec, b, rfl, rfl⟩ := Trace.exists_of_mem_joined joined
    · have allowed : c.Knows (c.monitor.after [] s) network := h.allows
      rw [drawn_after, List.nil_append] at allowed
      exact ⟨s, _, rfl, allowed⟩
    · have allowed : c.uses ctx ∧ c.Knows (c.monitor.after [] s) spec.name := h.allows
      rw [drawn_after, List.nil_append] at allowed
      exact ⟨s, _, rfl, allowed.2⟩
  obtain ⟨s, u, rfl, known⟩ := known
  have drawn : Trace.drawn (s ++ u) = s.drawn ++ u.drawn := List.filterMap_append
  exact drawn ▸ known.later u.drawn

/-! ## Reports about networks -/

/-- The report is about the step, and if the step was provisioned, the network that it enters has
been joined in the trace. -/
structure Turn.Reported (t : Trace) (turn : Turn) (report : StepReport) : Prop where
  role : report.role = turn.step.role
  joined : report.status = .provisioned → ∀ network ∈ turn.network?, network ∈ t.joined

namespace Turn.Reported

variable {t : Trace} {turn : Turn}

theorem of_ne {status : StepStatus} (h : status ≠ .provisioned) :
    turn.Reported t ⟨turn.step.role, status⟩ where
  role := rfl
  joined := fun provisioned => absurd provisioned h

theorem later {report : StepReport} (h : turn.Reported t report) (u : Trace) :
    turn.Reported (t ++ u) report where
  role := h.role
  joined := fun provisioned network enters => by
    rw [Trace.joined_append]
    exact List.mem_append_left _ (h.joined provisioned network enters)

end Turn.Reported

namespace FixtureSet

/-- The networks that a use enters. -/
def Use.networkNames : Use → List String
  | .extend _ plan => plan.networkNames
  | .close => []

variable {pacing : Pacing} {ctx : Context} {names : FixtureNames} {set set' : FixtureSet}
  {uses : List Use} {t u : Trace} {turns : List Turn}

theorem useAll_enters {network : String} (ht : Prog.Reaches (useAll pacing {} uses) t)
    (h : network ∈ t.joined) : network ∈ uses.flatMap (·.networkNames) ∨ t.MakesUp network := by
  have keeps : ∀ use ∈ uses, use.Keeps (Conduct.within (uses.flatMap (·.networkNames))) := by
    intro use hmem
    cases use with
    | extend ctx plan =>
      exact ⟨trivial, fun name hname => List.mem_flatMap.2 ⟨.extend ctx plan, hmem, hname⟩⟩
    | close => trivial
  have governed : (Conduct.within _).Governs (useAll pacing {} uses) := useAll_governed keeps
  exact Conduct.knows_joined (Prog.wp_reaches (governed []) ht) h

/-- The reports of a set are about these turns, and its books are those of the trace. -/
structure Reports (set : FixtureSet) (turns : List Turn) (t : Trace) : Prop where
  backed : set.Backed (monitor.after {} t)
  reported : List.Forall₂ (Turn.Reported t) turns set.reports

theorem Reports.new : Reports {} [] [] := ⟨.new, .nil⟩

namespace Reports

variable {turn : Turn} {report : StepReport} {e : Error}

/-- One more turn is reported. -/
theorem follow (h : set.Reports turns t) (backed : set'.Backed (monitor.after {} (t ++ u)))
    (follows : set'.reports = set.reports ++ [report]) (reported : turn.Reported (t ++ u) report) :
    set'.Reports (turns ++ [turn]) (t ++ u) where
  backed := backed
  reported := by
    rw [follows]
    exact List.rel_append (h.reported.imp fun _ _ reported => reported.later u)
      (.cons reported .nil)

theorem skip (h : set.Reports turns t) :
    (set.report turn.step.role .skipped).Reports (turns ++ [turn]) t where
  backed := h.backed.note _ _
  reported := List.rel_append h.reported (.cons (.of_ne (by simp)) .nil)

theorem provision (h : set.Reports turns t) (opened : set.closed = false)
    (runs : Prog.Yields (turn.run pacing set).run u (.ok set')) :
    (set'.report turn.step.role .provisioned).Reports (turns ++ [turn]) (t ++ u) := by
  have advanced := Prog.wp_yields (runStep_advances (l := monitor.after {} t)) runs
  rw [← Monitor.after_append] at advanced
  have backed : set'.Backed (monitor.after {} (t ++ u)) := h.backed.advance opened advanced
  -- The network that the step enters is the current one now, so it has been joined.
  have joined : ∀ network ∈ turn.network?, network ∈ (t ++ u).joined := by
    intro network enters
    have current : set'.networkName = some network := by
      refine (runStep_networkName runs).trans ?_
      exact congrArg (·.or set.networkName) enters
    simpa [Ledger.joined_after] using backed.joined current
  exact h.follow (backed.note _ _) (provisioned_follows runs).reports ⟨rfl, fun _ => joined⟩

/-- A step that fails is undone, and nothing is due for the notice of it. -/
theorem fail {v : Trace} {notice : Notice} {a : Unit} (h : set.Reports turns t)
    (runs : Prog.Yields (turn.run pacing set).run u (.error e))
    (notes : Prog.Yields (notify notice : Action Unit) v a) (error : Option Error) :
    Reports { set.report turn.step.role (.failed e) with error } (turns ++ [turn])
      (t ++ (u ++ v)) := by
  obtain ⟨entered, undone⟩ := Prog.wp_yields (runStep_advances (l := monitor.after {} t)) runs
  have backed : set.Backed (monitor.after {} (t ++ (u ++ v))) := by
    rw [← List.append_assoc, Monitor.after_append, Monitor.after_append]
    exact Prog.wp_yields (Q := fun _ => set.Backed)
      ((System.ask_idle (.notify notice)).wp monitor_ignores fun _ => h.backed.undone undone) notes
  have told : turn.Reported (t ++ (u ++ v)) ⟨turn.step.role, .failed e⟩ := .of_ne (by simp)
  exact h.follow (backed.note _ _) rfl told

end Reports

theorem runSteps_reports {steps : List Step} (opened : set.closed = false)
    (h : set.Reports turns t) (hu : Prog.Yields (set.runSteps pacing ctx names steps) u set') :
    set'.Reports (turns ++ steps.map (⟨ctx, names, ·⟩)) (t ++ u) := by
  induction steps generalizing set turns t u with
  | nil =>
    cases hu
    simpa using h
  | cons step steps ih =>
    rw [List.map_cons, List.append_cons]
    unfold runSteps at hu
    split at hu
    · refine ih ?_ h.skip hu
      exact opened
    · obtain ⟨v, w, outcome, rfl, runs, rest⟩ := Prog.yields_bind.1 hu
      change Prog.Yields (Turn.run ⟨ctx, names, step⟩ pacing set).run v outcome at runs
      rw [← List.append_assoc]
      cases outcome with
      | ok set₁ =>
        have opened' : set₁.closed = false := (runStep_closed runs).trans opened
        refine ih ?_ (h.provision opened runs) rest
        exact opened'
      | error e =>
        obtain ⟨x, w, _, rfl, notes, rest⟩ := Prog.yields_bind.1 rest
        rw [← List.append_assoc, List.append_assoc t]
        refine ih ?_ (h.fail runs notes _) rest
        exact opened

theorem Ended.useAll_reports (h : set.Ended) (hu : Prog.Yields (set.useAll pacing uses) u set') :
    set'.reports = set.reports := by
  induction uses generalizing set u with
  | nil =>
    cases hu
    rfl
  | cons use uses ih =>
    obtain ⟨v, w, set₁, rfl, used, rest⟩ := Prog.yields_bind.1 hu
    refine (ih (h.use used) rest).trans ?_
    cases use with
    | extend ctx plan => rw [extend_eq_self h used]
    | close => exact (close_result used).2.1

/-- The steps are reported in order, as far as the set gets. -/
theorem useAll_reported (h : set.Reports turns t)
    (hu : Prog.Yields (set.useAll pacing uses) u set') :
    ∃ more, more <+: uses.flatMap Use.turns ∧
      List.Forall₂ (Turn.Reported (t ++ u)) (turns ++ more) set'.reports := by
  induction uses generalizing set turns t u with
  | nil =>
    cases hu
    exact ⟨[], List.nil_prefix, by simpa using h.reported⟩
  | cons use uses ih =>
    by_cases ended : set.Ended
    · refine ⟨[], List.nil_prefix, ?_⟩
      rw [ended.useAll_reports hu, List.append_nil]
      exact h.reported.imp fun _ _ reported => reported.later u
    · obtain ⟨v, w, set₁, rfl, used, rest⟩ := Prog.yields_bind.1 hu
      have used_reports : set₁.Reports (turns ++ use.turns) (t ++ v) := by
        cases use with
        | extend ctx plan =>
          obtain ⟨sound, opened⟩ := not_or.1 ended
          change Prog.Yields (set.extend pacing ctx plan) v set₁ at used
          unfold extend at used
          rw [if_neg opened, if_neg sound] at used
          exact runSteps_reports (by simpa using opened) h used
        | close =>
          have backed := Prog.wp_yields (close_backed h.backed) used
          rw [← Monitor.after_append] at backed
          refine ⟨backed.1, ?_⟩
          rw [(close_result used).2.1, Use.turns, List.append_nil]
          exact h.reported.imp fun _ _ reported => reported.later v
      obtain ⟨more, among, reported⟩ := ih used_reports rest
      refine ⟨use.turns ++ more, ?_, by simpa using reported⟩
      rw [List.flatMap_cons]
      exact (List.prefix_append_right_inj _).2 among

end FixtureSet

/-! ## Closed sets -/

/-- A trace leaves the networks that it joins, as often as it joins them. On an engine in memory, if
leaving is not made to fail, the networks that it has not joined are there as before, and no others
are. -/
structure Trace.Vacates (t : Trace) : Prop where
  later : t.LeavesJoined
  balanced : t.left.Perm t.joined
  restores : ∀ s s' : Scene, s.engine.LeavesFreely → s.Serves t s' → ∀ network,
    network ∈ s'.engine.networks ↔ network ∈ s.engine.networks ∧ network ∉ t.joined

theorem Ledger.Settled.vacates {t : Trace} (h : (monitor.after {} t).Settled) : t.Vacates := by
  obtain ⟨entered, undone⟩ := h
  have balanced : t.left.Perm t.joined := by
    have joined : t.joined = entered := by simpa [joined_after] using undone.joined
    simpa [left_after, joined] using undone.left
  refine ⟨leavesJoined_of_due undone.due_nil, balanced, ?_⟩
  intro s s' free serves network
  constructor
  · intro there
    have before : ∀ network ∈ s.engine.networks,
        Scene.Accounted s.engine.networks {} network := fun network hmem =>
      .inr ⟨hmem, List.not_mem_nil⟩
    obtain due | ⟨among, unjoined⟩ := serves.accounted free before network there
    · rw [undone.due_nil] at due
      exact absurd due List.not_mem_nil
    · rw [joined_after, List.nil_append] at unjoined
      exact ⟨among, unjoined⟩
  · rintro ⟨there, unjoined⟩
    exact serves.keeps_network there fun left => unjoined (balanced.mem_iff.1 left)

/-- At any time a set has left only networks that it had created or found to exist, and these are
networks that its plans enter or whose names it has made up. Every other network that was there
before is still there. A step that was provisioned has created its network or found it to exist, and
a closed set has left all such networks. -/
theorem foreign_networks_stay (pacing : Pacing) (uses : List FixtureSet.Use) (t : Trace)
    (ht : Prog.Reaches (FixtureSet.useAll pacing {} uses) t) :
    t.LeavesOwn ∧
      (∀ network ∈ t.joined, network ∈ uses.flatMap (·.networkNames) ∨ t.MakesUp network) ∧
      (∀ s s' : Scene, s.Serves t s' → ∀ network ∈ s.engine.networks, network ∉ t.joined →
        network ∈ s'.engine.networks) ∧
      ∀ set, Prog.Yields (FixtureSet.useAll pacing {} uses) t set →
        (∃ turns, turns <+: uses.flatMap FixtureSet.Use.turns ∧
          List.Forall₂ (Turn.Reported t) turns set.reports) ∧
        (set.closed = true → t.Vacates) := by
  have books : Prog.wp monitor (FixtureSet.useAll pacing {} uses) (fun set l => set.Backed l) {} :=
    FixtureSet.useAll_backed .new
  have own := Ledger.leavesOwn_of_accepts (Prog.wp_reaches books ht)
  refine ⟨own, fun network => FixtureSet.useAll_enters ht, ?_, ?_⟩
  · -- A network that was left was joined before.
    intro s s' serves network there unjoined
    refine serves.keeps_network there fun left => unjoined ?_
    obtain ⟨u, v, b, rfl⟩ := Trace.exists_of_mem_left left
    rw [Trace.joined_append]
    exact List.mem_append_left _ (own u v network b rfl)
  · intro set yields
    refine ⟨?_, fun closed => (Prog.wp_yields books yields).settled closed |>.vacates⟩
    simpa using FixtureSet.useAll_reported .new yields

/-! Two networks are there already. One of them is entered, and a cache is put on it. -/

namespace SharedNetwork

def uses : List FixtureSet.Use :=
  [.extend ⟨⟨0⟩, none⟩ { steps := [.network (some "shared"), .cache none] }]

def scene : Scene := { engine := { networks := ["shared", "other"] } }

def life : Trace × Option FixtureSet × Scene :=
  Scene.play (FixtureSet.useAll {} {} (uses ++ [.close])) scene

theorem life_ends : life.2.1 = some (life.2.1.getD {}) := by decide +kernel

end SharedNetwork

open SharedNetwork

/-- Of the two networks the one that is not entered stays. -/
theorem other_network_stays :
    Trace.joined life.1 = ["shared"] ∧ Trace.left life.1 = ["shared"] ∧
      "other" ∈ life.2.2.engine.networks ∧ "shared" ∉ life.2.2.engine.networks := by
  have yields := Scene.play_yields life_ends
  have stays := foreign_networks_stay {} (uses ++ [.close]) life.1 yields.reaches
  have closed : (life.2.1.getD {}).closed = true := by decide +kernel
  have joined : Trace.joined life.1 = ["shared"] := by decide +kernel
  have vacates := (stays.2.2.2 _ yields).2 closed
  have free : scene.engine.LeavesFreely := ⟨.inl rfl, fun _ => .inl rfl⟩
  have restores := vacates.restores scene life.2.2 free (Scene.play_serves _ _)
  refine ⟨joined, by decide +kernel, (restores "other").2 ?_, fun there => ?_⟩
  · rw [joined]
    decide
  · exact ((restores "shared").1 there).2 (joined ▸ List.mem_singleton_self _)

/-- A network that was there before does not stay when a plan enters it. -/
theorem entered_network_goes :
    ¬ ∀ pacing uses t set (s s' : Scene),
      Prog.Yields (FixtureSet.useAll pacing {} (uses ++ [.close])) t set → s.Serves t s' →
      ∀ network ∈ s.engine.networks, network ∈ s'.engine.networks := by
  intro stays
  have there : "shared" ∈ scene.engine.networks := by decide
  have shared := stays {} uses life.1 _ scene life.2.2 (Scene.play_yields life_ends)
    (Scene.play_serves _ _) "shared" there
  have gone : "shared" ∉ life.2.2.engine.networks := by decide +kernel
  exact gone shared

end Testbed
