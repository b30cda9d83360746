import Testbed.Proofs.Lives

/-!
# What a set reports

The reports of a set tell how its steps went: they are provisioned one after the other until one
fails, and from then on skipped. The first failure stays, and as long as the set is not closed, its
fixtures are those that were reported as provisioned.
-/

namespace Testbed

open Ledger (monitor)

/-! ## Reports -/

namespace StepReport

/-- The failure of a set with this report. -/
def failure? (report : StepReport) : Option Error :=
  match report.status with
  | .failed e => some (.setup report.role e)
  | _ => none

/-- The first failure in reports. -/
def firstFailure (reports : List StepReport) : Option Error :=
  reports.findSome? failure?

/-- Steps are provisioned until one fails, and are skipped from then on. -/
def InOrder (reports : List StepReport) : Prop :=
  ∃ done, (∀ report ∈ done, report.status = .provisioned) ∧
    (reports = done ∨ ∃ role e rest, reports = done ++ ⟨role, .failed e⟩ :: rest ∧
      ∀ report ∈ rest, report.status = .skipped)

/-- The roles of what was provided. A network has no fixture. -/
def providedRoles (reports : List StepReport) : List Role :=
  (reports.filter fun report => report.status = .provisioned ∧ report.role ≠ .network).map (·.role)

variable {reports : List StepReport} {role : Role}

theorem firstFailure_append (reports : List StepReport) (report : StepReport) :
    firstFailure (reports ++ [report]) = (firstFailure reports).or report.failure? := by
  simp [firstFailure, List.findSome?_append]

theorem firstFailure_of_provisioned (h : ∀ report ∈ reports, report.status = .provisioned) :
    firstFailure reports = none := by
  refine List.findSome?_eq_none_iff.2 ?_
  intro report hmem
  rw [failure?, h report hmem]

/-- As long as nothing has failed, everything was provisioned. -/
theorem InOrder.provisioned (h : InOrder reports) (sound : firstFailure reports = none) :
    ∀ report ∈ reports, report.status = .provisioned := by
  obtain ⟨done, provisioned, rfl | ⟨role, e, rest, rfl, -⟩⟩ := h
  · exact provisioned
  · simp [firstFailure, List.findSome?_append, failure?] at sound

theorem InOrder.provision (h : InOrder reports) (sound : firstFailure reports = none) :
    InOrder (reports ++ [⟨role, .provisioned⟩]) := by
  refine ⟨_, ?_, .inl rfl⟩
  intro report hmem
  rcases List.mem_append.1 hmem with hmem | hmem
  · exact h.provisioned sound report hmem
  · rw [List.mem_singleton.1 hmem]

theorem InOrder.fail {e : Error} (h : InOrder reports) (sound : firstFailure reports = none) :
    InOrder (reports ++ [⟨role, .failed e⟩]) :=
  ⟨reports, h.provisioned sound, .inr ⟨role, e, [], rfl, by simp⟩⟩

theorem InOrder.skip (h : InOrder reports) (failed : firstFailure reports ≠ none) :
    InOrder (reports ++ [⟨role, .skipped⟩]) := by
  obtain ⟨done, provisioned, rfl | ⟨role', e, rest, rfl, skipped⟩⟩ := h
  · exact absurd (firstFailure_of_provisioned provisioned) failed
  · refine ⟨done, provisioned, .inr ⟨role', e, rest ++ [⟨role, .skipped⟩], by simp, ?_⟩⟩
    simpa [or_imp, forall_and] using skipped

theorem providedRoles_append (reports : List StepReport) (report : StepReport) :
    providedRoles (reports ++ [report]) =
      providedRoles reports ++ providedRoles [report] := by
  simp [providedRoles]

end StepReport

/-- What is asked of the engine. -/
def Trace.commands (t : Trace) : List (Prog.Event Engine) :=
  t.filterMap Prog.Event.left?

theorem Trace.commands_append (t u : Trace) : commands (t ++ u) = commands t ++ commands u :=
  List.filterMap_append

/-- A request to the system. -/
abbrev AtSystem (r : Engine.onSystem.Request) : Prop := r.isRight

/-- Whoever asks only the system commands nothing. -/
theorem commands_eq_nil {α : Type} {p : Action α} {t : Trace} (h : p.Only AtSystem)
    (ht : Prog.Reaches p t) : t.commands = [] := by
  refine List.filterMap_eq_nil_iff.2 fun e hmem => ?_
  have right := h.reaches ht e hmem
  obtain ⟨r | r, b⟩ := e
  · cases right
  · rfl

theorem notify_atSystem (notice : Notice) : Prog.Only AtSystem (notify notice) :=
  ⟨rfl, fun _ => trivial⟩

/-! ## Passages -/

/-- A step report with what was asked in the step. -/
structure Passage where
  report : StepReport
  trace : Trace

namespace Passage

/-- The step was run on some set and came out as reported; a step that was skipped asked nothing. -/
inductive Run (pacing : Pacing) : Passage → Prop
  | provisioned {ctx : Context} {names : FixtureNames} {set set' : FixtureSet} {step : Step}
      {t : Trace} (h : Prog.Yields (set.runStep pacing ctx names step).run t (.ok set')) :
      Run pacing ⟨⟨step.role, .provisioned⟩, t⟩
  | failed {ctx : Context} {names : FixtureNames} {set : FixtureSet} {step : Step} {t : Trace}
      {e : Error} (h : Prog.Yields (set.runStep pacing ctx names step).run t (.error e)) :
      Run pacing ⟨⟨step.role, .failed e⟩, t⟩
  | skipped (role : Role) : Run pacing ⟨⟨role, .skipped⟩, []⟩

/-- The containers that a provisioned step has started. A broker comes before the coordinator that
was started for it. -/
def provided (p : Passage) : List String :=
  let names := p.trace.started.map (·.name)
  if p.report.status ≠ .provisioned then []
  else if p.report.role = .broker then names.reverse else names

end Passage

namespace FixtureSet

/-! ## Single steps -/

variable {pacing : Pacing} {ctx : Context} {names : FixtureNames} {set set' : FixtureSet}
  {step : Step} {t : Trace}

/-- What a step makes of a set, with its report. -/
structure Follows (set set' : FixtureSet) (p : Passage) : Prop where
  error : set'.error = set.error.or p.report.failure?
  reports : set'.reports = set.reports ++ [p.report]
  roles : set'.roles = set.roles ++ StepReport.providedRoles [p.report]
  names : set'.containerNames = set.containerNames ++ p.provided
  closed : set'.closed = set.closed

theorem provisioned_follows
    (h : Prog.Yields (set.runStep pacing ctx names step).run t (.ok set')) :
    set.Follows (set'.report step.role .provisioned) ⟨⟨step.role, .provisioned⟩, t⟩ := by
  -- On empty books, what the step has started is what the set has gained.
  obtain ⟨g, fits, rfl, gained⟩ := Prog.wp_yields (runStep_advances (l := {})) h
  have started : t.started.map (·.name) = g.startOrder := by
    obtain ⟨specs, hspecs, hstarted⟩ := gained.started
    rw [Ledger.started_after, List.nil_append, List.nil_append] at hstarted
    rw [hstarted, hspecs]
  refine ⟨(Option.or_none).symm, rfl, ?_, ?_, rfl⟩
  · change List.map _ (set.registry ++ g.registrations) = _
    rw [List.map_append, fits.roles, roles]
    by_cases network : step.role = .network <;> simp [StepReport.providedRoles, network]
  · change List.flatMap _ (set.registry ++ g.registrations) = _
    rw [List.flatMap_append, fits.containerNames_eq, ← started, containerNames]
    simp [Passage.provided]

theorem failed_follows {role : Role} {e : Error} (sound : set.error = none) :
    set.Follows { set.report role (.failed e) with error := some (.setup role e) }
      ⟨⟨role, .failed e⟩, t⟩ where
  error := by rw [sound]; rfl
  reports := rfl
  roles := (List.append_nil _).symm
  names := (List.append_nil _).symm
  closed := rfl

theorem skipped_follows {role : Role} :
    set.Follows (set.report role .skipped) ⟨⟨role, .skipped⟩, []⟩ where
  error := (Option.or_none).symm
  reports := rfl
  roles := (List.append_nil _).symm
  names := (List.append_nil _).symm
  closed := rfl

/-! ## Runs of steps -/

/-- The reports of a set tell what has become of it in the trace of its uses. -/
structure Told (pacing : Pacing) (set : FixtureSet) (t : Trace) : Prop where
  inOrder : StepReport.InOrder set.reports
  error : set.error = StepReport.firstFailure set.reports
  roles : set.closed = false → set.roles = StepReport.providedRoles set.reports
  passages : set.closed = false → ∃ ps : List Passage, ps.map (·.report) = set.reports ∧
    (∀ p ∈ ps, p.Run pacing) ∧ t.commands = Trace.commands (ps.flatMap (·.trace)) ∧
    set.containerNames = ps.flatMap (·.provided)

theorem Told.new (pacing : Pacing) : Told pacing {} [] where
  inOrder := ⟨[], by simp, .inl rfl⟩
  error := rfl
  roles := fun _ => rfl
  passages := fun _ => ⟨[], rfl, by simp, rfl, rfl⟩

/-- Nothing is told by requests to the system. -/
theorem Told.idle {u : Trace} (h : set.Told pacing t) (idle : u.commands = []) :
    set.Told pacing (t ++ u) where
  inOrder := h.inOrder
  error := h.error
  roles := h.roles
  passages := fun opened => by
    obtain ⟨ps, reports, runs, commands, names⟩ := h.passages opened
    refine ⟨ps, reports, runs, ?_, names⟩
    rw [Trace.commands_append, idle, commands, List.append_nil]

/-- A step is told together with its passage. -/
theorem Told.follow {p : Passage} (h : set.Told pacing t) (follows : set.Follows set' p)
    (inOrder : StepReport.InOrder (set.reports ++ [p.report])) (run : p.Run pacing) :
    set'.Told pacing (t ++ p.trace) where
  inOrder := follows.reports ▸ inOrder
  error := by rw [follows.error, follows.reports, StepReport.firstFailure_append, h.error]
  roles := fun opened => by
    rw [follows.roles, follows.reports, StepReport.providedRoles_append,
      h.roles (follows.closed ▸ opened)]
  passages := fun opened => by
    obtain ⟨ps, reports, runs, commands, names⟩ := h.passages (follows.closed ▸ opened)
    refine ⟨ps ++ [p], ?_, ?_, ?_, ?_⟩
    · rw [follows.reports, ← reports, List.map_append]
      rfl
    · simpa [or_imp, forall_and] using ⟨runs, run⟩
    · rw [Trace.commands_append, commands, List.flatMap_append, Trace.commands_append]
      simp
    · rw [follows.names, names, List.flatMap_append]
      simp

theorem runSteps_told {steps : List Step} {u : Trace} (h : set.Told pacing t)
    (hu : Prog.Yields (runSteps pacing ctx names set steps) u set') :
    set'.Told pacing (t ++ u) := by
  induction steps generalizing set t u with
  | nil =>
    cases hu
    rwa [List.append_nil]
  | cons step steps ih =>
    unfold runSteps at hu
    split at hu
    · -- A step after a failure asks for nothing.
      next failed =>
      have failed : StepReport.firstFailure set.reports ≠ none := by
        rw [← h.error]
        exact Option.isSome_iff_ne_none.1 failed
      have told := h.follow skipped_follows (h.inOrder.skip failed) (.skipped step.role)
      rw [List.append_nil] at told
      exact ih told hu
    · next sound =>
      have sound : set.error = none := by simpa using sound
      have ordered : StepReport.firstFailure set.reports = none := h.error ▸ sound
      obtain ⟨v, w, outcome, rfl, runs, rest⟩ := Prog.yields_bind.1 hu
      rw [← List.append_assoc]
      cases outcome with
      | ok set₁ =>
        exact ih (h.follow (provisioned_follows runs) (h.inOrder.provision ordered)
          (.provisioned runs)) rest
      | error e =>
        -- The notice of the failure goes to the system and is no part of the passage.
        obtain ⟨x, w, _, rfl, notes, rest⟩ := Prog.yields_bind.1 rest
        have told := h.follow (failed_follows sound) (h.inOrder.fail ordered) (.failed runs)
        rw [← List.append_assoc]
        exact ih (told.idle (commands_eq_nil (notify_atSystem _) notes.reaches)) rest

/-! ## Uses -/

/-- A set that has failed or is closed is not extended any more. -/
theorem extend_atSystem {plan : Plan} (h : set.error.isSome ∨ set.closed = true) :
    Prog.Only AtSystem (set.extend pacing ctx plan) := by
  unfold extend
  split
  · exact Prog.Only.bind (notify_atSystem _) fun _ => trivial
  · next opened =>
    split
    · trivial
    · next sound => exact (h.elim sound opened).elim

theorem extend_eq_self {plan : Plan} {u : Trace} (h : set.error.isSome ∨ set.closed = true)
    (hu : Prog.Yields (set.extend pacing ctx plan) u set') : set' = set := by
  unfold extend at hu
  split at hu
  · obtain ⟨v, w, _, rfl, -, returns⟩ := Prog.yields_bind.1 hu
    cases returns
    rfl
  · next opened =>
    split at hu
    · cases hu
      rfl
    · next sound => exact (h.elim sound opened).elim

theorem extend_told {plan : Plan} {u : Trace} (h : set.Told pacing t)
    (hu : Prog.Yields (set.extend pacing ctx plan) u set') : set'.Told pacing (t ++ u) := by
  by_cases ended : set.error.isSome ∨ set.closed = true
  · rw [extend_eq_self ended hu]
    exact h.idle (commands_eq_nil (extend_atSystem ended) hu.reaches)
  · obtain ⟨sound, opened⟩ := not_or.1 ended
    unfold extend at hu
    rw [if_neg opened, if_neg sound] at hu
    exact runSteps_told h hu

/-- Closing a set changes neither its reports nor its error. -/
theorem close_result {u : Trace} (hu : Prog.Yields (set.close pacing) u set') :
    set'.closed = true ∧ set'.reports = set.reports ∧ set'.error = set.error := by
  unfold close at hu
  split at hu
  · next closed =>
    cases hu
    exact ⟨closed, rfl, rfl⟩
  · obtain ⟨_, _, _, -, -, hu⟩ := Prog.yields_bind.1 hu
    obtain ⟨_, _, _, -, -, hu⟩ := Prog.yields_bind.1 hu
    obtain ⟨_, _, _, -, -, hu⟩ := Prog.yields_bind.1 hu
    cases hu
    exact ⟨rfl, rfl, rfl⟩

theorem close_told {u : Trace} (h : set.Told pacing t)
    (hu : Prog.Yields (set.close pacing) u set') : set'.Told pacing (t ++ u) := by
  obtain ⟨closed, reports, error⟩ := close_result hu
  refine ⟨reports ▸ h.inOrder, ?_, ?_, ?_⟩
  · rw [error, reports, h.error]
  · intro opened
    exact absurd closed (by simp [opened])
  · intro opened
    exact absurd closed (by simp [opened])

theorem useAll_told {uses : List Use} {u : Trace} (h : set.Told pacing t)
    (hu : Prog.Yields (set.useAll pacing uses) u set') : set'.Told pacing (t ++ u) := by
  induction uses generalizing set t u with
  | nil =>
    cases hu
    rwa [List.append_nil]
  | cons use uses ih =>
    obtain ⟨v, w, set₁, rfl, used, rest⟩ := Prog.yields_bind.1 hu
    rw [← List.append_assoc]
    cases use with
    | extend ctx plan => exact ih (extend_told h used) rest
    | close => exact ih (close_told h used) rest

theorem useAll_error {uses : List Use} {u : Trace} {e : Error} (h : set.error = some e)
    (hu : Prog.Yields (set.useAll pacing uses) u set') : set'.error = some e := by
  induction uses generalizing set u with
  | nil =>
    cases hu
    exact h
  | cons use uses ih =>
    obtain ⟨v, w, set₁, -, used, rest⟩ := Prog.yields_bind.1 hu
    refine ih ?_ rest
    cases use with
    | extend ctx plan => rw [extend_eq_self (.inl (by simp [h])) used, h]
    | close => rw [(close_result used).2.2, h]

/-- Whatever is done with a set, its reports tell how its steps went, its error is the first failure
among them and stays, and an open set has the fixtures reported as provisioned, whose containers are
those that were started for them. A set that has failed or is closed is not extended. -/
theorem first_failure_sticks (pacing : Pacing) (uses : List Use) (t : Trace) (set : FixtureSet)
    (h : Prog.Yields (useAll pacing {} uses) t set) :
    StepReport.InOrder set.reports ∧
      set.error = StepReport.firstFailure set.reports ∧
      (∀ e, set.error = some e → ∀ uses' u set',
        Prog.Yields (set.useAll pacing uses') u set' → set'.error = some e) ∧
      (set.closed = false → set.roles = StepReport.providedRoles set.reports ∧
        ∃ ps : List Passage, ps.map (·.report) = set.reports ∧ (∀ p ∈ ps, p.Run pacing) ∧
          t.commands = Trace.commands (ps.flatMap (·.trace)) ∧
          set.containerNames = ps.flatMap (·.provided)) ∧
      (set.error.isSome ∨ set.closed = true → ∀ ctx plan,
        Prog.Only AtSystem (set.extend pacing ctx plan) ∧
        ∀ u set', Prog.Yields (set.extend pacing ctx plan) u set' → set' = set) := by
  have told := useAll_told (.new pacing) h
  rw [List.nil_append] at told
  refine ⟨told.inOrder, told.error, ?_, ?_, ?_⟩
  · intro e failed uses' u set' hu
    exact useAll_error failed hu
  · intro opened
    exact ⟨told.roles opened, told.passages opened⟩
  · intro ended ctx plan
    exact ⟨extend_atSystem ended, fun u set' hu => extend_eq_self ended hu⟩

/-- A cache that cannot be reached fails the set, and its broker is not started. -/
theorem unpublished_cache_sticks :
    ∃ set, (Prog.play Engine.unpublishing (useAll {} {} sampleUses)).2 = some set ∧
      set.reports.map (·.role) = [.network, .cache, .broker] ∧
      set.error = some (.setup .cache (.commandFailed "port test-redis" "none" false)) ∧
      StepReport.InOrder set.reports ∧ set.error = StepReport.firstFailure set.reports := by
  refine ⟨_, rfl, rfl, rfl, ?_⟩
  have told := first_failure_sticks {} sampleUses _ _
    (Prog.yields_play Engine.unpublishing (p := useAll {} {} sampleUses) rfl)
  exact ⟨told.1, told.2.1⟩

end FixtureSet

end Testbed
