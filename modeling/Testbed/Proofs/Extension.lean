import Testbed.Proofs.Reports
import Testbed.Proofs.Vigilance

/-!
# Extending a set

Two plans that are run one after the other do what one longer plan does. A set that has failed in
the first plan takes no notice of the second, where the longer plan would go on to report each of
its steps as skipped.
-/

namespace Testbed

/-! ## Programs in their surroundings -/

namespace Prog

variable {I : Interface} {α β : Type}

/-- What follows a program matters only at the results that the program can have. -/
theorem bind_congr_of_yields {p : Prog I α} {f g : α → Prog I β}
    (h : ∀ t a, Yields p t a → f a = g a) : (p >>= f) = p >>= g := by
  induction p with
  | done a => exact h [] a (.done a)
  | ask r next ih =>
    have same : (fun b => next b >>= f) = fun b => next b >>= g :=
      funext fun b => ih b fun t a ht => h _ a (.ask b ht)
    rw [ask_bind, ask_bind, same]
  | diverge => rfl

theorem run_map {m : Type → Type} [Monad m] [LawfulMonad m]
    (answer : (r : I.Request) → m (I.Reply r)) (f : α → β) (p : Prog I α) :
    (f <$> p).run answer = Option.map f <$> p.run answer := by
  induction p with
  | done a =>
    have mapped : f <$> (done a : Prog I α) = done (f a) := rfl
    simp [mapped, run]
  | ask r next ih =>
    have mapped : f <$> ask r next = ask r fun b => f <$> next b := rfl
    simp [mapped, run, ih]
  | diverge =>
    have mapped : f <$> (diverge : Prog I α) = diverge := rfl
    simp [mapped, run]

/-- The answers of surroundings with a state of their own. What is asked is put on record. -/
def recording {W : Type} (answer : (r : I.Request) → StateM W (I.Reply r)) (r : I.Request) :
    StateM (W × List (Event I)) (I.Reply r) := do
  let (w, t) ← get
  let (b, w) := (answer r).run w
  set (w, t ++ [(⟨r, b⟩ : Event I)])
  return b

end Prog

namespace FixtureSet

variable {pacing : Pacing} {ctx : Context} {names : FixtureNames} {set set' : FixtureSet}
  {t : Trace}

/-! ## Steps in a row -/

/-- Running steps is to run some of them and then the others, even if one of them fails. -/
theorem runSteps_append (p q : List Step) :
    runSteps pacing ctx names set (p ++ q) = (do
      let set ← runSteps pacing ctx names set p
      runSteps pacing ctx names set q) := by
  induction p generalizing set with
  | nil => rfl
  | cons step p ih =>
    rw [List.cons_append, runSteps, runSteps]
    split
    · exact ih
    · -- Either way the rest of the steps follows what has come of the first one.
      rw [bind_assoc]
      congr 1
      funext outcome
      cases outcome with
      | ok set' => exact ih
      | error e => exact congrArg _ (funext fun _ => ih)

theorem runStep_closed {step : Step}
    (h : Prog.Yields (set.runStep pacing ctx names step).run t (.ok set')) :
    set'.closed = set.closed := by
  obtain ⟨g, -, rfl, -⟩ := Prog.wp_yields (runStep_advances (l := {})) h
  rfl

/-- Running steps does not close a set. -/
theorem runSteps_closed {steps : List Step}
    (h : Prog.Yields (runSteps pacing ctx names set steps) t set') :
    set'.closed = set.closed := by
  induction steps generalizing set t with
  | nil =>
    cases h
    rfl
  | cons step steps ih =>
    unfold runSteps at h
    split at h
    · have kept := ih h
      exact kept
    · obtain ⟨u, v, outcome, rfl, runs, rest⟩ := Prog.yields_bind.1 h
      cases outcome with
      | ok set₁ =>
        have kept : set'.closed = (set₁.report step.role .provisioned).closed := ih rest
        have stays : set₁.closed = set.closed := runStep_closed runs
        exact kept.trans stays
      | error e =>
        obtain ⟨_, _, _, -, -, rest⟩ := Prog.yields_bind.1 rest
        have kept := ih rest
        exact kept

/-! ## Two plans -/

/-- A set that is as `extended` says, after `set` may have failed: the steps are skipped then, and
are reported to be. -/
def reportSkipped (set extended : FixtureSet) (steps : List Step) : FixtureSet :=
  { extended with
    reports := extended.reports ++
      if set.error.isSome then steps.map (⟨·.role, .skipped⟩) else [] }

/-- An open set runs more steps as it is extended by them, but for the reports. -/
theorem runSteps_eq_extend (opened : set.closed = false) (q : List Step) :
    runSteps pacing ctx names set q =
      (set.reportSkipped · q) <$> set.extend pacing ctx ⟨names, q⟩ := by
  by_cases failed : set.error.isSome
  · -- The extension returns early, and the steps are skipped one by one.
    have early : set.extend pacing ctx ⟨names, q⟩ = pure set := by
      unfold extend
      rw [if_neg (by simp [opened]), if_pos failed]
    rw [runSteps_skip failed, early, map_pure, reportSkipped, if_pos failed]
  · have goes_on : set.extend pacing ctx ⟨names, q⟩ = runSteps pacing ctx names set q := by
      unfold extend
      rw [if_neg (by simp [opened]), if_neg failed]
    have unchanged : (set.reportSkipped · q) = id := by
      funext extended
      rw [reportSkipped, if_neg failed, List.append_nil]
      rfl
    rw [goes_on, unchanged, id_map]

/-- Runs a plan in a new set and extends the set by another plan. Returns the set as it was in
between, too. -/
def provisionInTwo (pacing : Pacing) (ctx : Context) (first second : Plan) :
    Action (FixtureSet × FixtureSet) := do
  let set ← provision pacing ctx first
  return (set, ← set.extend pacing ctx second)

theorem provision_append (pacing : Pacing) (ctx : Context) (names : FixtureNames)
    (p q : List Step) :
    provision pacing ctx ⟨names, p ++ q⟩ =
      (fun (set, extended) => set.reportSkipped extended q) <$>
        provisionInTwo pacing ctx ⟨names, p⟩ ⟨names, q⟩ := by
  have new (steps : List Step) :
      provision pacing ctx ⟨names, steps⟩ = runSteps pacing ctx names {} steps := rfl
  calc provision pacing ctx ⟨names, p ++ q⟩
    _ = (do
          let set ← runSteps pacing ctx names {} p
          runSteps pacing ctx names set q) := by rw [new, runSteps_append]
    _ = (do
          let set ← runSteps pacing ctx names {} p
          (set.reportSkipped · q) <$> set.extend pacing ctx ⟨names, q⟩) :=
        -- The set is still open in between, since only closing closes it.
        Prog.bind_congr_of_yields fun t set ht => runSteps_eq_extend (runSteps_closed ht) q
    _ = _ := by simp [provisionInTwo, new, map_eq_pure_bind]

/-- To provide the steps `p` and then extend the set by the steps `q` is to provide `p ++ q`. In
surroundings of any kind, with the same state to begin with, the same is asked and replied and the
same state is left behind. The resulting sets have the same fixtures, networks and error, and the
same reports as well unless one of the steps `p` has failed. Then the longer plan has reported the
steps `q` as skipped. -/
theorem extending_equals_one_longer_plan {W : Type}
    (answer : (r : Engine.onSystem.Request) → StateM W (Engine.onSystem.Reply r)) (w : W)
    (pacing : Pacing) (ctx : Context) (names : FixtureNames) (p q : List Step) :
    let whole := (provision pacing ctx ⟨names, p ++ q⟩).run (Prog.recording answer) (w, [])
    let parts :=
      (provisionInTwo pacing ctx ⟨names, p⟩ ⟨names, q⟩).run (Prog.recording answer) (w, [])
    whole.2 = parts.2 ∧
      whole.1 = parts.1.map fun (set, extended) =>
        { extended with
          reports := extended.reports ++
            if set.error.isSome then q.map (⟨·.role, .skipped⟩) else [] } := by
  intro whole parts
  have same : whole = (Option.map (fun (set, extended) => set.reportSkipped extended q) <$>
      (provisionInTwo pacing ctx ⟨names, p⟩ ⟨names, q⟩).run (Prog.recording answer)) (w, []) := by
    rw [← Prog.run_map, ← provision_append]
  exact ⟨congrArg Prod.snd same, congrArg Prod.fst same⟩

end FixtureSet

end Testbed
