import Testbed.Proofs.Presence
import Testbed.Proofs.Resistance
import Testbed.Proofs.Scenes

/-!
# Closing a set on an engine whose removals fail

An engine in memory can be made to fail the next removals of a container. A watch on the container
goes along with such an engine while a set is closed, whatever else fails. So two rounds of removals
decide which containers are left.
-/

namespace Testbed

namespace Simulation

namespace SimulatedEngine

variable {e e₁ e₂ e' : SimulatedEngine} {x name : String} {w : Watch}

/-! ## Faults of removals -/

/-- The next `k` removals of the container fail, and the one after does not. -/
def HoldsOut (e : SimulatedEngine) (name : String) (k : Nat) : Prop :=
  e.faults.lookup ("remove:" ++ name) = some (.times k) ∨
    k = 0 ∧ e.faults.lookup ("remove:" ++ name) = none

theorem HoldsOut.quiet (h : e.HoldsOut name 0) : e.Quiet ("remove:" ++ name) :=
  h.elim .inr fun h => .inl h.2

theorem HoldsOut.loud {k : Nat} (h : e.HoldsOut name (k + 1)) :
    e.faults.lookup ("remove:" ++ name) = some (.times (k + 1)) :=
  h.resolve_right fun h => nomatch h.1

/-- Nothing has changed that concerns the removal of the container. -/
structure Alike (x : String) (e e₁ : SimulatedEngine) : Prop where
  container : e₁.container? x = e.container? x
  removals : e₁.faults.lookup "remove" = e.faults.lookup "remove"
  removal : e₁.faults.lookup ("remove:" ++ x) = e.faults.lookup ("remove:" ++ x)

theorem Alike.refl (x : String) (e : SimulatedEngine) : Alike x e e := ⟨rfl, rfl, rfl⟩

theorem Alike.trans (h : Alike x e e₁) (h' : Alike x e₁ e₂) : Alike x e e₂ :=
  ⟨h'.container.trans h.container, h'.removals.trans h.removals, h'.removal.trans h.removal⟩

/-- A fault set for the operation makes removals of the container fail. -/
def Concerns (x key : String) : Prop := key = "remove" ∨ key = "remove:" ++ x

theorem not_concerns_remove (other : name ≠ x) : ¬ Concerns x ("remove:" ++ name) := by
  rintro (h | h) <;> have chars := congrArg String.toList h <;> simp at chars
  exact other (String.toList_inj.1 chars)

theorem setFault_alike {key : String} {fault : Fault} (h : ¬ Concerns x key) :
    Alike x e (e.setFault key fault) := by
  have kept : ∀ key', Concerns x key' →
      (e.setFault key fault).faults.lookup key' = e.faults.lookup key' :=
    fun key' concerns => lookup_setFault_ne (fun heq : key' = key => h (heq ▸ concerns)) fault
  exact ⟨rfl, kept _ (.inl rfl), kept _ (.inr rfl)⟩

section Operations

variable {α β : Type}

/-- The operation changes nothing that concerns the removal of the container, and it fails only if
it is made to. -/
def Passes (x : String) (op : Operation α) : Prop :=
  ∀ e, Ends (fun r e₁ => Alike x e e₁ ∧ ∀ error, r = .error error → error.isNotFound = false) op e

theorem Passes.andThen {op : Operation α} {f : α → Operation β}
    {Q : Except Error β → SimulatedEngine → Prop} (h : Passes x op)
    (hok : ∀ a e₁, Alike x e e₁ → Ends Q (f a) e₁)
    (herror : ∀ error e₁, Alike x e e₁ → error.isNotFound = false → Q (.error error) e₁) :
    Ends Q (op >>= f) e := by
  refine ends_bind.2 ?_
  have first := h e
  unfold Ends at first ⊢
  cases ends : (op.run.run e).1 with
  | ok a => exact hok a _ first.1
  | error error => exact herror error _ first.1 (first.2 error ends)

theorem trip_passes {key : String} (h : ¬ Concerns x key) : Passes x (trip key) := by
  intro e
  refine ends_get_bind.2 ?_
  split
  · exact ⟨.refl x e, nofun⟩
  · exact ⟨.refl x e, nofun⟩
  · exact ⟨.refl x e, by rintro _ ⟨⟩; rfl⟩
  · exact ⟨setFault_alike h, by rintro _ ⟨⟩; rfl⟩

/-- Looking at a container and leaving a network are other operations. -/
theorem mayFail_passes (x name : String) {operation : String}
    (h : operation = "inspect" ∨ operation = "remove_network") :
    Passes x (mayFail operation name) := by
  have all : ¬ Concerns x operation := by
    rcases h with rfl | rfl <;> rintro (h | h) <;>
      have chars := congrArg String.toList h <;> simp at chars
  have one : ¬ Concerns x (operation ++ ":" ++ name) := by
    rcases h with rfl | rfl <;> rintro (h | h) <;>
      have chars := congrArg String.toList h <;> simp at chars
  intro e
  refine (trip_passes one).andThen (fun _ e₁ first => ?_) fun error e₁ first told => ?_
  · obtain ⟨second, told⟩ := trip_passes all e₁
    exact ⟨first.trans second, told⟩
  · exact ⟨first, by rintro _ ⟨⟩; exact told⟩

end Operations

/-! ## Requests -/

/-- The engine is as the watch on the container says. -/
structure Shows (e : SimulatedEngine) (x : String) (w : Watch) : Prop where
  there : (e.container? x).isSome = w.there
  resists : e.HoldsOut x w.resists
  free : e.Quiet "remove"

theorem Alike.quiet (h : Alike x e e₁) (free : e.Quiet "remove") : e₁.Quiet "remove" := by
  rwa [Quiet, h.removals]

theorem Shows.alike (h : e.Shows x w) (alike : Alike x e e₁) : e₁.Shows x w := by
  refine ⟨alike.container ▸ h.there, ?_, alike.quiet h.free⟩
  rw [HoldsOut, alike.removal]
  exact h.resists

theorem container?_eraseContainer_self (e : SimulatedEngine) (name : String) :
    (e.eraseContainer name).container? name = none := by
  simp [container?, eraseContainer]

theorem container?_eraseContainer (e : SimulatedEngine) (other : name ≠ x) :
    (e.eraseContainer name).container? x = e.container? x := by
  rw [container?, eraseContainer, List.find?_filter]
  refine congrArg (List.find? · e.containers) (funext fun c => ?_)
  by_cases same : c.spec.name = x
  · simp [same, Ne.symm other]
  · simp [same]

theorem inspect_alike (e : SimulatedEngine) (x name : String) :
    Ends (fun _ e₁ => Alike x e e₁) (inspect name) e := by
  refine (mayFail_passes x name (.inl rfl)).andThen (fun _ e₁ alike => ?_)
    fun _ _ alike _ => alike
  refine ends_get_bind.2 ?_
  split <;> exact alike

theorem removeNetwork_alike (e : SimulatedEngine) (x name : String) :
    Ends (fun _ e₁ => Alike x e e₁) (removeNetwork name) e := by
  refine (mayFail_passes x name (.inr rfl)).andThen (fun _ e₁ alike => ?_)
    fun _ _ alike _ => alike
  refine ends_get_bind.2 ?_
  split
  · exact alike.trans ⟨rfl, rfl, rfl⟩
  · exact alike

theorem remove_alike (other : name ≠ x) (free : e.Quiet "remove") :
    Ends (fun _ e₁ => Alike x e e₁) (remove name) e := by
  refine ends_bind.2 ((trip_passes (not_concerns_remove other)).andThen (fun _ e₁ alike => ?_)
    fun _ _ alike _ => alike)
  -- Removals as such do not fail, so it remains to remove the other container.
  refine trip_quiet (alike.quiet free) (ends_get_bind.2 (ends_set_bind.2 ?_))
  have erased : Alike x e (e₁.eraseContainer name) :=
    alike.trans ⟨container?_eraseContainer e₁ other, rfl, rfl⟩
  split <;> exact erased

/-- The reply to a look at the container is what the watch expects. -/
theorem inspect_shows (h : e.Shows x w) :
    Ends (fun b e₁ => ∃ w' ∈ w.afterInspect x b, e₁.Shows x w') (inspect x) e := by
  refine (mayFail_passes x x (.inl rfl)).andThen (fun _ e₁ alike => ?_)
    fun error e₁ alike told => ?_
  · have h₁ := h.alike alike
    refine ends_get_bind.2 ?_
    split
    · next there => exact ⟨w, if_pos ⟨h₁.there ▸ there, rfl⟩, h₁⟩
    · next gone =>
      have gone : ¬ w.there = true := h₁.there ▸ gone
      have expected : ∀ command reason,
          w.afterInspect x (.error (.commandFailed command reason true)) = some w :=
        fun _ _ => if_neg gone
      exact ⟨w, expected _ _, h₁⟩
  · have h₁ := h.alike alike
    exact ⟨{ w with doubted := true }, if_neg (by simp [told]), h₁.there, h₁.resists, h₁.free⟩

/-- A removal fails as long as the container resists. -/
theorem remove_shows (h : e.Shows x w) :
    Ends (fun b e₁ => ∃ w' ∈ w.afterRemove b, e₁.Shows x w') (remove x) e := by
  obtain ⟨there, resists, asked, doubted⟩ := w
  cases resists with
  | zero =>
    have erased : (e.eraseContainer x).Shows x ⟨false, 0, asked + 1, doubted⟩ :=
      ⟨by rw [container?_eraseContainer_self]; rfl, h.resists, h.free⟩
    refine mayFail_quiet h.free h.resists.quiet (ends_get_bind.2 (ends_set_bind.2 ?_))
    split <;> exact ⟨_, rfl, erased⟩
  | succ left =>
    -- The fault that is set for the container is looked for first, and counted down.
    have loud : e.faults.lookup ("remove" ++ ":" ++ x) = some (.times (left + 1)) :=
      h.resists.loud
    refine ends_bind.2 (ends_bind.2 (ends_get_bind.2 ?_))
    rw [loud]
    have other : "remove" ≠ "remove:" ++ x := by
      intro h
      have chars := congrArg String.toList h
      simp at chars
    have free : (e.setFault ("remove:" ++ x) (.times left)).Quiet "remove" := by
      rw [Quiet, lookup_setFault_ne other]
      exact h.free
    exact ⟨⟨there, left, asked + 1, doubted⟩, rfl, h.there, .inl List.lookup_cons_self, free⟩

/-- The watch goes along with the engine, request by request. -/
theorem answer_shows (done : Option Context.Cause) (fresh : StreamId) {r : Engine.Request}
    (closes : Engine.Closes (.inl r)) (h : e.Shows x w) :
    ∃ w', (Watch.monitor x).step (some w) (Engine.event r ((answer done fresh r).run e).1) =
        some w' ∧ ((answer done fresh r).run e).2.Shows x w' := by
  let recorded : SimulatedEngine := { e with calls := e.calls ++ (label r).toList }
  have h : recorded.Shows x w := h.alike ⟨rfl, rfl, rfl⟩
  -- That the request is recorded concerns no container.
  change ∃ w', (Watch.monitor x).step (some w)
    (Engine.event r ((serve done fresh r).run recorded).1) = some w' ∧
      ((serve done fresh r).run recorded).2.Shows x w'
  generalize recorded = e at h
  cases r with
  | remove name =>
    by_cases same : name = x
    · subst same
      obtain ⟨w', expected, shows⟩ := remove_shows h
      exact ⟨w', (if_pos rfl).trans expected, shows⟩
    · exact ⟨w, if_neg same, h.alike (remove_alike same h.free)⟩
  | inspect name =>
    by_cases same : name = x
    · subst same
      obtain ⟨w', expected, shows⟩ := inspect_shows h
      exact ⟨w', (if_pos rfl).trans expected, shows⟩
    · exact ⟨w, if_neg same, h.alike (inspect_alike e x name)⟩
  | removeNetwork name => exact ⟨w, rfl, h.alike (removeNetwork_alike e x name)⟩
  | _ => exact closes.elim

/-! ## Runs -/

/-- The containers are the same, and so are the faults of their removals. -/
structure Unmoved (e e₁ : SimulatedEngine) : Prop where
  containers : e₁.containers = e.containers
  removals : e₁.faults.lookup "remove" = e.faults.lookup "remove"
  removal : ∀ name, e₁.faults.lookup ("remove:" ++ name) = e.faults.lookup ("remove:" ++ name)

/-- An engine that was `e` replies as in `t` and is `e'` then. Whether a removal fails depends on
how often the container still resists. In the meantime anything may happen to the engine that has
nothing to do with the containers and their removal; in particular other operations may be made to
fail at any time. -/
inductive Attends : SimulatedEngine → Trace → SimulatedEngine → Prop
  | start (e : SimulatedEngine) : Attends e [] e
  | engine {e e' : SimulatedEngine} {t : Trace} (done : Option Context.Cause) (fresh : StreamId)
      (r : Engine.Request) (rest : Attends ((answer done fresh r).run e).2 t e') :
      Attends e (Engine.event r ((answer done fresh r).run e).1 :: t) e'
  | system {e e' : SimulatedEngine} {t : Trace} (r : System.Request) (b : System.Reply r)
      (rest : Attends e t e') : Attends e (⟨Sum.inr r, b⟩ :: t) e'
  | meanwhile {e e₁ e' : SimulatedEngine} {t : Trace} (h : Unmoved e e₁)
      (rest : Attends e₁ t e') : Attends e t e'

theorem Attends.shows {t : Trace} (attends : e.Attends t e')
    (closes : ∀ event ∈ t, Engine.Closes event.request) (h : e.Shows x w) :
    ∃ w' ∈ (Watch.monitor x).after (some w) t, e'.Shows x w' := by
  -- By induction on the run: the watch is never given up, since an engine replies as is expected.
  induction attends generalizing w with
  | start => exact ⟨w, rfl, h⟩
  | engine done fresh r rest ih =>
    obtain ⟨closes₀, closes⟩ := List.forall_mem_cons.1 closes
    obtain ⟨w₁, expected, shows⟩ := answer_shows done fresh closes₀ h
    obtain ⟨w', watched, shows'⟩ := ih closes shows
    refine ⟨w', ?_, shows'⟩
    rw [Monitor.after_cons, expected]
    exact watched
  | system r b rest ih => exact ih (List.forall_mem_cons.1 closes).2 h
  | meanwhile unmoved rest ih =>
    have container : ∀ e₁ e₂ : SimulatedEngine, e₂.containers = e₁.containers →
        e₂.container? x = e₁.container? x := fun _ _ same => congrArg (List.find? _) same
    exact ih closes (h.alike ⟨container _ _ unmoved.containers, unmoved.removals,
      unmoved.removal x⟩)

end SimulatedEngine

namespace Scene

variable {α : Type}

theorem play_attends (p : Action α) (s : Scene) :
    s.engine.Attends (play p s).1 (play p s).2.2.engine := by
  induction p generalizing s with
  | done a => exact .start s.engine
  | ask r next ih =>
    cases r with
    | inl r => exact .engine _ ⟨0⟩ r (ih (s.reply ⟨0⟩ r) (s.next ⟨0⟩ r))
    | inr r => exact .system r _ (ih _ s)
  | diverge => exact .start s.engine

/-- A program that finishes has a result in every scene. -/
theorem play_finishes {P : Engine.onSystem.Request → Prop} {p : Action α} (h : p.Finishes P)
    (s : Scene) : ∃ a, (play p s).2.1 = some a := by
  induction p generalizing s with
  | done a => exact ⟨a, rfl⟩
  | ask r next ih =>
    cases r with
    | inl r => exact ih _ (h.2 _) _
    | inr r => exact ih _ (h.2 _) s
  | diverge => exact h.elim

end Scene

end Simulation

/-! ## Closing -/

open Simulation (SimulatedEngine Scene)

/-- **Teardown survives failing removals.** A set of which no step has failed can be closed. If the
next `k` removals of one of its containers fail, the container is gone then just if two rounds of
tries are enough, whether or not it can be told after the first round that it is still there. If
that can be told, the container is removed no more often than is needed. To close the set again, or
to drop what has been terminated, asks for nothing. -/
theorem teardown_survives_failing_removals (pacing : Pacing) (uses : List FixtureSet.Use)
    (t : Trace) (set : FixtureSet) (e₀ e₁ e : SimulatedEngine) (x : String) (k : Nat)
    (reached : Prog.Yields (FixtureSet.useAll pacing {} uses) t set) (sound : set.error = none)
    (served : e₀.Serves t e₁) (same : e.containers = e₁.containers)
    (mem : x ∈ set.containerNames) (plain : ¬ EndsInQuote x)
    (holdsOut : e.HoldsOut x k) (free : e.Quiet "remove") :
    (∃ u set' e', Prog.Yields (set.close pacing) u set' ∧ e.Attends u e') ∧
    (∀ (u : Trace) set' e', Prog.Yields (set.close pacing) u set' → e.Attends u e' →
      (e'.container? x = none ↔ k ≤ 2 * max pacing.retry.attempts 1 - 1) ∧
      (u.Discerns x → u.removed.count x = min (k + 1) (2 * max pacing.retry.attempts 1)) ∧
      set'.close pacing = pure set') ∧
    ∀ r ∈ set.registry,
      (r.fixture.terminate pacing >>= Fixture.terminate pacing) = r.fixture.terminate pacing := by
  refine ⟨?_, ?_, fun r _ => r.fixture.terminate_twice pacing⟩
  · obtain ⟨set', ends⟩ := Scene.play_finishes (set.close_finishes pacing) ⟨e, {}⟩
    exact ⟨_, set', _, Scene.play_yields ends, Scene.play_attends _ ⟨e, {}⟩⟩
  intro u set' e' closes attends
  obtain ⟨distinct, present⟩ := FixtureSet.useAll_houses reached sound served
  have backed := Prog.wp_yields (FixtureSet.useAll_backed .new) reached
  have opened : set.closed = false := by
    by_contra closed
    have gone := (backed.closed (by simpa using closed)).1
    simp [FixtureSet.containerNames, gone] at mem
  have shows : e.Shows x ⟨true, k, 0, false⟩ := by
    refine ⟨?_, holdsOut, free⟩
    rw [SimulatedEngine.container?, same]
    exact present x mem
  -- The watch that is kept on the engine is the one that the program is about.
  obtain ⟨w', watched, shows'⟩ :=
    attends.shows ((set.close_finishes pacing).only.reaches closes.reaches) shows
  have swept := Prog.wp_yields
    (FixtureSet.close_watch backed.live opened distinct mem plain) closes w' watched
  obtain ⟨left, asked⟩ := swept.outcome (by unfold RetryPolicy.budget; omega)
  refine ⟨?_, fun discerns => ?_, ?_⟩
  · rw [← Option.not_isSome_iff_eq_none, shows'.there, Bool.not_eq_true]
    exact left
  · have counted := Watch.asked_after watched
    rw [asked (Watch.doubted_after discerns watched)] at counted
    exact ((Nat.zero_add _).symm.trans counted.symm)
  · unfold FixtureSet.close
    rw [if_pos (FixtureSet.close_result closes).1]

namespace FlakyRemoval

/-- Two tries make a round. -/
def pacing : Pacing := { retry := ⟨2, .ofSecs 1⟩ }

def before : Trace × Option FixtureSet × Scene :=
  Scene.play (FixtureSet.useAll pacing {} FixtureSet.sampleUses) {}

def set : FixtureSet := before.2.1.getD {}

/-- The next three removals of the cache fail. -/
def engine : SimulatedEngine := before.2.2.engine.setFault "remove:test-redis" (.times 3)

def after : Trace × Option FixtureSet × Scene := Scene.play (set.close pacing) { engine }

end FlakyRemoval

open FlakyRemoval in
/-- The fourth removal, which is the last one that is tried, succeeds. -/
theorem flaky_cache_is_removed :
    set.containerNames = ["test-redis", "test-kafka", "test-zoo"] ∧
      engine.containers.length = 3 ∧ after.2.2.engine.container? "test-redis" = none ∧
      (Trace.removed after.1).count "test-redis" = 4 := by
  have reached : before.2.1 = some set := rfl
  have served : SimulatedEngine.Serves {} before.1 before.2.2.engine :=
    (Scene.play_serves _ {}).engine_serves
  have survives := teardown_survives_failing_removals pacing FixtureSet.sampleUses before.1 set {}
    before.2.2.engine engine "test-redis" 3 (Scene.play_yields reached) (by decide +kernel) served
    rfl (by decide +kernel) (by decide +kernel) (.inl rfl) (.inl rfl)
  have closed : after.2.1 = some (after.2.1.getD {}) := rfl
  obtain ⟨gone, counted, -⟩ :=
    survives.2.1 after.1 _ _ (Scene.play_yields closed) (Scene.play_attends _ { engine })
  have discerns : Trace.Discerns "test-redis" after.1 :=
    Trace.discerns_of_all (by decide +kernel)
  exact ⟨by decide +kernel, by decide +kernel, gone.2 (by decide), counted discerns⟩

end Testbed
