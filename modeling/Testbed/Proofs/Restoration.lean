import Testbed.Proofs.Ledger
import Testbed.Proofs.Answers

/-!
# Simulated engines and ledgers

As long as removals do not fail, the containers of a simulated engine are those that were there at
first and those that are owed a removal. So nothing is left of a program that owes nothing.
-/

namespace Testbed.Simulation.SimulatedEngine

/-! ## Requests -/

/-- The containers are the same, and removing one is not made to fail. -/
structure Undisturbed (e e' : SimulatedEngine) : Prop where
  containers : e'.containers = e.containers
  removes : e.RemovesFreely → e'.RemovesFreely

variable {e e₁ e₂ : SimulatedEngine}

/-- What a request does to the containers. -/
def Effect (e e' : SimulatedEngine) : Option Deed → Prop
  | some (.started spec) =>
    (∀ c ∈ e.containers, c.spec.name ≠ spec.name) ∧
      ∃ c : SimulatedContainer, c.spec = spec ∧ e'.containers = e.containers ++ [c]
  | some (.removed name) => e'.containers = e.containers.filter (·.spec.name ≠ name)
  | _ => e'.containers = e.containers

/-- A request changes the containers as it says, as long as removals do not fail. -/
theorem answer_effect (done : Option Context.Cause) (fresh : StreamId) (r : Engine.Request)
    (free : e.RemovesFreely) :
    ((answer done fresh r).run e).2.RemovesFreely ∧
      Effect e ((answer done fresh r).run e).2
        (Deed.of? (Engine.event r ((answer done fresh r).run e).1)) := by
  obtain ⟨quieter, changes⟩ := answer_answered done fresh r e
  refine ⟨quieter.removesFreely free, ?_⟩
  generalize ((answer done fresh r).run e).1 = b at changes ⊢
  cases r with
  | run ctx spec =>
    cases b with
    | ok =>
      obtain ⟨-, unknown, added, -⟩ := changes
      exact ⟨unknown, added⟩
    | error => exact changes.1
  | remove name => exact changes.1.resolve_right fun made => made.1 free
  | createNetwork ctx spec =>
    cases b with
    | ok => exact changes.2.1
    | error => exact changes.1
  | networkExists name => rcases b with _ | _ | _ <;> exact changes.1
  | _ => exact changes.1

/-! ## Runs -/

/-- An engine that was `e` replies as in `t` and is `e'` then. The context of a request may be done
or not. In the meantime anything may happen to the engine that leaves the containers alone and does
not make removals fail; other operations may be made to fail at any time. -/
inductive Serves : SimulatedEngine → Trace → SimulatedEngine → Prop
  | start (e : SimulatedEngine) : Serves e [] e
  | engine {e e' : SimulatedEngine} {t : Trace} (done : Option Context.Cause) (fresh : StreamId)
      (r : Engine.Request) (rest : Serves ((answer done fresh r).run e).2 t e') :
      Serves e (Engine.event r ((answer done fresh r).run e).1 :: t) e'
  | system {e e' : SimulatedEngine} {t : Trace} (r : System.Request) (b : System.Reply r)
      (rest : Serves e t e') : Serves e (⟨Sum.inr r, b⟩ :: t) e'
  | meanwhile {e e₁ e' : SimulatedEngine} {t : Trace} (h : Undisturbed e e₁)
      (rest : Serves e₁ t e') : Serves e t e'

/-- The containers are those of `e₀`, which the ledger knows nothing of, and those owed. -/
structure Accounts (e₀ e : SimulatedEngine) (l : Ledger) : Prop where
  containers : ∃ cs : List SimulatedContainer, e.containers = e₀.containers ++ cs ∧
    cs.map (·.spec) = l.owed
  foreign : ∀ spec ∈ l.started, ∀ c ∈ e₀.containers, c.spec.name ≠ spec.name

variable {e₀ e' : SimulatedEngine} {l : Ledger}

theorem Accounts.start (e : SimulatedEngine) : Accounts e e {} :=
  ⟨⟨[], (List.append_nil _).symm, rfl⟩, by simp⟩

theorem Accounts.undisturbed {l' : Ledger} (h : Accounts e₀ e l)
    (same : e₁.containers = e.containers) (started : l'.started = l.started := by rfl)
    (owed : l'.owed = l.owed := by rfl) : Accounts e₀ e₁ l' :=
  ⟨by rw [same, owed]; exact h.containers, by rw [started]; exact h.foreign⟩

theorem Accounts.remove {name : String} (h : Accounts e₀ e l)
    (known : name ∈ l.started.map (·.name))
    (removed : e₁.containers = e.containers.filter (·.spec.name ≠ name)) :
    Accounts e₀ e₁ (l.enter (.removed name)) := by
  obtain ⟨cs, containers, owed⟩ := h.containers
  obtain ⟨spec, started, rfl⟩ := List.mem_map.1 known
  -- What was there at first goes by other names, so it is passed over.
  have kept : e₀.containers.filter (·.spec.name ≠ spec.name) = e₀.containers :=
    List.filter_eq_self.2 (by simpa using h.foreign spec started)
  refine ⟨⟨cs.filter (·.spec.name ≠ spec.name), ?_, ?_⟩, h.foreign⟩
  · rw [removed, containers, List.filter_append, kept]
  · rw [Ledger.enter, ← owed, List.filter_map]
    rfl

theorem Accounts.run {spec : ContainerSpec} (h : Accounts e₀ e l)
    (unknown : ∀ c ∈ e.containers, c.spec.name ≠ spec.name)
    (added : ∃ c : SimulatedContainer, c.spec = spec ∧ e₁.containers = e.containers ++ [c]) :
    Accounts e₀ e₁ (l.enter (.started spec)) := by
  obtain ⟨cs, containers, owed⟩ := h.containers
  obtain ⟨c, rfl, added⟩ := added
  refine ⟨⟨cs ++ [c], ?_, ?_⟩, ?_⟩
  · rw [added, containers, List.append_assoc]
  · rw [List.map_append, owed]
    rfl
  · intro spec hmem c₀ hc₀
    rcases List.mem_append.1 hmem with hmem | hmem
    · exact h.foreign spec hmem c₀ hc₀
    · rw [List.mem_singleton.1 hmem]
      exact unknown c₀ (containers ▸ List.mem_append_left _ hc₀)

theorem Accounts.step {r : Engine.Request} {b : Engine.Reply r} (h : Accounts e₀ e l)
    (permits : l.Permits (.inl r)) (effect : Effect e e₁ (Deed.of? (Engine.event r b))) :
    Accounts e₀ e₁ (Ledger.monitor.step l (Engine.event r b)) := by
  cases r with
  | run ctx spec =>
    cases b with
    | ok => exact h.run effect.1 effect.2
    | error => exact h.undisturbed effect
  | remove name => exact h.remove permits effect
  | networkExists name => rcases b with _ | _ | _ <;> exact h.undisturbed effect
  | createNetwork ctx spec => cases b <;> exact h.undisturbed effect
  | _ => exact h.undisturbed effect

theorem Serves.accounts {t : Trace} (serves : Serves e t e') (free : e.RemovesFreely)
    (accepts : Ledger.monitor.Accepts l t) (h : Accounts e₀ e l) :
    Accounts e₀ e' (Ledger.monitor.after l t) := by
  -- The ledger goes along with the engine, event by event.
  induction serves generalizing l with
  | start => exact h
  | engine done fresh r rest ih =>
    obtain ⟨free', effect⟩ := answer_effect done fresh r free
    exact ih free' accepts.2 (h.step accepts.1 effect)
  | system r b rest ih => exact ih free accepts.2 h
  | meanwhile undisturbed rest ih =>
    exact ih (undisturbed.removes free) accepts (h.undisturbed undisturbed.containers)

/-- A program that owes nothing in the end has left the containers as they were. -/
theorem Serves.restores {t : Trace} (serves : Serves e t e') (free : e.RemovesFreely)
    (accepts : Ledger.monitor.Accepts {} t) (owed : (Ledger.monitor.after {} t).owed = []) :
    e'.containers = e.containers := by
  obtain ⟨cs, containers, hcs⟩ := (serves.accounts free accepts (.start e)).containers
  rw [owed, List.map_eq_nil_iff] at hcs
  rw [containers, hcs, List.append_nil]

end Testbed.Simulation.SimulatedEngine
