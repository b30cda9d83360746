import Testbed.Simulation.Engine

/-!
# Answers of a simulated engine

What a request does to the containers and the networks of a simulated engine, and what the reply
tells of it.
-/

namespace Testbed.Simulation.SimulatedEngine

/-! ## Faults -/

/-- No fault is set for the operation, or it is used up. -/
def Quiet (e : SimulatedEngine) (key : String) : Prop :=
  e.faults.lookup key = none ∨ e.faults.lookup key = some (.times 0)

/-- Removing a container is not made to fail. -/
def RemovesFreely (e : SimulatedEngine) : Prop :=
  e.Quiet "remove" ∧ ∀ name, e.Quiet ("remove:" ++ name)

/-- Removing a network is not made to fail. -/
def LeavesFreely (e : SimulatedEngine) : Prop :=
  e.Quiet "remove_network" ∧ ∀ name, e.Quiet ("remove_network:" ++ name)

/-- No operation is made to fail that was not before. -/
def Quieter (e e' : SimulatedEngine) : Prop :=
  ∀ key, e.Quiet key → e'.Quiet key

/-- The containers and the networks are the same, and no further operation is made to fail. -/
structure Untouched (e e' : SimulatedEngine) : Prop where
  containers : e'.containers = e.containers
  networks : e'.networks = e.networks
  quieter : e.Quieter e'

variable {e e₁ e₂ : SimulatedEngine}

theorem Quieter.refl (e : SimulatedEngine) : e.Quieter e := fun _ h => h

theorem Quieter.trans (h : e.Quieter e₁) (h' : e₁.Quieter e₂) : e.Quieter e₂ :=
  fun key quiet => h' key (h key quiet)

theorem Quieter.removesFreely (h : e.Quieter e₁) (free : e.RemovesFreely) : e₁.RemovesFreely :=
  ⟨h _ free.1, fun name => h _ (free.2 name)⟩

theorem Quieter.leavesFreely (h : e.Quieter e₁) (free : e.LeavesFreely) : e₁.LeavesFreely :=
  ⟨h _ free.1, fun name => h _ (free.2 name)⟩

theorem Untouched.refl (e : SimulatedEngine) : Untouched e e := ⟨rfl, rfl, .refl e⟩

theorem Untouched.trans (h : Untouched e e₁) (h' : Untouched e₁ e₂) : Untouched e e₂ :=
  ⟨h'.containers.trans h.containers, h'.networks.trans h.networks, h.quieter.trans h'.quieter⟩

theorem lookup_filter_ne {key key' : String} (hne : key' ≠ key) (faults : List (String × Fault)) :
    (faults.filter (·.1 ≠ key)).lookup key' = faults.lookup key' := by
  induction faults with
  | nil => rfl
  | cons f faults ih =>
    obtain ⟨k, fault⟩ := f
    by_cases hk : k = key
    · have hne' : (key' == k) = false := by simp [hk, hne]
      simpa [hk, List.lookup_cons, hk ▸ hne'] using ih
    · simp [hk, List.lookup_cons, ← ih]

theorem lookup_setFault_ne {key key' : String} (hne : key' ≠ key) (fault : Fault) :
    (e.setFault key fault).faults.lookup key' = e.faults.lookup key' := by
  rw [SimulatedEngine.setFault, List.lookup_cons, beq_eq_false_iff_ne.2 hne]
  exact lookup_filter_ne hne _

/-- A fault that is used concerns no operation that is quiet. -/
theorem setFault_quieter {key : String} {fault : Fault} (loud : ¬ e.Quiet key) :
    e.Quieter (e.setFault key fault) := by
  intro key' h
  have hne : key' ≠ key := fun heq => loud (heq ▸ h)
  rwa [Quiet, lookup_setFault_ne hne]

/-! ## Operations -/

section Operations

variable {α β : Type}

/-- `Q` holds of the result of an operation and of the engine after it. -/
def Ends (Q : Except Error α → SimulatedEngine → Prop) (op : Operation α) (e : SimulatedEngine) :
    Prop :=
  Q (op.run.run e).1 (op.run.run e).2

/-- The operation changes neither containers nor networks. -/
def Keeps (op : Operation α) : Prop :=
  ∀ e, Ends (fun _ e' => Untouched e e') op e

theorem ends_bind {op : Operation α} {f : α → Operation β}
    {Q : Except Error β → SimulatedEngine → Prop} :
    Ends Q (op >>= f) e ↔
      Ends (fun
        | .ok a => Ends Q (f a)
        | .error error => Q (.error error)) op e := by
  change Q ((ExceptT.bindCont f (op.run.run e).1).run (op.run.run e).2).1
    ((ExceptT.bindCont f (op.run.run e).1).run (op.run.run e).2).2 ↔ _
  unfold Ends
  generalize op.run.run e = out
  obtain ⟨r, e'⟩ := out
  cases r <;> rfl

theorem ends_get_bind {f : SimulatedEngine → Operation β}
    {Q : Except Error β → SimulatedEngine → Prop} : Ends Q (get >>= f) e ↔ Ends Q (f e) e := .rfl

theorem ends_set_bind {f : PUnit → Operation β} {Q : Except Error β → SimulatedEngine → Prop} :
    Ends Q (set e₁ >>= f) e ↔ Ends Q (f ⟨⟩) e₁ := .rfl

/-- An operation that changes nothing, and what follows it. -/
theorem Keeps.andThen {op : Operation α} {f : α → Operation β}
    {Q : Except Error β → SimulatedEngine → Prop} (h : Keeps op)
    (hok : ∀ a e', Untouched e e' → Ends Q (f a) e')
    (herror : ∀ error e', Untouched e e' → Q (.error error) e') : Ends Q (op >>= f) e := by
  refine ends_bind.2 ?_
  have first : Untouched e (op.run.run e).2 := h e
  unfold Ends
  cases (op.run.run e).1 with
  | ok a => exact hok a _ first
  | error error => exact herror error _ first

theorem Keeps.pure (a : α) : Keeps (pure a : Operation α) := fun e => .refl e

theorem Keeps.throw (error : Error) : Keeps (throw error : Operation α) := fun e => .refl e

theorem Keeps.get : Keeps (get : Operation SimulatedEngine) := fun e => .refl e

theorem Keeps.bind {op : Operation α} {f : α → Operation β} (h : Keeps op)
    (hf : ∀ a, Keeps (f a)) : Keeps (op >>= f) :=
  fun _ => h.andThen (fun a e' first => first.trans (hf a e')) fun _ _ first => first

theorem trip_keeps (key : String) : Keeps (trip key) := by
  intro e
  refine ends_get_bind.2 ?_
  split
  · exact .refl e
  · exact .refl e
  · exact .refl e
  · -- Only a fault that is not used up yet is counted down.
    next left found =>
    exact ⟨rfl, rfl, setFault_quieter (by simp [Quiet, found])⟩

theorem mayFail_keeps (operation name : String) : Keeps (mayFail operation name) :=
  (trip_keeps _).bind fun _ => trip_keeps _

theorem trip_quiet {key : String} {Q : Except Error Unit → SimulatedEngine → Prop}
    (quiet : e.Quiet key) (h : Q (.ok ()) e) : Ends Q (trip key) e := by
  unfold trip
  refine ends_get_bind.2 ?_
  rcases quiet with quiet | quiet <;> rw [quiet] <;> exact h

/-- An operation that is not made to fail goes on. -/
theorem mayFail_quiet {operation name : String} {f : Unit → Operation β}
    {Q : Except Error β → SimulatedEngine → Prop} (all : e.Quiet operation)
    (one : e.Quiet (operation ++ ":" ++ name)) (h : Ends Q (f ()) e) :
    Ends Q (mayFail operation name >>= f) e :=
  ends_bind.2 (ends_bind.2 (trip_quiet one (trip_quiet all h)))

theorem live_keeps (done : Option Context.Cause) : Keeps (live done) := by
  cases done with
  | none => exact .pure ()
  | some cause => exact .throw _

theorem inspect_keeps (name : String) : Keeps (inspect name) := by
  refine (mayFail_keeps _ _).bind fun _ => Keeps.get.bind fun e => ?_
  split
  · exact .pure _
  · exact .throw _

theorem checkRunning_keeps (name : String) : Keeps (checkRunning name) :=
  (mayFail_keeps _ _).bind fun _ => Keeps.get.bind fun _ => .pure _

theorem assignPort_keeps (spec : ContainerSpec) : Keeps (assignPort spec) := by
  unfold assignPort
  split
  · exact .pure _
  · exact .pure _
  · exact fun e => ⟨rfl, rfl, .refl e⟩

theorem mappedPort_keeps (name : String) (port : Port) : Keeps (mappedPort name port) := by
  refine (mayFail_keeps _ _).bind fun _ => Keeps.get.bind fun e => ?_
  split
  · exact .throw _
  · split
    · split
      · exact .pure _
      · exact .throw _
    · exact .throw _

theorem exec_keeps (done : Option Context.Cause) (name : String) (cmd : List String) :
    Keeps (exec done name cmd) := by
  refine (live_keeps _).bind fun _ => (mayFail_keeps _ _).bind fun _ => Keeps.get.bind fun e => ?_
  split
  · exact .throw _
  · exact .pure _

theorem networkExists_keeps (name : String) : Keeps (networkExists name) :=
  (mayFail_keeps _ _).bind fun _ => Keeps.get.bind fun _ => .pure _

theorem attachLogs_keeps (fresh : StreamId) (name : String) : Keeps (attachLogs fresh name) :=
  (mayFail_keeps _ _).bind fun _ e => ⟨rfl, rfl, .refl e⟩

end Operations

/-! ## Requests -/

/-- What becomes of the containers and the networks when a request gets this reply. `done` says why
the context of the request is done, if it is. -/
def Changes (done : Option Context.Cause) (e e' : SimulatedEngine) :
    (r : Engine.Request) → Engine.Reply r → Prop
  | .run _ spec, .ok () =>
    done = none ∧ (∀ c ∈ e.containers, c.spec.name ≠ spec.name) ∧
      (∃ c : SimulatedContainer, c.spec = spec ∧ e'.containers = e.containers ++ [c]) ∧
      e'.networks = e.networks
  | .createNetwork _ spec, .ok () =>
    done = none ∧ e'.containers = e.containers ∧ e'.networks = e.networks ++ [spec.name]
  | .remove name, _ =>
    (e'.containers = e.containers.filter (·.spec.name ≠ name) ∨
      ¬ e.RemovesFreely ∧ e'.containers = e.containers) ∧ e'.networks = e.networks
  | .removeNetwork name, _ =>
    e'.containers = e.containers ∧ (e'.networks = e.networks.filter (· ≠ name) ∨
      ¬ e.LeavesFreely ∧ e'.networks = e.networks)
  | _, _ => e'.containers = e.containers ∧ e'.networks = e.networks

/-- A request changes what it says, and makes no operation fail. -/
abbrev Answered (done : Option Context.Cause) (e : SimulatedEngine) (r : Engine.Request)
    (b : Engine.Reply r) (e' : SimulatedEngine) : Prop :=
  e.Quieter e' ∧ Changes done e e' r b

section Requests

variable {done : Option Context.Cause} {name : String} {ctx : Context}

/-- A reply that tells of no change. -/
theorem Untouched.answered {r : Engine.Request} {b : Engine.Reply r} (h : Untouched e e₁)
    (changes : Changes done e e₁ r b ↔ e₁.containers = e.containers ∧ e₁.networks = e.networks := by
      rfl) :
    Answered done e r b e₁ :=
  ⟨h.quieter, changes.2 ⟨h.containers, h.networks⟩⟩

theorem run_answered (spec : ContainerSpec) :
    Ends (Answered done e (.run ctx spec)) (run done spec) e := by
  -- Nothing is started in the name of a context that is done.
  cases done with
  | some cause => exact (Untouched.refl e).answered
  | none =>
    refine (mayFail_keeps _ _).andThen (fun _ e₁ h₁ => ?_) fun _ _ h => h.answered
    refine ends_get_bind.2 ?_
    split
    · exact h₁.answered
    · next unknown =>
      have free : ∀ c ∈ e.containers, c.spec.name ≠ spec.name := by
        simpa [container?, h₁.containers] using unknown
      refine (assignPort_keeps spec).andThen (fun port e₂ h₂ => ?_) fun _ _ h =>
        (h₁.trans h).answered
      have h₂ := h₁.trans h₂
      refine ⟨h₂.quieter, rfl, free, ⟨⟨spec, true, port⟩, rfl, ?_⟩, h₂.networks⟩
      change e₂.containers.filter (·.spec.name ≠ spec.name) ++ [_] = _
      -- The name is free, so no container makes way for the new one.
      rw [h₂.containers, List.filter_eq_self.2 (by simpa using free)]

theorem createNetwork_answered (spec : NetworkSpec) :
    Ends (Answered done e (.createNetwork ctx spec)) (createNetwork done spec) e := by
  cases done with
  | some cause => exact (Untouched.refl e).answered
  | none =>
    refine (mayFail_keeps _ _).andThen (fun _ e₁ h₁ => ?_) fun _ _ h => h.answered
    refine ends_get_bind.2 ?_
    split
    · exact h₁.answered
    · next unknown =>
      rw [addNetwork, if_neg unknown]
      exact ⟨h₁.quieter, rfl, h₁.containers, congrArg (· ++ [spec.name]) h₁.networks⟩

/-- A removal that is not made to fail leaves no container of that name. -/
theorem remove_answered (name : String) :
    Ends (Answered done e (.remove name)) (remove name) e := by
  have erases : ∀ e₁, Untouched e e₁ → Ends (Answered done e (.remove name)) (do
      let e ← get
      set (e.eraseContainer name)
      if (e.container? name).isNone then
        throw (.commandFailed s!"rm -f {name}" s!"Error: No such container: {name}" true)) e₁ := by
    intro e₁ h
    have answered : Answered done e (.remove name) (.ok ()) (e₁.eraseContainer name) :=
      ⟨h.quieter, .inl (congrArg _ h.containers), h.networks⟩
    refine ends_get_bind.2 (ends_set_bind.2 ?_)
    split <;> exact answered
  by_cases free : e.RemovesFreely
  · exact mayFail_quiet free.1 (free.2 name) (erases e (.refl e))
  · exact (mayFail_keeps _ _).andThen (fun _ => erases) fun _ _ h =>
      ⟨h.quieter, .inr ⟨free, h.containers⟩, h.networks⟩

/-- A removal that is not made to fail leaves no network of that name. -/
theorem removeNetwork_answered (name : String) :
    Ends (Answered done e (.removeNetwork name)) (removeNetwork name) e := by
  have erases : ∀ e₁, Untouched e e₁ → Ends (Answered done e (.removeNetwork name)) (do
      let e ← get
      if e.networks.contains name then
        set { e with networks := e.networks.filter (· ≠ name) }
      else
        throw (.commandFailed s!"network rm {name}" s!"Error: No such network: {name}" true))
      e₁ := by
    intro e₁ h
    refine ends_get_bind.2 ?_
    split
    · exact ⟨h.quieter, h.containers, .inl (congrArg _ h.networks)⟩
    · next unknown =>
      have kept : e.networks.filter (· ≠ name) = e.networks := by
        refine List.filter_eq_self.2 fun n hmem => ?_
        rw [← h.networks] at hmem
        simpa using fun heq : n = name => unknown (List.contains_iff_mem.2 (heq ▸ hmem))
      exact ⟨h.quieter, h.containers, .inl (h.networks.trans kept.symm)⟩
  by_cases free : e.LeavesFreely
  · exact mayFail_quiet free.1 (free.2 name) (erases e (.refl e))
  · exact (mayFail_keeps _ _).andThen (fun _ => erases) fun _ _ h =>
      ⟨h.quieter, h.containers, .inr ⟨free, h.networks⟩⟩

/-- The record of requests concerns neither containers nor networks nor faults. -/
theorem answer_answered (done : Option Context.Cause) (fresh : StreamId) (r : Engine.Request)
    (e : SimulatedEngine) :
    Answered done e r ((answer done fresh r).run e).1 ((answer done fresh r).run e).2 := by
  let recorded : SimulatedEngine := { e with calls := e.calls ++ (label r).toList }
  change Answered done recorded r ((serve done fresh r).run recorded).1
    ((serve done fresh r).run recorded).2
  generalize recorded = e
  cases r with
  | run ctx spec => exact run_answered spec
  | remove name => exact remove_answered name
  | createNetwork ctx spec => exact createNetwork_answered spec
  | removeNetwork name => exact removeNetwork_answered name
  | inspect name => exact (inspect_keeps name e).answered
  | isRunning name => exact (checkRunning_keeps name e).answered
  | mappedPort name port => exact (mappedPort_keeps name port e).answered
  | exec ctx name cmd => exact (exec_keeps done name cmd e).answered
  | networkExists name => exact (networkExists_keeps name e).answered
  | pruneNetworks => exact (mayFail_keeps _ _ e).answered
  | attachLogs name => exact (attachLogs_keeps fresh name e).answered
  | ping host port timeout => exact (mayFail_keeps _ _ e).answered
  | available | host | isPortReady _ _ _ _ => exact (Untouched.refl e).answered

end Requests

end Testbed.Simulation.SimulatedEngine
