import Mathlib.Data.List.Perm.Basic
import Testbed.FixtureSet
import Testbed.Proofs.Starts

/-!
# What a set holds

A step adds to a set what it has gained, or else undoes what it did. So a set holds what its plans
have started, and closing it releases all of that.
-/

namespace Testbed

open Ledger (monitor monitor_ignores)

variable {l l₁ : Ledger} {names own entered : List String} {pacing : Pacing} {ctx : Context}

theorem perm_append_append {α : Type} (a b c d : List α) :
    (a ++ b ++ (c ++ d)).Perm (a ++ c ++ (b ++ d)) := by
  rw [List.append_assoc, List.append_assoc]
  exact (List.perm_append_comm_assoc _ _ _).append_left _

/-! ## Fixtures -/

namespace Fixture

/-- Nothing of the fixture has been released. -/
def Live : Fixture → Prop
  | cache c => c.Live
  | database d => d.Live
  | broker b => b.Live

/-- The networks made for the fixture. -/
def ownNetworks : Fixture → List String
  | cache _ => []
  | database d => d.ownNetworks
  | broker b => b.ownNetworks

/-- The role of a fixture of this kind. -/
def role : Fixture → Role
  | cache _ => .cache
  | database _ => .primaryStore
  | broker _ => .broker

theorem role_ne_network (f : Fixture) : f.role ≠ .network := by
  cases f <;> simp [role]

/-- The containers in the order in which they started. A broker is named before its coordinator but
starts after it. -/
def startOrder : Fixture → List String
  | broker b => b.containerNames.reverse
  | f => f.containerNames

theorem startOrder_perm (f : Fixture) : f.startOrder.Perm f.containerNames := by
  cases f with
  | broker b => exact List.reverse_perm _
  | _ => exact .refl _

theorem terminate_holds {f : Fixture} (live : f.Live)
    (h : l.Holds l₁ (f.containerNames ++ names) (f.ownNetworks ++ own) entered) :
    Prog.wp monitor (f.terminate pacing) (fun _ l₂ => l.Holds l₂ names own entered) l₁ := by
  cases f with
  | cache c => exact Prog.wp_bind.2 (Cache.terminate_holds live h)
  | database d => exact Prog.wp_bind.2 (Database.terminate_holds live h)
  | broker b => exact Prog.wp_bind.2 (Broker.terminate_holds live h)

theorem terminate_finishes (pacing : Pacing) (f : Fixture) :
    Prog.Finishes Engine.Cleans (f.terminate pacing) := by
  cases f with
  | cache c =>
    have terminates := c.service.terminate_finishes pacing
    exact Prog.Finishes.bind (terminates.bind fun _ => trivial) fun _ => trivial
  | database d =>
    cases d with
    | standalone service =>
      have terminates := service.terminate_finishes pacing
      exact Prog.Finishes.bind (terminates.bind fun _ => trivial) fun _ => trivial
    | replicated set =>
      have terminates := set.terminate_finishes pacing
      exact Prog.Finishes.bind (terminates.bind fun _ => trivial) fun _ => trivial
  | broker b => exact Prog.Finishes.bind (b.terminate_finishes pacing) fun _ => trivial

end Fixture

/-- A suffix is all that building asks for. -/
theorem ServiceDraft.build_only {P : Engine.onSystem.Request → Prop} (h : P (.inr .suffix))
    (d : ServiceDraft) : Prog.Only P (d.build : Action ServiceOptions) := by
  unfold build
  split
  · trivial
  · exact ⟨h, fun _ => trivial⟩

theorem BrokerDraft.build_only {P : Engine.onSystem.Request → Prop} (h : P (.inr .suffix))
    (d : BrokerDraft) : Prog.Only P (d.build : Action BrokerOptions) :=
  Prog.Only.bind (d.broker.build_only h) fun _ =>
    Prog.Only.bind (d.coordinator.build_only h) fun _ => trivial

/-! ## Steps -/

/-- What a step adds to a set. -/
structure Growth where
  registrations : List Registration := []
  networks : List Network := []

namespace Growth

/-- The containers in the order in which they started. -/
def startOrder (g : Growth) : List String :=
  g.registrations.flatMap (·.fixture.startOrder)

/-- The networks to be left. -/
def ownNetworks (g : Growth) : List String :=
  g.registrations.flatMap (·.fixture.ownNetworks) ++ g.networks.map (·.name)

/-- The step with this role adds one fixture, unless it is about a network, and nothing of what it
adds has been released. -/
structure Fits (g : Growth) (role : Role) : Prop where
  live : ∀ r ∈ g.registrations, r.fixture.Live
  kept : ∀ network ∈ g.networks, network.removed = false
  roles : g.registrations.map (·.role) = if role = .network then [] else [role]
  kinds : ∀ r ∈ g.registrations, r.fixture.role = r.role

/-- A fixture that is still to be released. -/
theorem fits_fixture {f : Fixture} (live : f.Live) : Fits ⟨[⟨f.role, f⟩], []⟩ f.role where
  live := by simpa using live
  kept := by simp
  roles := by simp [f.role_ne_network]
  kinds := by simp

/-- Only brokers are named in another order than they start in. -/
theorem Fits.containerNames_eq {g : Growth} {role : Role} (h : g.Fits role) :
    g.registrations.flatMap (·.fixture.containerNames) =
      if role = .broker then g.startOrder.reverse else g.startOrder := by
  have roles := h.roles
  have kinds := h.kinds
  unfold startOrder
  generalize g.registrations = registrations at roles kinds
  split at roles
  · next network =>
    rw [List.map_eq_nil_iff.1 roles, network]
    rfl
  · obtain ⟨registration, rfl, rfl⟩ := List.map_eq_singleton_iff.1 roles
    obtain ⟨role, f⟩ := registration
    obtain rfl : f.role = role := by simpa using kinds
    cases f with
    | broker b => simp [Fixture.role, Fixture.startOrder, Fixture.containerNames]
    | _ => simp [Fixture.role, Fixture.startOrder]

end Growth

namespace FixtureSet

def grow (set : FixtureSet) (g : Growth) : FixtureSet :=
  { set with
    registry := set.registry ++ g.registrations
    networks := set.networks ++ g.networks }

/-- What a step has made of a set. -/
def Advances (set set' : FixtureSet) (role : Role) (l l' : Ledger) : Prop :=
  ∃ g : Growth, g.Fits role ∧ set' = set.grow g ∧ l.Gained l' g.startOrder g.ownNetworks

theorem Advances.register {set : FixtureSet} {f : Fixture} (live : f.Live)
    (gained : l.Gained l₁ f.startOrder f.ownNetworks) :
    set.Advances (set.register f.role f) f.role l l₁ := by
  refine ⟨⟨[⟨f.role, f⟩], []⟩, Growth.fits_fixture live, ?_, ?_⟩
  · simp [grow, FixtureSet.register]
  · simpa [Growth.startOrder, Growth.ownNetworks] using gained

theorem enterNetwork_advances {set : FixtureSet} {name : String} :
    Task.wp monitor (set.enterNetwork ctx name) (fun set' l' => set.Advances set' .network l l')
      (fun _ l' => l.Undone l' []) l := by
  unfold enterNetwork
  split
  · refine ⟨{}, ⟨by simp, by simp, rfl, by simp⟩, ?_, .refl l⟩
    simp [grow]
  · apply Task.wp_seq Network.create_gained
    rintro network l' ⟨rfl, gained⟩
    refine ⟨⟨[], [{ name }]⟩, ⟨by simp, by simp, rfl, by simp⟩, ?_, gained⟩
    simp [grow]

theorem startDatabase_advances {set : FixtureSet} {draft : ServiceDraft} :
    Task.wp monitor (set.startDatabase pacing ctx draft)
      (fun set' l' => set.Advances set' .primaryStore l l')
      (fun _ l' => ∃ entered, l.Undone l' entered) l := by
  apply Task.Only.lift_wp_seq (ServiceDraft.build_only trivial _) monitor_ignores
  intro o
  refine Task.wp_bind.2 (Task.wp_mono ?_ ?_ Database.start_gained)
  · rintro database l' ⟨live, -, -, gained⟩
    exact Advances.register (f := .database database) live gained
  · rintro _ l' ⟨entered, -, -, undone⟩
    exact ⟨entered, undone⟩

theorem runStep_advances {set : FixtureSet} {names : FixtureNames} {step : Step} :
    Task.wp monitor (set.runStep pacing ctx names step)
      (fun set' l' => set.Advances set' step.role l l')
      (fun _ l' => ∃ entered, l.Undone l' entered) l := by
  cases step with
  | network name =>
    exact Task.wp_weaken (fun _ _ h => ⟨_, h⟩) enterNetwork_advances
  | cache draft =>
    apply Task.Only.lift_wp_seq (ServiceDraft.build_only trivial _) monitor_ignores
    intro o
    apply Task.wp_seq (Task.wp_weaken (fun _ _ h => ⟨_, h⟩) Cache.start_gained)
    rintro cache l' ⟨live, -, gained⟩
    exact Advances.register (f := .cache cache) live gained
  | database draft => exact startDatabase_advances
  | replicatedDatabase draft => exact startDatabase_advances
  | broker draft =>
    apply Task.Only.lift_wp_seq (BrokerDraft.build_only trivial _) monitor_ignores
    intro o
    refine Task.wp_bind.2 (Task.wp_mono ?_ ?_ Broker.start_gained)
    · rintro broker l' ⟨live, -, -, gained⟩
      exact Advances.register (f := .broker broker) live gained
    · rintro _ l' ⟨entered, -, -, undone⟩
      exact ⟨entered, undone⟩

/-! ## Sets -/

/-- The networks to be left when the set is closed. -/
def ownNetworks (set : FixtureSet) : List String :=
  set.registry.flatMap (·.fixture.ownNetworks) ++ set.networks.map (·.name)

theorem containerNames_grow (set : FixtureSet) (g : Growth) :
    (set.grow g).containerNames.Perm (set.containerNames ++ g.startOrder) := by
  rw [containerNames, containerNames, grow, List.flatMap_append]
  exact (List.Perm.flatMap_left _ fun r _ => r.fixture.startOrder_perm.symm).append_left _

theorem ownNetworks_grow (set : FixtureSet) (g : Growth) :
    (set.grow g).ownNetworks.Perm (set.ownNetworks ++ g.ownNetworks) := by
  rw [ownNetworks, ownNetworks, Growth.ownNetworks, grow, List.flatMap_append, List.map_append]
  exact perm_append_append _ _ _ _

/-- What a set holds is all that is left to be undone, and nothing of it has been released. -/
structure Backed (set : FixtureSet) (l : Ledger) : Prop where
  live : ∀ r ∈ set.registry, r.fixture.Live
  kept : ∀ network ∈ set.networks, network.removed = false
  holds : ∃ entered, Ledger.Holds {} l set.containerNames set.ownNetworks entered
  closed : set.closed = true → set.registry = [] ∧ set.networks = []

theorem Backed.new : Backed {} {} :=
  ⟨by simp, by simp, ⟨[], Ledger.Undone.refl {}⟩, by simp⟩

/-- Reports and the first error have nothing to do with what a set holds. -/
theorem Backed.note {set : FixtureSet} (h : set.Backed l) (reports : List StepReport)
    (error : Option Error) : Backed { set with reports, error } l :=
  ⟨h.live, h.kept, h.holds, h.closed⟩

theorem Backed.undone {set : FixtureSet} (h : set.Backed l) (h' : l.Undone l₁ entered) :
    set.Backed l₁ := by
  obtain ⟨entered, holds⟩ := h.holds
  exact ⟨h.live, h.kept, ⟨_, holds.undone h'⟩, h.closed⟩

theorem Backed.advance {set set' : FixtureSet} {role : Role} (h : set.Backed l)
    (opened : set.closed = false) (h' : set.Advances set' role l l₁) : set'.Backed l₁ := by
  obtain ⟨g, fits, rfl, gained⟩ := h'
  refine ⟨?_, ?_, ?_, ?_⟩
  · intro r hr
    exact (List.mem_append.1 hr).elim (h.live r) (fits.live r)
  · intro n hn
    exact (List.mem_append.1 hn).elim (h.kept n) (fits.kept n)
  · obtain ⟨entered, holds⟩ := h.holds
    exact ⟨_, (holds.trans gained.holds).perm (set.containerNames_grow g).symm
      (set.ownNetworks_grow g).symm⟩
  · intro closed
    exact absurd closed (by simp [grow, opened])

/-- The current network has been joined. -/
theorem Backed.joined {set : FixtureSet} {network : String} (h : set.Backed l)
    (current : set.networkName = some network) : network ∈ l.joined := by
  obtain ⟨entered, holds⟩ := h.holds
  obtain ⟨n, last, rfl⟩ := Option.map_eq_some_iff.1 current
  have among : n.name ∈ set.networks.map (·.name) :=
    List.mem_map_of_mem (List.mem_of_getLast? last)
  exact holds.own_joined _ (List.mem_append_right _ among)

/-- A closed set holds nothing, so there is nothing left to be undone. -/
theorem Backed.settled {set : FixtureSet} (h : set.Backed l) (closed : set.closed = true) :
    l.Settled := by
  obtain ⟨entered, holds⟩ := h.holds
  obtain ⟨registry, networks⟩ := h.closed closed
  refine ⟨entered, ?_⟩
  simpa [containerNames, ownNetworks, registry, networks] using holds

theorem runSteps_backed {set : FixtureSet} {names : FixtureNames} {steps : List Step}
    (opened : set.closed = false) (h : set.Backed l) :
    Prog.wp monitor (runSteps pacing ctx names set steps) (fun set' l' => set'.Backed l') l := by
  induction steps generalizing set l with
  | nil => exact h
  | cons step steps ih =>
    unfold runSteps
    split
    · exact ih opened (h.note _ _)
    · -- Only an open set runs a step, since a closed one holds nothing.
      refine Task.wp_run_bind.2 (Task.wp_mono ?_ ?_ runStep_advances)
      · intro set' l' advances
        have opened' : set'.closed = false := by
          obtain ⟨g, -, rfl, -⟩ := advances
          exact opened
        exact ih opened' ((h.advance opened advances).note _ _)
      · rintro e l' ⟨entered, undone⟩
        apply Prog.Only.wp_seq (System.ask_idle _) monitor_ignores
        intro _
        exact ih opened ((h.undone undone).note _ _)

theorem extend_backed {set : FixtureSet} {plan : Plan} (h : set.Backed l) :
    Prog.wp monitor (set.extend pacing ctx plan) (fun set' l' => set'.Backed l') l := by
  unfold extend
  split
  · exact Prog.Only.wp_seq (System.ask_idle _) monitor_ignores fun _ => h
  · next opened =>
    split
    · exact h
    · exact runSteps_backed (by simpa using opened) h

/-! ## Closing -/

theorem terminateAll_holds {registrations : List Registration}
    (live : ∀ r ∈ registrations, r.fixture.Live)
    (h : l.Holds l₁ (registrations.flatMap (·.fixture.containerNames) ++ names)
      (registrations.flatMap (·.fixture.ownNetworks) ++ own) entered) :
    Prog.wp monitor (terminateAll pacing registrations)
      (fun _ l₂ => l.Holds l₂ names own entered) l₁ := by
  induction registrations generalizing l₁ with
  | nil => exact h
  | cons registration rest ih =>
    obtain ⟨live₀, live⟩ := List.forall_mem_cons.1 live
    rw [List.flatMap_cons, List.flatMap_cons, List.append_assoc, List.append_assoc] at h
    refine Prog.wp_bind.2 (Prog.wp_seq (Fixture.terminate_holds live₀ h) ?_)
    intro _ _ rest
    exact ih live rest

/-- What each removal keeps, is kept by a sweep. -/
theorem sweep_wp {σ : Type} {M : Monitor Engine.onSystem σ} (hM : M.Ignores Engine.Still)
    {retry : RetryPolicy} {J : σ → Prop} {s : σ} (h : J s)
    (removes : ∀ name ∈ names, ∀ s, J s → Prog.wp M (removeForced retry name) (fun _ => J) s) :
    Prog.wp M (sweep retry names) (fun _ => J) s := by
  induction names generalizing s with
  | nil => exact h
  | cons name names ih =>
    obtain ⟨removes₀, removes⟩ := List.forall_mem_cons.1 removes
    have told : ∀ notice, Prog.wp M (do
        notify notice
        removeForced retry name
        sweep retry names) (fun _ => J) s := by
      intro notice
      apply Prog.Only.wp_seq (System.ask_still _) hM
      intro _
      apply Prog.wp_seq (removes₀ s h)
      intro _ s' h'
      exact ih h' removes
    unfold sweep
    refine Task.wp_run_bind.2 (Task.Only.wp (containerExists_still name) hM ?_ fun _ => told _)
    intro there
    cases there with
    | false => exact ih h removes
    | true => exact told _

/-- A sweep looks at each container and may remove it. -/
theorem sweep_finishes {P : Engine.onSystem.Request → Prop} {retry : RetryPolicy}
    (inspect : ∀ name ∈ names, P (.inl (.inspect name)))
    (remove : ∀ name ∈ names, P (.inl (.remove name))) (aside : ∀ r, Engine.Aside r → P r) :
    Prog.Finishes P (sweep retry names) := by
  induction names with
  | nil => trivial
  | cons name names ih =>
    obtain ⟨inspect₀, inspect⟩ := List.forall_mem_cons.1 inspect
    obtain ⟨remove₀, remove⟩ := List.forall_mem_cons.1 remove
    have told : ∀ notice, Prog.Finishes P (do
        notify notice
        removeForced retry name
        sweep retry names) := by
      intro notice
      refine Prog.Finishes.bind (Prog.finishes_request (aside _ trivial)) fun _ => ?_
      have removes := removeWithin_finishes remove₀ aside retry.backoff retry.budget
      exact removes.bind fun _ => ih inspect remove
    have asks : Prog.Finishes P (containerExists name).run := by
      refine Prog.Finishes.bind (Prog.finishes_request inspect₀) fun reply => ?_
      cases reply <;> trivial
    exact asks.bind fun
      | .ok false => ih inspect remove
      | .ok true => told _
      | .error _ => told _

/-- The sweep removes only what was started, and leaves nothing more to do. -/
theorem sweep_holds {retry : RetryPolicy} (known : ∀ name ∈ names, name ∈ l₁.started.map (·.name))
    (h : l.Holds l₁ [] own entered) :
    Prog.wp monitor (sweep retry names) (fun _ l₂ => l.Holds l₂ [] own entered) l₁ := by
  let swept (l₂ : Ledger) : Prop := l₁.started = l₂.started ∧ l.Holds l₂ [] own entered
  have removes : ∀ name ∈ names, ∀ l₂, swept l₂ →
      Prog.wp monitor (removeForced retry name) (fun _ => swept) l₂ := by
    rintro name hmem l₂ ⟨same, holds⟩
    refine Prog.wp_mono ?_ (removeForced_enters retry (same ▸ known name hmem))
    rintro _ _ rfl
    exact ⟨same, holds.remove (List.Subset.refl _) (List.nil_subset _)⟩
  exact Prog.wp_mono (fun _ _ swept => swept.2)
    (sweep_wp Ledger.monitor_ignores_still ⟨rfl, h⟩ removes)

theorem removeNetworks_aside (networks : List Network) :
    Prog.Finishes Engine.Aside (removeNetworks networks) := by
  induction networks with
  | nil => trivial
  | cons network networks ih =>
    exact Prog.Finishes.bind (network.remove_aside.bind fun _ => trivial) fun _ => ih

theorem removeNetworks_holds {networks : List Network}
    (kept : ∀ network ∈ networks, network.removed = false)
    (h : l.Holds l₁ names (networks.map (·.name)) entered) :
    Prog.wp monitor (removeNetworks networks) (fun _ l₂ => l.Holds l₂ names [] entered) l₁ := by
  induction networks generalizing l₁ with
  | nil => exact h
  | cons network networks ih =>
    obtain ⟨kept₀, kept⟩ := List.forall_mem_cons.1 kept
    refine Prog.wp_bind.2 (Prog.wp_seq (Network.remove_holds kept₀ h) ?_)
    intro _ _ rest
    exact ih kept rest

theorem terminateAll_finishes (pacing : Pacing) (registrations : List Registration) :
    Prog.Finishes Engine.Cleans (terminateAll pacing registrations) := by
  induction registrations with
  | nil => trivial
  | cons registration rest ih =>
    have terminates := registration.fixture.terminate_finishes pacing
    exact Prog.Finishes.bind (terminates.bind fun _ => trivial) fun _ => ih

/-- A set can always be closed. -/
theorem close_finishes (pacing : Pacing) (set : FixtureSet) :
    Prog.Finishes Engine.Closes (set.close pacing) := by
  unfold close
  split
  · trivial
  refine Prog.Finishes.bind
    ((terminateAll_finishes pacing _).mono fun _ => Engine.Cleans.closes) fun _ => ?_
  refine Prog.Finishes.bind (sweep_finishes (fun _ _ => trivial) (fun _ _ => trivial)
    fun _ aside => aside.cleans.closes) fun _ => ?_
  have leaves := (removeNetworks_aside set.networks.reverse).mono fun _ h => h.cleans.closes
  exact leaves.bind fun _ => trivial

theorem close_backed {set : FixtureSet} (h : set.Backed l) :
    Prog.wp monitor (set.close pacing)
      (fun set' l' => set'.Backed l' ∧ l'.Settled) l := by
  obtain ⟨entered, holds⟩ := h.holds
  unfold close
  split
  · next closed => exact ⟨h, h.settled closed⟩
  · have reversed : Ledger.Holds {} l
        (set.registry.reverse.flatMap (·.fixture.containerNames) ++ [])
        (set.registry.reverse.flatMap (·.fixture.ownNetworks) ++
          set.networks.reverse.map (·.name)) entered := by
      rw [List.append_nil]
      refine holds.perm ((List.reverse_perm _).symm.flatMap_right _) ?_
      exact ((List.reverse_perm _).symm.flatMap_right _).append ((List.reverse_perm _).symm.map _)
    have live : ∀ r ∈ set.registry.reverse, r.fixture.Live := by
      intro r hmem
      exact h.live r (List.mem_reverse.1 hmem)
    -- What was started stays on the books, so the names of the set may still be swept.
    refine Prog.wp_seq (Prog.wp_rel (S := fun l l' => l.started <+: l'.started)
      (fun _ => List.prefix_rfl) List.IsPrefix.trans Ledger.started_grows
      (terminateAll_holds live reversed)) ?_
    rintro _ l₁ ⟨holds₁, grown⟩
    have known : ∀ name ∈ set.containerNames, name ∈ l₁.started.map (·.name) := by
      intro name hmem
      exact (grown.map _).subset (holds.names_started name hmem)
    apply Prog.wp_seq (sweep_holds known holds₁)
    intro _ l₂ holds₂
    have kept : ∀ network ∈ set.networks.reverse, network.removed = false := by
      intro network hmem
      exact h.kept network (List.mem_reverse.1 hmem)
    apply Prog.wp_seq (removeNetworks_holds kept holds₂)
    intro _ l₃ undone
    exact ⟨⟨by simp, by simp, ⟨entered, undone⟩, fun _ => ⟨rfl, rfl⟩⟩, entered, undone⟩

end FixtureSet

end Testbed
