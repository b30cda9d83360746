import Testbed.Proofs.Lives
import Testbed.Proofs.Occupancy

/-!
# Containers go before their network

The fixtures of a set are released in the reverse order, so when the network of a fixture goes, the
containers that have come up since are gone, and those that were up before are not on it. The
networks of the set itself go last, when no container is up any more.
-/

namespace Testbed

open Occupancy (Boards monitor monitor_ignores_still)

variable {P : Occupancy → Prop} {s s₁ : Occupancy} {pacing : Pacing} {ctx : Context}

/-! ## Fixtures -/

namespace Fixture

/-- The fixture has been released. -/
def Spent : Fixture → Prop
  | cache c => c.service.terminated = true
  | database (.standalone service) => service.terminated = true
  | database (.replicated set) => set.terminated = true
  | broker b => b.terminated = true

theorem terminate_clears {f : Fixture} (live : f.Live)
    (alone : ∀ network ∈ f.ownNetworks, (s.without f.containerNames).Vacant network) :
    Prog.wp (monitor P) (f.terminate pacing)
      (fun f' s' => f'.Spent ∧ s' ⊆ s.without f.containerNames) s := by
  cases f with
  | cache c => exact Prog.wp_bind.2 (Cache.terminate_clears live)
  | database d =>
    cases d with
    | standalone service =>
      exact Prog.wp_bind.2 (Prog.wp_bind.2 (Service.terminate_clears live))
    | replicated set =>
      exact Prog.wp_bind.2 (Prog.wp_bind.2 (ReplicaSet.terminate_clears live alone))
  | broker b => exact Prog.wp_bind.2 (Broker.terminate_clears live alone)

/-- What has been released once is left alone. -/
theorem terminate_spent {f : Fixture} (spent : f.Spent) : f.terminate pacing = pure f := by
  cases f with
  | cache c =>
    have gone : c.service.terminated = true := spent
    simp [terminate, Cache.terminate, Service.terminate, gone]
  | database d =>
    cases d with
    | standalone service =>
      have gone : service.terminated = true := spent
      simp [terminate, Database.terminate, Service.terminate, gone]
    | replicated set =>
      have gone : set.terminated = true := spent
      simp [terminate, Database.terminate, ReplicaSet.terminate, gone]
  | broker b =>
    have gone : b.terminated = true := spent
    simp [terminate, Broker.terminate, gone]

/-- Terminates a fixture a number of times. To drop a fixture is to terminate it. -/
def terminateTimes (pacing : Pacing) (f : Fixture) : Nat → Action Unit
  | 0 => return ()
  | times + 1 => do (← f.terminate pacing).terminateTimes pacing times

theorem terminateTimes_spent {f : Fixture} (spent : f.Spent) (times : Nat) :
    f.terminateTimes pacing times = pure () := by
  induction times with
  | zero => rfl
  | succ times ih =>
    rw [terminateTimes, terminate_spent spent, pure_bind]
    exact ih

end Fixture

/-- A fixture to be started by itself. -/
inductive Order where
  | cache (o : ServiceOptions)
  | database (o : ServiceOptions)
  | broker (o : BrokerOptions)

namespace Order

def start (pacing : Pacing) (ctx : Context) : Order → Attempt Fixture
  | cache o => return .cache (← Cache.start pacing ctx o)
  | database o => return .database (← Database.start pacing ctx o)
  | broker o => return .broker (← Broker.start pacing ctx o)

/-- Starts a fixture, and terminates it `times` times if that succeeds. -/
def serve (pacing : Pacing) (ctx : Context) (times : Nat) (order : Order) : Attempt Unit := do
  let f ← order.start pacing ctx
  (f.terminateTimes pacing times : Action Unit)

theorem start_boards {order : Order} (draws : P s) :
    Task.wp (monitor P) (order.start pacing ctx)
      (fun f s' => Boards s s' f.containerNames f.ownNetworks ∧ f.Live) (fun _ s' => s' ⊆ s) s := by
  cases order with
  | cache o => exact Task.wp_bind.2 Cache.start_boards
  | database o => exact Task.wp_bind.2 (Database.start_boards draws)
  | broker o => exact Task.wp_bind.2 (Broker.start_boards draws)

/-- A fixture that is started by itself while nothing is up makes all draws before its first
container. -/
theorem serve_clears {order : Order} {times : Nat} :
    Task.wp (monitor (· = ∅)) (order.serve pacing ctx times) (fun _ _ => True) (fun _ _ => True)
      ∅ := by
  apply Task.wp_bind.2
  refine Task.wp_mono ?_ (fun _ _ _ => trivial) (start_boards rfl)
  rintro f s ⟨boards, live⟩
  refine Task.wp_lift.2 ?_
  cases times with
  | zero => trivial
  | succ times =>
    apply Prog.wp_seq (Fixture.terminate_clears live boards.alone)
    rintro f' s' ⟨spent, -⟩
    -- All that counts is the first time.
    rw [Fixture.terminateTimes_spent spent]
    trivial

end Order

/-! ## Sets -/

/-- No container is up but those of the fixtures, the latest of which comes first, and on the
networks of a fixture there are only its own containers and those of later fixtures. -/
def Berthed : List Registration → Occupancy → Prop
  | [], s => s = ∅
  | r :: older, s =>
    (∀ network ∈ r.fixture.ownNetworks, (s.without r.fixture.containerNames).Vacant network) ∧
      Berthed older (s.without r.fixture.containerNames)

namespace Berthed

variable {registrations : List Registration}

theorem mono (h : Berthed registrations s) (sub : s₁ ⊆ s) : Berthed registrations s₁ := by
  induction registrations generalizing s s₁ with
  | nil =>
    obtain rfl : s = ∅ := h
    exact Set.subset_empty_iff.1 sub
  | cons r older ih =>
    have fewer := Occupancy.without_mono sub r.fixture.containerNames
    exact ⟨fun network hmem => (h.1 network hmem).mono fewer, ih h.2 fewer⟩

theorem board {role : Role} {f : Fixture} (h : Berthed registrations s)
    (boards : Boards s s₁ f.containerNames f.ownNetworks) :
    Berthed (⟨role, f⟩ :: registrations) s₁ :=
  ⟨boards.alone, h.mono boards.boarded⟩

end Berthed

/-- Suffixes may be drawn at any time. -/
abbrev Occupancy.ofSet : Monitor Engine.onSystem Occupancy := monitor fun _ => True

theorem ServiceDraft.build_shrinks (d : ServiceDraft) :
    Prog.wp Occupancy.ofSet (d.build : Action ServiceOptions) (fun _ s' => s' ⊆ s) s := by
  unfold build
  split
  · exact Set.Subset.rfl
  · exact ⟨trivial, fun suffix _ up => up.1⟩

theorem BrokerDraft.build_shrinks (d : BrokerDraft) :
    Prog.wp Occupancy.ofSet (d.build : Action BrokerOptions) (fun _ s' => s' ⊆ s) s := by
  apply Prog.wp_seq d.broker.build_shrinks
  intro _ s₁ sub
  apply Prog.wp_seq d.coordinator.build_shrinks
  intro _ s₂ sub'
  exact sub'.trans sub

namespace FixtureSet

variable {set : FixtureSet} {names : FixtureNames}

/-- The containers that are up are those of the set. -/
abbrev Berths (set : FixtureSet) (s : Occupancy) : Prop := Berthed set.registry.reverse s

theorem register_berths {role : Role} {f : Fixture} (h : set.Berths s)
    (boards : Boards s s₁ f.containerNames f.ownNetworks) : (set.register role f).Berths s₁ := by
  rw [Berths, register, List.reverse_append]
  exact h.board boards

theorem enterNetwork_berths {name : String} (h : set.Berths s) :
    Task.wp Occupancy.ofSet (set.enterNetwork ctx name) (fun set' s' => set'.Berths s')
      (fun _ s' => set.Berths s') s := by
  unfold enterNetwork
  split
  · exact h
  · refine Task.wp_bind.2 (Task.wp_mono ?_ ?_ Network.create_keeps)
    · rintro _ _ ⟨rfl, rfl⟩
      exact h
    · rintro _ _ rfl
      exact h

theorem startDatabase_berths {draft : ServiceDraft} (h : set.Berths s) :
    Task.wp Occupancy.ofSet (set.startDatabase pacing ctx draft) (fun set' s' => set'.Berths s')
      (fun _ s' => set.Berths s') s := by
  refine Task.wp_bind.2 (Task.wp_lift.2 (Prog.wp_mono ?_ (ServiceDraft.build_shrinks _)))
  intro o s₁ sub
  refine Task.wp_bind.2 (Task.wp_mono ?_ ?_ (Database.start_boards trivial))
  · rintro database s₂ ⟨boards, -⟩
    exact register_berths (f := .database database) (h.mono sub) boards
  · intro _ s₂ sub'
    exact h.mono (sub'.trans sub)

theorem runStep_berths {step : Step} (h : set.Berths s) :
    Task.wp Occupancy.ofSet (set.runStep pacing ctx names step) (fun set' s' => set'.Berths s')
      (fun _ s' => set.Berths s') s := by
  cases step with
  | network name => exact enterNetwork_berths h
  | cache draft =>
    refine Task.wp_bind.2 (Task.wp_lift.2 (Prog.wp_mono ?_ (ServiceDraft.build_shrinks _)))
    intro o s₁ sub
    refine Task.wp_bind.2 (Task.wp_mono ?_ ?_ Cache.start_boards)
    · rintro cache s₂ ⟨boards, -⟩
      exact register_berths (f := .cache cache) (h.mono sub) boards
    · intro _ s₂ sub'
      exact h.mono (sub'.trans sub)
  | database draft => exact startDatabase_berths h
  | replicatedDatabase draft => exact startDatabase_berths h
  | broker draft =>
    refine Task.wp_bind.2 (Task.wp_lift.2 (Prog.wp_mono ?_ (BrokerDraft.build_shrinks _)))
    intro o s₁ sub
    refine Task.wp_bind.2 (Task.wp_mono ?_ ?_ (Broker.start_boards trivial))
    · rintro broker s₂ ⟨boards, -⟩
      exact register_berths (f := .broker broker) (h.mono sub) boards
    · intro _ s₂ sub'
      exact h.mono (sub'.trans sub)

theorem runSteps_berths {steps : List Step} (h : set.Berths s) :
    Prog.wp Occupancy.ofSet (runSteps pacing ctx names set steps) (fun set' s' => set'.Berths s')
      s := by
  induction steps generalizing set s with
  | nil => exact h
  | cons step steps ih =>
    unfold runSteps
    split
    · exact ih h
    · refine Task.wp_run_bind.2 (Task.wp_mono ?_ ?_ (runStep_berths h))
      · intro set' s' berths
        exact ih berths
      · intro e s' berths
        apply Prog.Only.wp_seq (System.ask_still _) monitor_ignores_still
        intro _
        exact ih berths

theorem extend_berths {plan : Plan} (h : set.Berths s) :
    Prog.wp Occupancy.ofSet (set.extend pacing ctx plan) (fun set' s' => set'.Berths s') s := by
  unfold extend
  split
  · exact Prog.Only.wp_seq (System.ask_still _) monitor_ignores_still fun _ => h
  · split
    · exact h
    · exact runSteps_berths h

/-! ### Closing -/

/-- Releasing the fixtures from the latest to the first leaves nothing up. -/
theorem terminateAll_clears {registrations : List Registration}
    (live : ∀ r ∈ registrations, r.fixture.Live) (h : Berthed registrations s) :
    Prog.wp (monitor P) (terminateAll pacing registrations) (fun _ s' => s' = ∅) s := by
  induction registrations generalizing s with
  | nil => exact h
  | cons r older ih =>
    obtain ⟨live₀, live⟩ := List.forall_mem_cons.1 live
    refine Prog.wp_bind.2 (Prog.wp_seq (Fixture.terminate_clears live₀ h.1) ?_)
    rintro _ s₁ ⟨-, cleared⟩
    exact ih live (h.2.mono cleared)

theorem removeNetworks_keeps {networks : List Network}
    (kept : ∀ network ∈ networks, network.removed = false) :
    Prog.wp (monitor P) (removeNetworks networks) (fun _ s' => s' = ∅) ∅ := by
  induction networks with
  | nil => rfl
  | cons network networks ih =>
    obtain ⟨kept₀, kept⟩ := List.forall_mem_cons.1 kept
    refine Prog.wp_bind.2 (Prog.wp_seq (Network.remove_keeps kept₀ fun _ => nofun) ?_)
    rintro _ _ rfl
    exact ih kept

/-- A sweep while nothing is up. -/
theorem sweep_keeps {retry : RetryPolicy} {swept : List String} :
    Prog.wp (monitor P) (sweep retry swept) (fun _ s' => s' = ∅) ∅ := by
  refine sweep_wp (J := (· = ∅)) monitor_ignores_still rfl ?_
  rintro name - _ rfl
  refine Prog.wp_mono ?_ (removeForced_clears _ _)
  intro _ s' cleared
  exact Set.subset_empty_iff.1 (cleared.trans (Occupancy.without_subset _ _))

theorem close_berths {l : Ledger} (backed : set.Backed l) (h : set.Berths s) :
    Prog.wp (monitor P) (set.close pacing) (fun set' s' => set'.Berths s') s := by
  unfold close
  split
  · exact h
  · have live : ∀ r ∈ set.registry.reverse, r.fixture.Live := fun r hmem =>
      backed.live r (List.mem_reverse.1 hmem)
    have kept : ∀ network ∈ set.networks.reverse, network.removed = false := fun network hmem =>
      backed.kept network (List.mem_reverse.1 hmem)
    apply Prog.wp_seq (terminateAll_clears live h)
    rintro _ _ rfl
    -- From here on nothing is up, so every network is vacant.
    apply Prog.wp_seq sweep_keeps
    rintro _ _ rfl
    apply Prog.wp_seq (removeNetworks_keeps kept)
    intro _ _ empty
    exact empty

/-! ### Lives -/

theorem useAll_berths {uses : List Use} (backed : ∃ l, set.Backed l) (h : set.Berths s) :
    Prog.wp Occupancy.ofSet (set.useAll pacing uses)
      (fun set' s' => set'.Berths s' ∧ ∃ l, set'.Backed l) s := by
  induction uses generalizing set s with
  | nil => exact ⟨h, backed⟩
  | cons u uses ih =>
    obtain ⟨l, backed⟩ := backed
    -- The ledger keeps watch on what has been released already.
    have used : Prog.wp Occupancy.ofSet (set.use pacing u)
        (fun set' s' => set'.Berths s' ∧ ∃ l, set'.Backed l) s := by
      cases u with
      | extend ctx plan =>
        exact Prog.wp_and_result (extend_berths h)
          (Prog.wp_mono (fun _ _ backed => ⟨_, backed⟩) (extend_backed backed))
      | close =>
        exact Prog.wp_and_result (close_berths backed h)
          (Prog.wp_mono (fun _ _ closed => ⟨_, closed.1⟩) (close_backed backed))
    apply Prog.wp_seq used
    rintro set' s' ⟨berths, backed⟩
    exact ih backed berths

theorem intoReady_clears {l : Ledger} (backed : set.Backed l) (h : set.Berths s) :
    Prog.wp (monitor P) (set.intoReady pacing).run (fun _ _ => True) s := by
  unfold intoReady
  split
  · trivial
  · exact Prog.wp_bind.2 (Prog.wp_bind.2
      (Prog.wp_mono (fun _ _ _ => trivial) (close_berths backed h)))

end FixtureSet

/-- Before a network is removed, the containers that were started on it are told to go: in every
life of a set, if drawn suffixes are new, and whenever a fixture is started by itself and then
released. -/
theorem containers_go_before_networks (pacing : Pacing) :
    (∀ uses t, Prog.Reaches (FixtureSet.useAll pacing {} uses) t → Trace.DrawsFresh t →
      Trace.ClearsNetworks t) ∧
    (∀ uses t,
      Prog.Reaches (do ((← FixtureSet.useAll pacing {} uses).intoReady pacing).run) t →
      Trace.DrawsFresh t → Trace.ClearsNetworks t) ∧
    (∀ ctx order times t, Prog.Reaches (Order.serve pacing ctx times order).run t →
      Trace.ClearsNetworks t) := by
  have life : ∀ uses, Prog.wp Occupancy.ofSet (FixtureSet.useAll pacing {} uses)
      (fun set s => set.Berths s ∧ ∃ l, set.Backed l) ∅ :=
    fun _ => FixtureSet.useAll_berths ⟨_, .new⟩ rfl
  refine ⟨?_, ?_, ?_⟩
  · intro uses t ht fresh
    exact Occupancy.clearsNetworks_of_accepts (Prog.wp_reaches (life uses) ht) (.inl fresh)
  · intro uses t ht fresh
    have whole : Prog.wp Occupancy.ofSet
        (do ((← FixtureSet.useAll pacing {} uses).intoReady pacing).run) (fun _ _ => True) ∅ := by
      apply Prog.wp_seq (life uses)
      rintro set s ⟨berths, l, backed⟩
      exact FixtureSet.intoReady_clears backed berths
    exact Occupancy.clearsNetworks_of_accepts (Prog.wp_reaches whole ht) (.inl fresh)
  · intro ctx order times t ht
    have clears : Task.wp (Occupancy.monitor (· = ∅)) (order.serve pacing ctx times)
        (fun _ _ => True) (fun _ _ => True) ∅ := Order.serve_clears
    exact Occupancy.clearsNetworks_of_accepts (Prog.wp_reaches clears ht) (.inr fun _ => id)

/-- A suffix that is drawn first and alone is new. -/
theorem Trace.drawsFresh_of_drawn {suffix : String} {t : Trace} (rest : drawn t = []) :
    DrawsFresh (⟨Sum.inr .suffix, suffix⟩ :: t) := by
  rintro (_ | ⟨e, s⟩) u suffix' eq spec started
  · exact absurd started List.not_mem_nil
  · obtain ⟨-, rfl⟩ := List.cons.inj eq
    have again : suffix' ∈ drawn (s ++ ⟨Sum.inr .suffix, suffix'⟩ :: u) := by
      simp [drawn, List.filterMap_append]
    exact absurd again (rest ▸ List.not_mem_nil)

/-- A broker on a network of its own, and a cache. -/
def ownNetworkUses : List FixtureSet.Use :=
  [.extend ⟨⟨0⟩, none⟩ { steps := [.broker none, .cache none] }, .close]

/-- The network of a broker goes last. -/
theorem own_network_goes_last :
    let t : Trace := (Prog.play Engine.obliging (FixtureSet.useAll {} {} ownNetworkUses)).1
    t.started.map (·.name) = ["test-zoo", "test-kafka", "test-redis"] ∧
      t.left = ["kafka-0123456789ab"] ∧ t.ClearsNetworks := by
  intro t
  have rest : Trace.drawn t.tail = [] := by decide +kernel
  refine ⟨by decide +kernel, by decide +kernel, ?_⟩
  exact (containers_go_before_networks {}).1 ownNetworkUses t
    (Prog.yields_play Engine.obliging (a := _) rfl).reaches (Trace.drawsFresh_of_drawn rest)

end Testbed
