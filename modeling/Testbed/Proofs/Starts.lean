import Testbed.Proofs.Bootstrap

/-!
# Starts

A cache, a database or a broker starts all or nothing.
-/

namespace Testbed

open Ledger (monitor monitor_ignores_still)

variable {l l₁ : Ledger} {names own entered : List String} {pacing : Pacing} {ctx : Context}

/-! ## Caches -/

namespace Cache

/-- Nothing of the cache has been released. -/
def Live (c : Cache) : Prop := c.service.terminated = false

theorem start_gained {o : ServiceOptions} :
    Task.wp monitor (start pacing ctx o)
      (fun c l' => c.Live ∧ c.containerNames = [o.name] ∧ l.Gained l' c.containerNames [])
      (fun _ l' => l.Undone l' []) l := by
  apply Task.wp_seq launch_gained
  rintro service l₁ ⟨serves, gained⟩
  refine Task.wp_bind.2 (connect_or_release serves gained ?_)
  have name : service.name = o.name := serves.name
  refine ⟨serves.live, congrArg ([·]) name, ?_⟩
  rw [← serves.name] at gained
  exact gained

theorem terminate_holds {c : Cache} (live : c.Live)
    (h : l.Holds l₁ (c.containerNames ++ names) own entered) :
    Prog.wp monitor (c.terminate pacing) (fun _ l₂ => l.Holds l₂ names own entered) l₁ :=
  Prog.wp_bind.2 (Service.terminate_holds live h)

end Cache

/-! ## Databases -/

namespace Database

/-- The containers of a database called `name`, in the order in which they start. -/
def namesFor (replicaSet : Bool) (name : String) : List String :=
  if replicaSet then ReplicaNode.all.map (·.containerName name) else [name]

/-- Nothing of the database has been released. -/
def Live : Database → Prop
  | standalone service => service.terminated = false
  | replicated set => set.Live

/-- The networks made for the database. -/
def ownNetworks : Database → List String
  | standalone _ => []
  | replicated set => set.ownNetworks

theorem start_gained {o : ServiceOptions} :
    Task.wp monitor (start pacing ctx o)
      (fun d l' => d.Live ∧ d.containerNames = namesFor o.replicaSet o.name ∧
        (o.networks ≠ [] → d.ownNetworks = []) ∧ l.Gained l' d.containerNames d.ownNetworks)
      (fun _ l' => l.Reverted l' o.networks) l := by
  unfold start namesFor
  split
  · apply Task.wp_seq ReplicaSet.start_gained
    intro set l₁ started
    refine Task.wp_bind.2 (Task.wp_onFailure.2 ?_)
    refine Task.Only.wp (connect_still _) monitor_ignores_still ?_ ?_
    · intro _
      exact ⟨started.live, started.names, started.foreign, started.gained⟩
    · intro _
      -- A set that cannot be reached is released as if it had been handed out.
      have holds : l.Holds l₁ (set.containerNames ++ []) (set.ownNetworks ++ [])
          set.ownNetworks := by
        simpa using started.gained.holds
      apply Prog.wp_seq (ReplicaSet.terminate_holds started.live holds)
      intro _ l₂ undone
      refine ⟨set.ownNetworks, ?_, started.foreign, undone⟩
      cases network : set.network <;> simp [ReplicaSet.ownNetworks, network]
  · have notes : Task.Only Engine.Still ((LaunchRequest.databaseNotice? o).forM
        fun notice => (notify notice : Action Unit) : Attempt Unit) := by
      cases LaunchRequest.databaseNotice? o with
      | none => trivial
      | some notice => exact Task.Only.lift (System.ask_still _)
    refine Task.Only.wp_seq notes monitor_ignores_still ?_ ?_
    · intro _
      apply Task.wp_seq (Task.wp_weaken (fun _ _ h => h.reverted) launch_gained)
      rintro service l₁ ⟨serves, gained⟩
      refine Task.wp_bind.2 (Task.wp_weaken (fun _ _ h => h.reverted)
        (connect_or_release serves gained ?_))
      have name : service.name = o.name := serves.name
      refine ⟨serves.live, congrArg ([·]) name, fun _ => rfl, ?_⟩
      rw [← serves.name] at gained
      exact gained
    · intro _
      exact (Ledger.Undone.refl l).reverted

theorem terminate_holds {d : Database} (live : d.Live)
    (h : l.Holds l₁ (d.containerNames ++ names) (d.ownNetworks ++ own) entered) :
    Prog.wp monitor (d.terminate pacing) (fun _ l₂ => l.Holds l₂ names own entered) l₁ := by
  cases d with
  | standalone service => exact Prog.wp_bind.2 (Service.terminate_holds live h)
  | replicated set => exact Prog.wp_bind.2 (ReplicaSet.terminate_holds live h)

end Database

/-! ## Brokers -/

namespace Broker

/-- Nothing of the broker has been released. -/
structure Live (b : Broker) : Prop where
  broker : b.broker.terminated = false
  coordinator : b.coordinator.terminated = false
  network : ∀ network, b.network = some network → network.removed = false
  whole : b.terminated = false

/-- The networks made for the broker. -/
def ownNetworks (b : Broker) : List String := b.network.toList.map (·.name)

theorem obtainNetwork_gained {o : BrokerOptions} :
    Task.wp monitor (obtainNetwork ctx o)
      (fun r l' => (∀ network, r.2 = some network → network.removed = false) ∧
        (o.networks ≠ [] → r.2 = none) ∧ l.Gained l' [] (r.2.toList.map (·.name)))
      (fun _ l' => l.Undone l' []) l := by
  unfold obtainNetwork
  split
  · exact ⟨by simp, fun _ => rfl, .refl l⟩
  · next unnamed =>
    apply Task.wp_seq Network.createUnique_gained
    rintro network l₁ ⟨live, gained⟩
    exact ⟨by rintro _ ⟨⟩; exact live, absurd unnamed, gained⟩

theorem obtainPort_still (o : BrokerOptions) : Task.Only Engine.Still (obtainPort o) := by
  unfold obtainPort
  split
  · trivial
  · refine Task.Only.bind (Task.Only.lift (System.ask_still _)) fun port => ?_
    cases port <;> trivial

theorem startBeside_gained {o : BrokerOptions} {networks : List String}
    {network : Option Network} {coordinator : Service} :
    Task.wp monitor (startBeside pacing ctx o networks network coordinator)
      (fun b l' => b.broker.terminated = false ∧ b.broker.name = o.broker.name ∧
        b.coordinator = coordinator ∧ b.network = network ∧ b.terminated = false ∧
        l.Gained l' [o.broker.name] [])
      (fun _ l' => l.Undone l' []) l := by
  refine Task.Only.wp_seq (obtainPort_still o) monitor_ignores_still ?_ ?_
  · intro port
    apply Task.wp_seq launch_gained
    rintro broker l₁ ⟨serves, gained⟩
    refine Task.wp_bind.2 (connect_or_release serves gained ?_)
    exact ⟨serves.live, serves.name, rfl, rfl, rfl, gained⟩
  · intro _
    exact .refl l

/-- The network that a failed start has joined is left. -/
theorem leave_reverted {named : List String} {network : Option Network}
    (kept : ∀ n, network = some n → n.removed = false) (foreign : named ≠ [] → network = none)
    (h : l.Holds l₁ [] (network.toList.map (·.name)) (network.toList.map (·.name))) :
    Prog.wp monitor (network.forM fun network => discard network.remove)
      (fun _ l₂ => l.Reverted l₂ named) l₁ := by
  cases network with
  | none => exact ⟨[], Nat.zero_le _, fun _ => rfl, h⟩
  | some n =>
    apply Prog.wp_seq (Network.remove_holds (kept n rfl) h)
    intro _ l₂ undone
    exact ⟨[n.name], Nat.le_refl _, fun named => (nomatch foreign named), undone⟩

theorem start_gained {o : BrokerOptions} :
    Task.wp monitor (start pacing ctx o)
      (fun b l' => b.Live ∧ b.containerNames = [o.broker.name, o.coordinator.name] ∧
        (o.networks ≠ [] → b.ownNetworks = []) ∧
        l.Gained l' b.containerNames.reverse b.ownNetworks)
      (fun _ l' => l.Reverted l' o.networks) l := by
  apply Task.wp_seq (Task.wp_weaken (fun _ _ h => h.reverted) obtainNetwork_gained)
  rintro ⟨networkName, network⟩ l₁ ⟨kept, foreign, joined⟩
  refine Task.wp_onFailure.2 (Task.wp_bind.2 (Task.wp_mono ?_ ?_ launch_gained))
  · rintro coordinator l₂ ⟨serves, gained⟩
    -- The coordinator runs on its network: both are to be undone if the broker fails.
    have coordinated := joined.trans gained
    rw [List.append_nil] at coordinated
    refine Task.wp_onFailure.2 (Task.wp_mono ?_ ?_ startBeside_gained)
    · rintro b l₃ ⟨live, name, rfl, rfl, whole, gained'⟩
      have named : b.containerNames = [o.broker.name, o.coordinator.name] := by
        rw [containerNames, name, serves.name]
        rfl
      have all := coordinated.trans gained'
      rw [List.append_nil] at all
      refine ⟨⟨live, serves.live, kept, whole⟩, named, fun h => ?_, ?_⟩
      · have none_made : b.network = none := foreign h
        rw [ownNetworks, none_made]
        rfl
      · rw [named]
        exact all
    · intro _ l₃ undone
      -- The broker is gone by now; the coordinator goes next and then the network.
      have holds := coordinated.holds.undone undone
      rw [List.append_nil, List.nil_append] at holds
      refine Prog.wp_mono ?_ (Service.release_holds serves.live (serves.name ▸ holds))
      intro _ _ holds
      exact leave_reverted kept foreign holds
  · intro _ l₂ undone
    -- Without a coordinator, only the network is left to be undone.
    have holds := joined.holds.undone undone
    rw [List.append_nil] at holds
    exact leave_reverted kept foreign holds

theorem terminate_holds {b : Broker} (live : b.Live)
    (h : l.Holds l₁ (b.containerNames ++ names) (b.ownNetworks ++ own) entered) :
    Prog.wp monitor (b.terminate pacing) (fun _ l₂ => l.Holds l₂ names own entered) l₁ := by
  unfold terminate
  rw [live.whole]
  apply Prog.wp_seq (Service.terminate_holds live.broker h)
  intro _ l₂ h
  apply Prog.wp_seq (Service.terminate_holds live.coordinator h)
  intro _ l₃ h
  exact Prog.wp_bind.2 (Network.mapM_remove_holds live.network h)

theorem terminate_finishes (pacing : Pacing) (b : Broker) :
    Prog.Finishes Engine.Cleans (b.terminate pacing) := by
  unfold terminate
  split
  · trivial
  refine Prog.Finishes.bind (b.broker.terminate_finishes _) fun _ => ?_
  refine Prog.Finishes.bind (b.coordinator.terminate_finishes _) fun _ => ?_
  have leaves := (Network.mapM_remove_aside b.network).mono fun _ => Engine.Aside.cleans
  exact leaves.bind fun _ => trivial

end Broker

/-! ## All or nothing -/

/-- What becomes of the trace of a failed start whose options name the networks `named`. -/
structure Trace.RollsBack (t : Trace) (named : List String) : Prop where
  releases : t.Releases
  removesOwn : t.RemovesOwn
  /-- A network that was made for the fixture is told to go once. -/
  leaves : ∀ network ∈ t.joined, t.left.count network = 1
  leavesOwn : t.LeavesOwn
  spares : ∀ network ∈ named, network ∉ t.left

theorem Ledger.Reverted.rollsBack {t : Trace} {named : List String} (accepts : monitor.Accepts {} t)
    (h : Reverted {} (monitor.after {} t) named) : t.RollsBack named := by
  obtain ⟨entered, short, foreign, undone⟩ := h
  have joined : t.joined = entered := by
    have := undone.joined
    rwa [joined_after, List.nil_append, List.nil_append] at this
  have left : t.left.Perm entered := by
    have := undone.left
    rwa [left_after, List.append_nil, List.nil_append, List.nil_append] at this
  refine ⟨releases_of_owed undone.owed_nil, removesOwn_of_accepts accepts, ?_,
    leavesOwn_of_accepts accepts, ?_⟩
  · -- At most one network was joined, so to leave it is to leave it once.
    intro network hmem
    rw [joined] at hmem
    obtain ⟨single, rfl⟩ := List.length_eq_one_iff.1
      (Nat.le_antisymm short (List.length_pos_of_mem hmem))
    rw [left.count_eq, List.mem_singleton.1 hmem, List.count_singleton_self]
  · intro network hnamed hleft
    rw [foreign (List.ne_nil_of_mem hnamed)] at left
    exact List.not_mem_nil (left.subset hleft)

theorem Task.rollsBack {α : Type} {task : Attempt α} {Q : α → Ledger → Prop}
    {named : List String} {t : Trace} {e : Error}
    (h : Task.wp monitor task Q (fun _ l' => Ledger.Reverted {} l' named) {})
    (ht : Prog.Yields task.run t (.error e)) : t.RollsBack named :=
  Ledger.Reverted.rollsBack (Prog.wp_reaches h ht.reaches) (Prog.wp_yields h ht)

/-- A start that fails removes the containers it started and no others, and leaves the network made
for its fixture and no other. -/
theorem failed_start_rolls_back (pacing : Pacing) (ctx : Context) :
    (∀ o t e, Prog.Yields (Cache.start pacing ctx o).run t (.error e) →
      Trace.RollsBack t o.networks) ∧
    (∀ o t e, Prog.Yields (Database.start pacing ctx o).run t (.error e) →
      Trace.RollsBack t o.networks) ∧
    (∀ o t e, Prog.Yields (Broker.start pacing ctx o).run t (.error e) →
      Trace.RollsBack t o.networks) := by
  refine ⟨?_, ?_, ?_⟩
  · intro o t e ht
    exact Task.rollsBack (Task.wp_weaken (fun _ _ h => h.reverted) Cache.start_gained) ht
  · intro o t e ht
    exact Task.rollsBack Database.start_gained ht
  · intro o t e ht
    exact Task.rollsBack Broker.start_gained ht

/-- An obliging engine that publishes no port. -/
def Engine.unpublishing : (r : Engine.onSystem.Request) → Engine.onSystem.Reply r
  | .inl (.mappedPort name _) => .error (.commandFailed s!"port {name}" "none" false)
  | r => obliging r

/-- A coordinator that cannot be reached takes the network of its broker with it. -/
theorem unpublished_broker_rolls_back :
    let o : BrokerOptions := ⟨ServiceDraft.named { family := .kafka } "kafka",
      ServiceDraft.named { family := .zookeeper } "zoo", "3.6.1"⟩
    let t : Trace := ((Broker.start {} ⟨⟨0⟩, none⟩ o).run.play Engine.unpublishing).1
    t.started.map (·.name) = ["zoo"] ∧ t.joined = ["kafka-0123456789ab"] ∧
      t.RollsBack o.networks :=
  ⟨rfl, rfl, (failed_start_rolls_back {} ⟨⟨0⟩, none⟩).2.2 _ _ _ (Prog.yields_play _ rfl)⟩

end Testbed
