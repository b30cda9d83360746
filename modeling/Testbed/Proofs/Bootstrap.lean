import Testbed.Proofs.Release

/-!
# What a bootstrap leaves behind

The stages of a bootstrap keep a record of their progress. As long as they go on, the ledger has
gained what is on record, and when one of them fails, rolling back the record undoes it.
-/

namespace Testbed

namespace ReplicaSet

variable {α β σ : Type}

/-! ## Stages -/

namespace Building

/-- Every run of a stage from `s` makes only requests that the monitor allows. It ends in `Q`, or in
`E` if it fails, both of the progress too. -/
def wp (M : Monitor Engine.onSystem σ) (b : Building α) (Q : α → Progress → σ → Prop)
    (E : Error → Progress → σ → Prop) (progress : Progress) (s : σ) : Prop :=
  Prog.wp M (b.run.run progress) (fun r => Task.ends (Q · r.2) (E · r.2) r.1) s

variable {M : Monitor Engine.onSystem σ} {Q R : α → Progress → σ → Prop}
  {E : Error → Progress → σ → Prop} {progress : Progress} {s : σ}

@[simp] theorem wp_pure {a : α} : wp M (pure a) Q E progress s ↔ Q a progress s := .rfl

theorem wp_bind {b : Building α} {f : α → Building β} {Q : β → Progress → σ → Prop} :
    wp M (b >>= f) Q E progress s ↔ wp M b (fun a => wp M (f a) Q E) E progress s := by
  refine Prog.wp_bind.trans (iff_of_eq (congrArg (Prog.wp M _ · s) (funext fun r => ?_)))
  obtain ⟨r, progress⟩ := r
  cases r <;> rfl

theorem wp_attempt {task : Attempt α} :
    wp M (attempt task) Q E progress s ↔
      Task.wp M task (Q · progress) (E · progress) s :=
  Prog.wp_bind

@[simp] theorem wp_modify {f : Progress → Progress} {Q : Unit → Progress → σ → Prop} :
    wp M (modify f) Q E progress s ↔ Q () (f progress) s := .rfl

theorem wp_mono {F : Error → Progress → σ → Prop} {b : Building α}
    (hQ : ∀ a p s, Q a p s → R a p s) (hE : ∀ e p s, E e p s → F e p s)
    (h : wp M b Q E progress s) : wp M b R F progress s :=
  Prog.wp_mono (fun
    | (.ok a, p) => hQ a p
    | (.error e, p) => hE e p) h

/-- What another monitor says about the ends of a stage, whatever its own states are. -/
theorem wp_and_result {τ : Type} {N : Monitor Engine.onSystem τ} {n : τ} {P : α → Progress → Prop}
    {F : Progress → Prop} {b : Building α} (h : wp M b Q E progress s)
    (hN : wp N b (fun a p _ => P a p) (fun _ p _ => F p) progress n) :
    wp M b (fun a p s => Q a p s ∧ P a p) (fun e p s => E e p s ∧ F p) progress s := by
  let ended : Except Error α × Progress → Prop
    | (.ok a, p) => P a p
    | (.error _, p) => F p
  have result := Prog.wp_and_result (P := ended) h <| Prog.wp_mono (fun
    | (.ok _, _) => fun _ hP => hP
    | (.error _, _) => fun _ hF => hF) hN
  exact Prog.wp_mono (fun
    | (.ok _, _) => fun _ both => both
    | (.error _, _) => fun _ both => both) result

/-- A stage and those that follow it. -/
theorem wp_seq {b : Building α} {f : α → Building β} {Q : β → Progress → σ → Prop}
    (h : wp M b R E progress s) (hf : ∀ a p s, R a p s → wp M (f a) Q E p s) :
    wp M (b >>= f) Q E progress s :=
  wp_bind.2 (wp_mono hf (fun _ _ _ hE => hE) h)

/-- A stage that the monitor does not notice, and those that follow it. -/
theorem wp_only_seq {P : Engine.onSystem.Request → Prop} {task : Attempt α} {f : α → Building β}
    {Q : β → Progress → σ → Prop} (h : Task.Only P task) (hM : M.Ignores P)
    (hf : ∀ a, wp M (f a) Q E progress s) (hE : ∀ e, E e progress s) :
    wp M (attempt task >>= f) Q E progress s :=
  wp_bind.2 (wp_attempt.2 (h.wp hM hf hE))

end Building

/-! ## Asking the members -/

section Scripts

variable {pacing : Pacing} {ctx : Context}

theorem eval_still (ctx : Context) (container script : String) :
    Task.Only Engine.Still (eval ctx container script) :=
  ⟨trivial, fun _ => trivial⟩

theorem initiate_still (ctx : Context) (base master : String) :
    Task.Only Engine.Still (initiate ctx base master) := by
  refine Task.Only.bind (eval_still _ _ _).mapError fun out => ?_
  split <;> trivial

theorem pollMaster_still {master : String} {started : Instant} (attempts rounds : Nat) :
    Task.Only Engine.Still (pollMaster pacing ctx master started attempts rounds) := by
  induction rounds generalizing attempts with
  | zero => trivial
  | succ rounds ih =>
    refine Task.Only.bind (eval_still _ _ _).mapError fun out => ?_
    split
    · trivial
    refine Task.Only.bind (Task.Only.lift (System.ask_still _)) fun now => ?_
    dsimp only
    split
    · trivial
    exact Task.Only.bind (ctx.sleep_still _ _) fun _ => ih _

theorem verifyMaster_still {master : String} :
    Task.Only Engine.Still (verifyMaster pacing ctx master) :=
  Task.Only.bind (Task.Only.lift (System.ask_still _)) fun _ => pollMaster_still _ _

theorem pollPrimary_still {observer : String} (attempts left : Nat) :
    Task.Only Engine.Still (pollPrimary pacing ctx observer attempts left) := by
  induction left generalizing attempts with
  | zero => exact Task.Only.bind (Task.Only.lift (System.ask_still _)) fun _ => trivial
  | succ left ih =>
    -- Asking in vain and failing to ask go on in the same way.
    have again : Task.Only Engine.Still (do
        if 0 < left then ctx.sleep pacing.electionInterval pacing.rounds
        pollPrimary pacing ctx observer (attempts + 1) left) := by
      split
      · exact Task.Only.bind (ctx.sleep_still _ _) fun _ => ih _
      · exact ih _
    refine Task.Only.bind (eval_still _ _ _).outcome fun reply => ?_
    cases reply with
    | ok out =>
      dsimp only
      split
      · trivial
      · exact again
    | error e =>
      dsimp only
      split
      · trivial
      · exact again

theorem awaitPrimary_still {observer : String} :
    Task.Only Engine.Still (awaitPrimary pacing ctx observer) :=
  pollPrimary_still _ _

end Scripts

/-! ## Progress -/

namespace Progress

def names (progress : Progress) : List String := progress.members.map (·.name)

def ownNetworks (progress : Progress) : List String := progress.network.toList.map (·.name)

/-- Nothing on record has been released. A network of the caller's is not on record. -/
structure Live (progress : Progress) (o : ServiceOptions) : Prop where
  members : ∀ service ∈ progress.members, service.terminated = false
  network : ∀ network, progress.network = some network → network.removed = false
  foreign : o.networks ≠ [] → progress.network = none

/-- What is on record is all that the ledger has gained since `l`. -/
structure Backed (progress : Progress) (o : ServiceOptions) (l l' : Ledger) : Prop
    extends progress.Live o where
  gained : l.Gained l' progress.names progress.ownNetworks

/-- What is on record is all that is left to be undone since `l`. -/
structure Owed (progress : Progress) (o : ServiceOptions) (l l' : Ledger) : Prop
    extends progress.Live o where
  holds : l.Holds l' progress.names progress.ownNetworks progress.ownNetworks

variable {progress : Progress} {o : ServiceOptions} {l l₁ l₂ : Ledger}

theorem Backed.start (o : ServiceOptions) (l : Ledger) : Backed {} o l l where
  members := by simp
  network := by simp
  foreign := fun _ => rfl
  gained := .refl l

theorem Backed.owed (h : progress.Backed o l l₁) (h' : l₁.Undone l₂ []) :
    progress.Owed o l l₂ :=
  ⟨h.toLive, by simpa using h.gained.holds.undone h'⟩

end Progress

section Stages

open Ledger (monitor)

variable {l l₁ : Ledger} {progress : Progress} {pacing : Pacing} {ctx : Context}
  {o : ServiceOptions}

/-- A stage that starts nothing leaves the record and the books to those that follow it. -/
theorem attempt_seq {task : Attempt α} {f : α → Building β} {Q : β → Progress → Ledger → Prop}
    (h : Task.Only Engine.Still task) (backed : progress.Backed o l l₁)
    (hf : ∀ a, Building.wp monitor (f a) Q (fun _ p l₂ => p.Owed o l l₂) progress l₁) :
    Building.wp monitor (attempt task >>= f) Q (fun _ p l₂ => p.Owed o l l₂) progress l₁ :=
  Building.wp_only_seq h Ledger.monitor_ignores_still hf fun _ => backed.owed (.refl _)

theorem reach_seq {base : String} {stage : Stage} {f : Unit → Building β}
    {Q : β → Progress → Ledger → Prop} (backed : progress.Backed o l l₁)
    (hf : Building.wp monitor (f ()) Q (fun _ p l₂ => p.Owed o l l₂) progress l₁) :
    Building.wp monitor (reach base stage >>= f) Q (fun _ p l₂ => p.Owed o l l₂) progress l₁ :=
  attempt_seq (Task.Only.lift (System.ask_still _)) backed fun _ => hf

theorem obtainNetwork_backed :
    Building.wp monitor (obtainNetwork ctx o)
      (fun _ p l₁ => p.members = [] ∧ p.Backed o l l₁) (fun _ p l₁ => p.Owed o l l₁) {} l := by
  have start := Progress.Backed.start o l
  unfold obtainNetwork
  split
  · exact ⟨rfl, start⟩
  · next unnamed =>
    refine Building.wp_bind.2 (Building.wp_attempt.2 ?_)
    refine Task.wp_mono ?_ ?_ Network.createUnique_gained
    · rintro network l₁ ⟨live, gained⟩
      refine Building.wp_bind.2 (Building.wp_modify.2 ⟨rfl, ?_⟩)
      exact ⟨⟨by simp, by rintro _ ⟨⟩; exact live, absurd unnamed⟩, gained⟩
    · intro _ l₁ undone
      exact start.owed undone

theorem startMember_backed {network : String} {node : ReplicaNode}
    (backed : progress.Backed o l l₁) :
    Building.wp monitor (startMember pacing ctx o network node)
      (fun service p l₂ => service.name = node.containerName o.name ∧
        p.members = progress.members ++ [service] ∧ p.Backed o l l₂)
      (fun _ p l₂ => p.Owed o l l₂) progress l₁ := by
  refine Building.wp_bind.2 (Building.wp_attempt.2 (Task.wp_mono ?_ ?_ launch_gained))
  · rintro service l₂ ⟨serves, gained⟩
    refine Building.wp_bind.2 (Building.wp_modify.2 ⟨serves.name, rfl, ?_⟩)
    refine ⟨⟨?_, backed.network, backed.foreign⟩, ?_⟩
    · intro s hs
      rcases List.mem_append.1 hs with hs | hs
      · exact backed.members s hs
      · rw [List.mem_singleton.1 hs]
        exact serves.live
    · have := backed.gained.trans gained
      simpa [Progress.names, Progress.ownNetworks, serves.name] using this
  · intro e l₂ undone
    exact backed.owed undone

/-- The members of the set, as far as the stages have come. -/
theorem stages_backed :
    Building.wp monitor (stages pacing ctx o)
      (fun r p l₁ => r.terminated = false ∧ p.members = r.members.map (·.2) ∧
        r.containerNames = ReplicaNode.all.map (·.containerName o.name) ∧ p.Backed o l l₁)
      (fun _ p l₁ => p.Owed o l l₁) {} l := by
  apply Building.wp_seq obtainNetwork_backed
  rintro networkName p₀ l₀ ⟨none₀, backed₀⟩
  apply reach_seq backed₀
  -- Each member adds itself to the record.
  apply Building.wp_seq (startMember_backed backed₀)
  rintro master p₁ l₁ ⟨named₁, members₁, backed₁⟩
  apply Building.wp_seq (startMember_backed backed₁)
  rintro second p₂ l₂ ⟨named₂, members₂, backed₂⟩
  apply Building.wp_seq (startMember_backed backed₂)
  rintro third p₃ l₃ ⟨named₃, members₃, backed₃⟩
  -- From here on nothing is started any more.
  apply reach_seq backed₃
  apply reach_seq backed₃
  apply attempt_seq (initiate_still _ _ _) backed₃
  intro _
  apply reach_seq backed₃
  apply attempt_seq verifyMaster_still backed₃
  intro _
  apply reach_seq backed₃
  apply attempt_seq awaitPrimary_still backed₃
  intro election
  apply reach_seq backed₃
  refine ⟨rfl, ?_, ?_, backed₃⟩
  · rw [members₃, members₂, members₁, none₀]
    rfl
  · simp [containerNames, members, named₁, named₂, named₃, ReplicaNode.all]

end Stages

/-! ## Rolling back -/

theorem terminateAll_holds {services : List Service} {pacing : Pacing}
    {own entered : List String} {l l₁ : Ledger}
    (live : ∀ service ∈ services, service.terminated = false)
    (h : l.Holds l₁ (services.map (·.name)) own entered) :
    Prog.wp Ledger.monitor (terminateAll pacing services)
      (fun _ l₂ => l.Holds l₂ [] own entered) l₁ := by
  induction services generalizing l₁ with
  | nil => exact h
  | cons service services ih =>
    obtain ⟨live₀, live⟩ := List.forall_mem_cons.1 live
    apply Prog.wp_seq (Service.release_holds live₀ h)
    intro _ _ rest
    exact ih live rest

theorem rollback_undone {progress : Progress} {pacing : Pacing} {o : ServiceOptions}
    {l l₁ : Ledger} (h : progress.Owed o l l₁) :
    Prog.wp Ledger.monitor (rollback pacing progress)
      (fun _ l₂ => l.Undone l₂ progress.ownNetworks) l₁ := by
  apply Prog.wp_seq (terminateAll_holds h.members h.holds)
  intro _ l₂ holds
  cases network : progress.network with
  | none =>
    rw [Progress.ownNetworks, network] at holds ⊢
    exact holds
  | some network' =>
    rw [Progress.ownNetworks, network] at holds ⊢
    exact Prog.wp_bind.2 (Network.remove_holds (h.network _ network) holds)

theorem terminateAll_cleans (pacing : Pacing) (services : List Service) :
    Prog.Only Engine.Cleans (terminateAll pacing services) := by
  induction services with
  | nil => trivial
  | cons service services ih =>
    exact Prog.Only.bind (service.release_cleans pacing) fun _ => ih

theorem rollback_cleans (pacing : Pacing) (progress : Progress) :
    Prog.Only Engine.Cleans (rollback pacing progress) := by
  refine Prog.Only.bind (terminateAll_cleans pacing _) fun _ => ?_
  cases progress.network with
  | none => trivial
  | some network => exact Prog.Only.bind network.remove_cleans fun _ => trivial

/-! ## Replica sets -/

theorem terminate_finishes (pacing : Pacing) (r : ReplicaSet) :
    Prog.Finishes Engine.Cleans (r.terminate pacing) := by
  unfold terminate
  split
  · trivial
  refine Prog.Finishes.bind (r.master.terminate_finishes _) fun _ => ?_
  refine Prog.Finishes.bind (r.second.terminate_finishes _) fun _ => ?_
  refine Prog.Finishes.bind (r.third.terminate_finishes _) fun _ => ?_
  have leaves := (Network.mapM_remove_aside r.network).mono fun _ => Engine.Aside.cleans
  exact leaves.bind fun _ => trivial

/-- Nothing of the set has been released. -/
structure Live (r : ReplicaSet) : Prop where
  set : r.terminated = false
  members : ∀ service ∈ r.members.map (·.2), service.terminated = false
  network : ∀ network, r.network = some network → network.removed = false

/-- The networks made for the set. -/
def ownNetworks (r : ReplicaSet) : List String := r.network.toList.map (·.name)

theorem terminate_holds {r : ReplicaSet} {pacing : Pacing} {names own entered : List String}
    {l l₁ : Ledger} (live : r.Live)
    (h : l.Holds l₁ (r.containerNames ++ names) (r.ownNetworks ++ own) entered) :
    Prog.wp Ledger.monitor (r.terminate pacing) (fun _ l₂ => l.Holds l₂ names own entered) l₁ := by
  unfold terminate
  rw [live.set]
  have live' := live.members
  simp only [members, List.map_cons, List.forall_mem_cons] at live'
  apply Prog.wp_seq (Service.terminate_holds live'.1 h)
  intro _ l₂ h
  apply Prog.wp_seq (Service.terminate_holds live'.2.1 h)
  intro _ l₃ h
  apply Prog.wp_seq (Service.terminate_holds live'.2.2.1 h)
  intro _ l₄ h
  exact Prog.wp_bind.2 (Network.mapM_remove_holds live.network h)

section Start

variable {pacing : Pacing} {ctx : Context} {o : ServiceOptions} {l : Ledger}

/-- What a set that has started stands for. -/
structure Started (r : ReplicaSet) (o : ServiceOptions) (l l' : Ledger) : Prop where
  live : r.Live
  names : r.containerNames = ReplicaNode.all.map (·.containerName o.name)
  foreign : o.networks ≠ [] → r.ownNetworks = []
  gained : l.Gained l' r.containerNames r.ownNetworks

theorem ready_started {r : ReplicaSet} {p : Progress} {l₁ : Ledger} (live : r.terminated = false)
    (recorded : p.members = r.members.map (·.2))
    (names : r.containerNames = ReplicaNode.all.map (·.containerName o.name))
    (backed : p.Backed o l l₁) : { r with network := p.network }.Started o l l₁ where
  live := ⟨live, recorded ▸ backed.members, backed.network⟩
  names := names
  foreign := fun named => by simp [ownNetworks, backed.foreign named]
  gained := by
    have gained := backed.gained
    rw [Progress.names, recorded, List.map_map] at gained
    exact gained

theorem start_gained :
    Task.wp Ledger.monitor (start pacing ctx o) (fun r l' => r.Started o l l')
      (fun _ l' => l.Reverted l' o.networks) l := by
  have silent : ∀ notice, Prog.Only Engine.Still (notify notice) := fun notice => System.ask_still _
  unfold start
  refine Task.wp_mk.2 ?_
  -- Ignored credentials are told of, which makes no difference to the books.
  suffices booted : _ by
    split
    · exact Prog.Only.wp_seq (silent _) Ledger.monitor_ignores_still fun _ => booted
    · exact booted
  apply Prog.wp_seq stages_backed
  rintro ⟨_ | r, p⟩ l₁ h
  · have owed : p.Owed o l l₁ := h
    apply Prog.Only.wp_seq (silent _) Ledger.monitor_ignores_still
    intro _
    apply Prog.wp_seq (rollback_undone owed)
    intro _ l₂ undone
    refine ⟨p.ownNetworks, ?_, ?_, undone⟩
    · cases network : p.network <;> simp [Progress.ownNetworks, network]
    · intro named
      simp [Progress.ownNetworks, owed.foreign named]
  · obtain ⟨live, recorded, names, backed⟩ := h
    apply Prog.Only.wp_seq (silent _) Ledger.monitor_ignores_still
    intro _
    exact ready_started live recorded names backed

end Start

end ReplicaSet

end Testbed
