import Mathlib.Data.Set.Insert
import Testbed.Proofs.Starts

/-!
# Containers on networks

A network goes only when no container is on it any more. The monitor of occupancies keeps account of
the containers that are up, and lets a network be removed when none of them is on it. Random
suffixes are new: a name made with one is the name of no network that a container is on.
-/

namespace Testbed

/-! ## What a trace says -/

/-- None of the container's networks is called by a stem and this suffix. -/
def ContainerSpec.Avoids (spec : ContainerSpec) (suffix : String) : Prop :=
  ∀ stem, stem ++ "-" ++ suffix ∉ spec.networks

namespace Trace

/-- Before a network is removed, each container that was started on it has been told to go. -/
def ClearsNetworks (t : Trace) : Prop :=
  ∀ s v u ctx spec network b,
    t = s ++ Engine.event (.run ctx spec) (.ok ()) :: v ++
      Engine.event (.removeNetwork network) b :: u →
    network ∈ spec.networks → spec.name ∈ removed v

/-- A suffix that is drawn has not been used before in the name of a network that a container was
started on. -/
def DrawsFresh (t : Trace) : Prop :=
  ∀ s u suffix, t = s ++ ⟨Sum.inr .suffix, suffix⟩ :: u → ∀ spec ∈ started s, spec.Avoids suffix

end Trace

/-! ## Occupancies -/

/-- The containers that are up: they were started and have not been told to go since. -/
abbrev Occupancy := Set ContainerSpec

namespace Occupancy

/-- The containers that are not called by one of the names. -/
def without (s : Occupancy) (names : List String) : Occupancy :=
  {spec ∈ s | spec.name ∉ names}

/-- No container is on the network. -/
def Vacant (s : Occupancy) (network : String) : Prop :=
  ∀ spec ∈ s, network ∉ spec.networks

/-- A drawn suffix is new, so it leaves out of account the containers that it would tell of. -/
def step (s : Occupancy) : Prog.Event Engine.onSystem → Occupancy
  | ⟨.inl (.run _ spec), .ok ()⟩ => insert spec s
  | ⟨.inl (.remove name), _⟩ => s.without [name]
  | ⟨.inr .suffix, suffix⟩ => {spec ∈ s | spec.Avoids suffix}
  | _ => s

/-- Vacant networks may be removed, and suffixes may be drawn while `P` holds. -/
def monitor (P : Occupancy → Prop) : Monitor Engine.onSystem Occupancy where
  step := step
  allows s
    | .inl (.removeNetwork network) => s.Vacant network
    | .inr .suffix => P s
    | _ => True

variable {P : Occupancy → Prop} {s s₁ s₂ : Occupancy} {names names' own own' : List String}
  {network : String}

theorem monitor_ignores_still : (monitor P).Ignores Engine.Still := by
  rintro (r | r) h s
  · cases r <;> first | exact ⟨trivial, fun _ => rfl⟩ | exact h.elim
  · cases r <;> first | exact ⟨trivial, fun _ => rfl⟩ | exact h.elim

/-! ### Occupancies and traces -/

/-- A container that is up stays up until it is told to go. -/
theorem mem_step {spec : ContainerSpec} {e : Prog.Event Engine.onSystem} (h : spec ∈ s)
    (kept : spec.name ∉ Trace.removed [e])
    (avoids : ∀ suffix, e = ⟨Sum.inr .suffix, suffix⟩ → spec.Avoids suffix) : spec ∈ step s e := by
  obtain ⟨r | r, b⟩ := e
  · cases r with
    | run ctx spec' =>
      cases b with
      | ok => exact .inr h
      | error => exact h
    | remove name => exact ⟨h, kept⟩
    | _ => exact h
  · cases r with
    | suffix => exact ⟨h, avoids b rfl⟩
    | _ => exact h

theorem mem_after {spec : ContainerSpec} {t : Trace} (h : spec ∈ s)
    (accepts : (monitor P).Accepts s t) (kept : spec.name ∉ Trace.removed t)
    (avoids : ∀ suffix, (⟨Sum.inr .suffix, suffix⟩ : Prog.Event Engine.onSystem) ∈ t →
      ∀ s, P s → spec ∈ s → spec.Avoids suffix) :
    spec ∈ (monitor P).after s t := by
  induction t generalizing s with
  | nil => exact h
  | cons e t ih =>
    have split : Trace.removed (e :: t) = Trace.removed [e] ++ Trace.removed t := by
      rw [← Trace.removed_append, List.singleton_append]
    rw [split, List.mem_append, not_or] at kept
    -- Only a drawn suffix could leave out a container that is not told to go.
    have stays : spec ∈ step s e := by
      refine mem_step h kept.1 ?_
      rintro suffix rfl
      exact avoids suffix List.mem_cons_self s accepts.1 h
    exact ih stays accepts.2 kept.2 fun suffix hmem => avoids suffix (List.mem_cons_of_mem _ hmem)

/-- Whoever removes only vacant networks has cleared them, if a suffix is either new or drawn while
nothing is up. -/
theorem clearsNetworks_of_accepts {t : Trace} (accepts : (monitor P).Accepts ∅ t)
    (fresh : t.DrawsFresh ∨ ∀ s, P s → s = ∅) : t.ClearsNetworks := by
  intro s v u ctx spec network b eq on
  subst eq
  let start := Engine.event (.run ctx spec) (.ok ())
  have starts : spec ∈ Trace.started (s ++ [start]) := by
    simp [Trace.started, Trace.deeds, start, Deed.of?, Deed.started?]
  rw [List.append_assoc, List.cons_append] at accepts
  have up : spec ∈ (monitor P).after ∅ (s ++ [start]) := by
    rw [Monitor.after_append]
    exact Set.mem_insert _ _
  have rest : (monitor P).Accepts ((monitor P).after ∅ (s ++ [start]))
      (v ++ Engine.event (.removeNetwork network) b :: u) := by
    rw [Monitor.after_append]
    exact accepts.later.2
  have vacant : ((monitor P).after ((monitor P).after ∅ (s ++ [start])) v).Vacant network :=
    rest.allows
  -- If it had not been told to go, the container would still be on the network.
  refine Decidable.byContradiction fun kept => vacant spec (mem_after up rest.before kept ?_) on
  intro suffix drawn s' draws up'
  obtain ⟨v₁, v₂, rfl⟩ := List.append_of_mem drawn
  rcases fresh with fresh | alone
  · refine fresh (s ++ [start] ++ v₁) (v₂ ++ Engine.event (.removeNetwork network) b :: u) suffix ?_
      spec ?_
    · simp [start]
    · rw [Trace.started_append]
      exact List.mem_append_left _ starts
  · exact absurd up' (alone s' draws ▸ Set.notMem_empty spec)

/-! ### Containers that are left -/

theorem without_subset (s : Occupancy) (names : List String) : s.without names ⊆ s :=
  fun _ h => h.1

theorem without_mono (h : s ⊆ s₁) (names : List String) : s.without names ⊆ s₁.without names :=
  fun _ hmem => ⟨h hmem.1, hmem.2⟩

theorem without_append (s : Occupancy) (names names' : List String) :
    s.without (names ++ names') = (s.without names).without names' := by
  ext spec
  simp [without, and_assoc]

/-- Clearing one container and then others clears them all. -/
theorem subset_without_cons {name : String} (h : s₁ ⊆ s.without [name])
    (h' : s₂ ⊆ s₁.without names) : s₂ ⊆ s.without (name :: names) := by
  have all : s.without (name :: names) = (s.without [name]).without names :=
    without_append s [name] names
  rw [all]
  exact h'.trans (without_mono h names)

theorem without_comm (s : Occupancy) (names names' : List String) :
    (s.without names).without names' = (s.without names').without names := by
  ext spec
  exact and_right_comm

theorem Vacant.mono (h : s₁.Vacant network) (sub : s ⊆ s₁) : s.Vacant network :=
  fun spec hmem => h spec (sub hmem)

/-! ### Fixtures on networks -/

/-- Since `s` only containers called `names` have come up, and on the networks `own` there are no
others. -/
structure Boards (s s' : Occupancy) (names own : List String) : Prop where
  boarded : s'.without names ⊆ s
  alone : ∀ network ∈ own, (s'.without names).Vacant network

theorem Boards.of_subset (h : s₁ ⊆ s) : Boards s s₁ [] [] :=
  ⟨(without_subset _ _).trans h, by simp⟩

theorem Boards.join (h : s₁ ⊆ s) (vacant : ∀ network ∈ own, s₁.Vacant network) :
    Boards s s₁ [] own where
  boarded := (without_subset _ _).trans h
  alone := fun network hmem => (vacant network hmem).mono (without_subset _ _)

theorem Boards.run (s : Occupancy) (spec : ContainerSpec) :
    Boards s (insert spec s) [spec.name] [] where
  boarded := by
    rintro spec' ⟨rfl | hmem, hname⟩
    · exact absurd (List.mem_singleton_self _) hname
    · exact hmem
  alone := by simp

theorem Boards.shrink (h : Boards s s₁ names own) (sub : s₂ ⊆ s₁) : Boards s s₂ names own where
  boarded := (without_mono sub names).trans h.boarded
  alone := fun network hmem => (h.alone network hmem).mono (without_mono sub names)

theorem Boards.enlarge (h : Boards s s₁ names own) (sub : names ⊆ names') :
    Boards s s₁ names' own := by
  have fewer : s₁.without names' ⊆ s₁.without names := fun _ hmem =>
    ⟨hmem.1, fun hname => hmem.2 (sub hname)⟩
  exact ⟨fewer.trans h.boarded, fun network hmem => (h.alone network hmem).mono fewer⟩

theorem Boards.trans (h : Boards s s₁ names own) (h' : Boards s₁ s₂ names' own') :
    Boards s s₂ (names ++ names') (own ++ own') := by
  -- What is left without the later names was there in between.
  have between : s₂.without (names ++ names') ⊆ s₁.without names := by
    rw [without_append, without_comm]
    exact without_mono h'.boarded names
  refine ⟨between.trans h.boarded, fun network hmem => ?_⟩
  rcases List.mem_append.1 hmem with hmem | hmem
  · exact (h.alone network hmem).mono between
  · refine (h'.alone network hmem).mono ?_
    rw [without_append, without_comm]
    exact without_subset _ _

end Occupancy

open Occupancy (Boards monitor monitor_ignores_still)

variable {P : Occupancy → Prop} {s s₁ s₂ : Occupancy} {pacing : Pacing} {ctx : Context}

/-! ## Removing and launching -/

theorem removeForced_clears (retry : RetryPolicy) (name : String) :
    Prog.wp (monitor P) (removeForced retry name) (fun _ s' => s' ⊆ s.without [name]) s := by
  refine removeForced_wp monitor_ignores_still ⟨trivial, fun _ => Set.Subset.rfl⟩ ?_ retry
  intro s' cleared
  exact ⟨trivial, fun _ => (Occupancy.without_subset _ _).trans cleared⟩

theorem Service.terminate_clears {service : Service} (live : service.terminated = false) :
    Prog.wp (monitor P) (service.terminate pacing)
      (fun service' s' => service'.terminated = true ∧ s' ⊆ s.without [service.name]) s := by
  refine Service.terminate_wp monitor_ignores_still live ?_
  exact Prog.wp_mono (fun _ _ cleared => ⟨rfl, cleared⟩) (removeForced_clears _ _)

theorem Service.release_clears {service : Service} (live : service.terminated = false) :
    Prog.wp (monitor P) (service.release pacing)
      (fun _ s' => s' ⊆ s.without [service.name]) s :=
  Prog.wp_bind.2 (Prog.wp_mono (fun _ _ h => h.2) (Service.terminate_clears live))

theorem launch_boards {request : LaunchRequest} :
    Task.wp (monitor P) (launch pacing ctx request)
      (fun service s' => service.Serves request ∧ Boards s s' [request.spec.name] [])
      (fun _ s' => s' ⊆ s) s := by
  refine launch_wp monitor_ignores_still trivial (fun _ => Set.Subset.rfl) ?_ ?_
  · intro service serves
    exact ⟨serves, .run s request.spec⟩
  · intro _
    refine Prog.wp_mono ?_ (removeForced_clears _ _)
    intro _ _ cleared
    exact cleared.trans (Boards.run s request.spec).boarded

/-- A service that was launched is handed out once it can be reached, or else let go. -/
theorem connect_or_clear {request : LaunchRequest} {service : Service} {address : Address}
    (serves : service.Serves request) (boards : Boards s s₁ [request.spec.name] []) :
    Task.wp (monitor P) ((connect address).onFailure fun _ => service.release pacing)
      (fun _ s' => s' = s₁) (fun _ s' => s' ⊆ s) s₁ := by
  refine Task.wp_onFailure.2 ?_
  refine Task.Only.wp (connect_still _) monitor_ignores_still (fun _ => rfl) ?_
  intro _
  refine Prog.wp_mono ?_ (Service.release_clears serves.live)
  intro _ s' cleared
  rw [serves.name] at cleared
  exact cleared.trans boards.boarded

/-! ## Networks -/

namespace Network

theorem create_keeps {name : String} :
    Task.wp (monitor P) (create ctx name) (fun network s' => network = { name } ∧ s' = s)
      (fun _ s' => s' = s) s :=
  create_wp monitor_ignores_still trivial (fun _ => rfl) ⟨rfl, rfl⟩ fun _ =>
    Engine.createNetwork_wp.2 ⟨trivial, fun _ => ⟨rfl, rfl⟩, fun _ => rfl⟩

/-- No container is on a network that was made just now. -/
theorem createUnique_vacant {stem : String} (draws : P s) :
    Task.wp (monitor P) (createUnique ctx stem)
      (fun network s' => network.removed = false ∧ s' ⊆ s ∧ s'.Vacant network.name)
      (fun _ s' => s' ⊆ s) s := by
  refine Task.wp_bind.2 (Task.wp_lift.2 ⟨draws, fun suffix => ?_⟩)
  have left : {spec ∈ s | spec.Avoids suffix} ⊆ s := fun _ h => h.1
  refine Task.wp_mono ?_ ?_ create_keeps
  · rintro _ _ ⟨rfl, rfl⟩
    exact ⟨rfl, left, fun spec avoids => avoids.2 stem⟩
  · rintro _ _ rfl
    exact left

theorem remove_keeps {network : Network} (live : network.removed = false)
    (vacant : s.Vacant network.name) :
    Prog.wp (monitor P) network.remove (fun _ s' => s' = s) s :=
  remove_wp monitor_ignores_still live vacant fun _ => rfl

/-- A network that a fixture may have of its own goes together with it. -/
theorem mapM_remove_keeps {network : Option Network}
    (live : ∀ n, network = some n → n.removed = false)
    (vacant : ∀ name ∈ network.toList.map (·.name), s.Vacant name) :
    Prog.wp (monitor P) (network.mapM Network.remove) (fun _ s' => s' = s) s := by
  cases network with
  | none => rfl
  | some n => exact Prog.wp_map.2 (remove_keeps (live n rfl) (vacant n.name (by simp)))

end Network

/-! ## Caches -/

namespace Cache

theorem start_boards {o : ServiceOptions} :
    Task.wp (monitor P) (start pacing ctx o) (fun c s' => Boards s s' c.containerNames [] ∧ c.Live)
      (fun _ s' => s' ⊆ s) s := by
  apply Task.wp_seq launch_boards
  rintro service s₁ ⟨serves, boards⟩
  apply Task.wp_seq (connect_or_clear serves boards)
  rintro _ _ rfl
  rw [← serves.name] at boards
  exact ⟨boards, serves.live⟩

theorem terminate_clears {c : Cache} (live : c.Live) :
    Prog.wp (monitor P) (c.terminate pacing)
      (fun c' s' => c'.service.terminated = true ∧ s' ⊆ s.without c.containerNames) s :=
  Prog.wp_bind.2 (Service.terminate_clears live)

end Cache

/-! ## Replica sets -/

namespace ReplicaSet

variable {o : ServiceOptions} {progress : Progress}

/-- What is on record has come up since `s`. -/
abbrev Progress.Boarded (progress : Progress) (s s' : Occupancy) : Prop :=
  Boards s s' progress.names progress.ownNetworks

theorem obtainNetwork_boarded (draws : P s) :
    Building.wp (monitor P) (obtainNetwork ctx o) (fun _ p s' => p.Boarded s s')
      (fun _ p s' => p.Boarded s s') {} s := by
  unfold obtainNetwork
  split
  · exact .of_subset Set.Subset.rfl
  · refine Building.wp_bind.2 (Building.wp_attempt.2 ?_)
    refine Task.wp_mono ?_ ?_ (Network.createUnique_vacant draws)
    · rintro network s' ⟨-, sub, vacant⟩
      refine Building.wp_bind.2 (Building.wp_modify.2 (.join sub ?_))
      simpa [Progress.ownNetworks] using vacant
    · intro _ s' sub
      exact .of_subset sub

theorem startMember_boarded {network : String} {node : ReplicaNode}
    (boarded : progress.Boarded s s₁) :
    Building.wp (monitor P) (startMember pacing ctx o network node)
      (fun _ p s' => p.Boarded s s') (fun _ p s' => p.Boarded s s') progress s₁ := by
  refine Building.wp_bind.2 (Building.wp_attempt.2 (Task.wp_mono ?_ ?_ launch_boards))
  · rintro service s₂ ⟨serves, boards⟩
    refine Building.wp_bind.2 (Building.wp_modify.2 ?_)
    have both := boarded.trans boards
    rw [List.append_nil, ← serves.name] at both
    simpa [Progress.Boarded, Progress.names, Progress.ownNetworks] using both
  · intro _ s₂ sub
    exact boarded.shrink sub

/-- A stage that starts nothing leaves the record to those that follow it. -/
theorem quiet_seq {α β : Type} {task : Attempt α} {f : α → Building β}
    {Q : β → Progress → Occupancy → Prop} (h : Task.Only Engine.Still task)
    (boarded : progress.Boarded s s₁)
    (hf : ∀ a, Building.wp (monitor P) (f a) Q (fun _ p s' => p.Boarded s s') progress s₁) :
    Building.wp (monitor P) (attempt task >>= f) Q (fun _ p s' => p.Boarded s s') progress s₁ :=
  Building.wp_only_seq h monitor_ignores_still hf fun _ => boarded

theorem stages_boarded (draws : P s) :
    Building.wp (monitor P) (stages pacing ctx o) (fun _ p s' => p.Boarded s s')
      (fun _ p s' => p.Boarded s s') {} s := by
  have reached : ∀ stage, Task.Only Engine.Still
      (liftM (notify (.stageReached o.name stage)) : Attempt Unit) :=
    fun stage => Task.Only.lift (System.ask_still _)
  apply Building.wp_seq (obtainNetwork_boarded draws)
  intro _ p₀ s₀ boarded₀
  apply quiet_seq (reached _) boarded₀
  intro _
  apply Building.wp_seq (startMember_boarded boarded₀)
  intro master p₁ s₁ boarded₁
  apply Building.wp_seq (startMember_boarded boarded₁)
  intro second p₂ s₂ boarded₂
  apply Building.wp_seq (startMember_boarded boarded₂)
  intro third p₃ s₃ boarded₃
  -- Nobody boards from here on.
  apply quiet_seq (reached _) boarded₃
  intro _
  apply quiet_seq (reached _) boarded₃
  intro _
  apply quiet_seq (initiate_still _ _ _) boarded₃
  intro _
  apply quiet_seq (reached _) boarded₃
  intro _
  apply quiet_seq verifyMaster_still boarded₃
  intro _
  apply quiet_seq (reached _) boarded₃
  intro _
  apply quiet_seq awaitPrimary_still boarded₃
  intro _
  apply quiet_seq (reached _) boarded₃
  intro _
  exact boarded₃

theorem terminateAll_clears {services : List Service}
    (live : ∀ service ∈ services, service.terminated = false) :
    Prog.wp (monitor P) (terminateAll pacing services)
      (fun _ s' => s' ⊆ s.without (services.map (·.name))) s := by
  induction services generalizing s with
  | nil =>
    have all : s ⊆ s.without [] := fun _ hmem => ⟨hmem, List.not_mem_nil⟩
    exact all
  | cons service services ih =>
    obtain ⟨live₀, live⟩ := List.forall_mem_cons.1 live
    apply Prog.wp_seq (Service.release_clears live₀)
    intro _ s₁ cleared
    -- The others are cleared from what the first one has left.
    refine Prog.wp_mono ?_ (ih live)
    intro _ s₂ cleared'
    exact Occupancy.subset_without_cons cleared cleared'

theorem rollback_clears (live : progress.Live o) (boarded : progress.Boarded s s₁) :
    Prog.wp (monitor P) (rollback pacing progress) (fun _ s' => s' ⊆ s) s₁ := by
  apply Prog.wp_seq (terminateAll_clears live.members)
  intro _ s₂ cleared
  have gone : s₂ ⊆ s := cleared.trans boarded.boarded
  cases network : progress.network with
  | none => exact gone
  | some network' =>
    have vacant : s₂.Vacant network'.name := by
      refine (boarded.alone _ ?_).mono cleared
      simp [Progress.ownNetworks, network]
    refine Prog.wp_bind.2 (Prog.wp_mono ?_ (Network.remove_keeps (live.network _ network) vacant))
    rintro _ _ rfl
    exact gone

/-- Whatever comes of the stages, nothing on record has been released. -/
theorem stages_recorded (draws : P s) :
    Building.wp (monitor P) (stages pacing ctx o)
      (fun r p s' => p.Boarded s s' ∧ p.members = r.members.map (·.2))
      (fun _ p s' => p.Boarded s s' ∧ p.Live o) {} s := by
  refine Building.wp_and_result (stages_boarded draws) (N := Ledger.monitor) (n := {}) ?_
  refine Building.wp_mono ?_ ?_ stages_backed
  · rintro r p l ⟨-, members, -, -⟩
    exact members
  · intro _ p l owed
    exact owed.toLive

theorem start_boards (draws : P s) :
    Task.wp (monitor P) (start pacing ctx o)
      (fun r s' => Boards s s' r.containerNames r.ownNetworks ∧ r.Live) (fun _ s' => s' ⊆ s) s := by
  have silent : ∀ notice, Prog.Only Engine.Still (notify notice) := fun notice => System.ask_still _
  -- That nothing of what is handed out has been released, the ledger tells.
  suffices booted : Task.wp (monitor P) (start pacing ctx o)
      (fun r s' => Boards s s' r.containerNames r.ownNetworks) (fun _ s' => s' ⊆ s) s by
    exact Task.wp_and_result booted
      (Task.wp_mono (fun _ _ started => started.live) (fun _ _ h => h) (start_gained (l := {})))
  unfold start
  refine Task.wp_mk.2 ?_
  suffices staged : _ by
    split
    · exact Prog.Only.wp_seq (silent _) monitor_ignores_still fun _ => staged
    · exact staged
  apply Prog.wp_seq (stages_recorded draws)
  rintro ⟨_ | r, p⟩ s₁ h
  · have failed : p.Boarded s s₁ ∧ p.Live o := h
    apply Prog.Only.wp_seq (silent _) monitor_ignores_still
    intro _
    apply Prog.wp_seq (rollback_clears failed.2 failed.1)
    intro _ _ gone
    exact gone
  · obtain ⟨boarded, members⟩ := h
    apply Prog.Only.wp_seq (silent _) monitor_ignores_still
    intro _
    rw [Progress.Boarded, Progress.names, members, List.map_map] at boarded
    exact boarded

theorem terminate_clears {r : ReplicaSet} (live : r.Live)
    (alone : ∀ network ∈ r.ownNetworks, (s.without r.containerNames).Vacant network) :
    Prog.wp (monitor P) (r.terminate pacing)
      (fun r' s' => r'.terminated = true ∧ s' ⊆ s.without r.containerNames) s := by
  unfold terminate
  rw [live.set]
  have live' := live.members
  simp only [members, List.map_cons, List.forall_mem_cons] at live'
  apply Prog.wp_seq (Service.terminate_clears live'.1)
  rintro _ s₁ ⟨-, cleared₁⟩
  apply Prog.wp_seq (Service.terminate_clears live'.2.1)
  rintro _ s₂ ⟨-, cleared₂⟩
  apply Prog.wp_seq (Service.terminate_clears live'.2.2.1)
  rintro _ s₃ ⟨-, cleared₃⟩
  have cleared : s₃ ⊆ s.without r.containerNames :=
    Occupancy.subset_without_cons cleared₁ (Occupancy.subset_without_cons cleared₂ cleared₃)
  refine Prog.wp_bind.2 (Prog.wp_mono ?_ (Network.mapM_remove_keeps live.network ?_))
  · rintro _ _ rfl
    exact ⟨rfl, cleared⟩
  · intro name hmem
    exact (alone name hmem).mono cleared

end ReplicaSet

/-! ## Databases -/

namespace Database

theorem start_boards {o : ServiceOptions} (draws : P s) :
    Task.wp (monitor P) (start pacing ctx o)
      (fun d s' => Boards s s' d.containerNames d.ownNetworks ∧ d.Live) (fun _ s' => s' ⊆ s) s := by
  unfold start
  split
  · apply Task.wp_seq (ReplicaSet.start_boards draws)
    rintro set s₁ ⟨boards, live⟩
    refine Task.wp_bind.2 (Task.wp_onFailure.2 ?_)
    refine Task.Only.wp (connect_still _) monitor_ignores_still (fun _ => ⟨boards, live⟩) ?_
    intro _
    apply Prog.wp_seq (ReplicaSet.terminate_clears live boards.alone)
    rintro _ s₂ ⟨-, cleared⟩
    exact cleared.trans boards.boarded
  · have notes : Task.Only Engine.Still ((LaunchRequest.databaseNotice? o).forM
        fun notice => (notify notice : Action Unit) : Attempt Unit) := by
      cases LaunchRequest.databaseNotice? o with
      | none => trivial
      | some notice => exact Task.Only.lift (System.ask_still _)
    refine Task.Only.wp_seq notes monitor_ignores_still ?_ (fun _ => Set.Subset.rfl)
    intro _
    apply Task.wp_seq launch_boards
    rintro service s₁ ⟨serves, boards⟩
    apply Task.wp_seq (connect_or_clear serves boards)
    rintro _ _ rfl
    rw [← serves.name] at boards
    exact ⟨boards, serves.live⟩

end Database

/-! ## Brokers -/

namespace Broker

variable {o : BrokerOptions}

theorem obtainNetwork_vacant (draws : P s) :
    Task.wp (monitor P) (obtainNetwork ctx o)
      (fun r s' => (∀ network, r.2 = some network → network.removed = false) ∧ s' ⊆ s ∧
        ∀ name ∈ r.2.toList.map (·.name), s'.Vacant name)
      (fun _ s' => s' ⊆ s) s := by
  unfold obtainNetwork
  split
  · exact ⟨nofun, Set.Subset.rfl, by simp⟩
  · apply Task.wp_seq (Network.createUnique_vacant draws)
    rintro network s' ⟨live, sub, vacant⟩
    refine ⟨?_, sub, by simpa using vacant⟩
    rintro _ ⟨⟩
    exact live

theorem startBeside_boards {networks : List String} {network : Option Network}
    {coordinator : Service} :
    Task.wp (monitor P) (startBeside pacing ctx o networks network coordinator)
      (fun b s' => b.coordinator = coordinator ∧ b.network = network ∧
        Boards s s' [b.broker.name] [])
      (fun _ s' => s' ⊆ s) s := by
  refine Task.Only.wp_seq (obtainPort_still o) monitor_ignores_still ?_ (fun _ => Set.Subset.rfl)
  intro port
  apply Task.wp_seq launch_boards
  rintro broker s₁ ⟨serves, boards⟩
  apply Task.wp_seq (connect_or_clear serves boards)
  rintro _ _ rfl
  rw [← serves.name] at boards
  exact ⟨rfl, rfl, boards⟩

/-- A failed start leaves its network once it is vacant. -/
theorem leave_keeps {network : Option Network}
    (kept : ∀ n, network = some n → n.removed = false)
    (vacant : ∀ name ∈ network.toList.map (·.name), s.Vacant name) :
    Prog.wp (monitor P) (network.forM fun network => discard network.remove)
      (fun _ s' => s' = s) s := by
  cases network with
  | none => rfl
  | some n => exact Prog.wp_bind.2 (Network.remove_keeps (kept n rfl) (vacant n.name (by simp)))

theorem start_boards (draws : P s) :
    Task.wp (monitor P) (start pacing ctx o)
      (fun b s' => Boards s s' b.containerNames b.ownNetworks ∧ b.Live) (fun _ s' => s' ⊆ s) s := by
  suffices started : Task.wp (monitor P) (start pacing ctx o)
      (fun b s' => Boards s s' b.containerNames b.ownNetworks) (fun _ s' => s' ⊆ s) s by
    exact Task.wp_and_result started
      (Task.wp_mono (fun _ _ started => started.1) (fun _ _ h => h) (start_gained (l := {})))
  apply Task.wp_seq (obtainNetwork_vacant draws)
  rintro ⟨networkName, network⟩ s₁ ⟨kept, sub₁, vacant₁⟩
  refine Task.wp_onFailure.2 (Task.wp_bind.2 (Task.wp_mono ?_ ?_ launch_boards))
  · rintro coordinator s₂ ⟨serves, boards⟩
    have coordinated := (Boards.join sub₁ vacant₁).trans boards
    rw [List.append_nil, List.nil_append, ← serves.name] at coordinated
    refine Task.wp_onFailure.2 (Task.wp_mono ?_ ?_ startBeside_boards)
    · rintro b s₃ ⟨rfl, rfl, boards'⟩
      have all := coordinated.trans boards'
      rw [List.append_nil] at all
      exact all.enlarge (List.reverse_perm [b.broker.name, b.coordinator.name]).subset
    · intro _ s₃ sub₃
      -- The broker is gone by now; the coordinator goes next and then the network.
      refine Prog.wp_mono ?_ (Service.release_clears serves.live)
      intro _ s₄ sub₄
      have cleared := sub₄.trans (Occupancy.without_mono sub₃ _)
      refine Prog.wp_mono ?_ (leave_keeps kept fun name hmem =>
        (coordinated.alone name hmem).mono cleared)
      rintro _ _ rfl
      exact cleared.trans coordinated.boarded
  · intro _ s₂ sub₂
    refine Prog.wp_mono ?_ (leave_keeps kept fun name hmem => (vacant₁ name hmem).mono sub₂)
    rintro _ _ rfl
    exact sub₂.trans sub₁

theorem terminate_clears {b : Broker} (live : b.Live)
    (alone : ∀ network ∈ b.ownNetworks, (s.without b.containerNames).Vacant network) :
    Prog.wp (monitor P) (b.terminate pacing)
      (fun b' s' => b'.terminated = true ∧ s' ⊆ s.without b.containerNames) s := by
  unfold terminate
  rw [live.whole]
  apply Prog.wp_seq (Service.terminate_clears live.broker)
  rintro _ s₁ ⟨-, cleared₁⟩
  apply Prog.wp_seq (Service.terminate_clears live.coordinator)
  rintro _ s₂ ⟨-, cleared₂⟩
  have cleared : s₂ ⊆ s.without b.containerNames :=
    Occupancy.subset_without_cons cleared₁ cleared₂
  refine Prog.wp_bind.2 (Prog.wp_mono ?_ (Network.mapM_remove_keeps live.network ?_))
  · rintro _ _ rfl
    exact ⟨rfl, cleared⟩
  · intro name hmem
    exact (alone name hmem).mono cleared

end Broker

end Testbed
