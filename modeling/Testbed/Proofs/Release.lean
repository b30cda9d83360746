import Testbed.Proofs.Launching

/-!
# What a start leaves behind

A start that succeeds has gained the containers of its fixture and the network made for it. A start
that fails has undone what it did. Both are relations between the ledgers before and after, and so
is what lies between them: to hold what is still to be undone.
-/

namespace Testbed

/-! ## Progress of a ledger -/

namespace Ledger

/-- Since `l` the containers called `names` have been started in this order, and the networks `own`
have been joined. Nothing has been refused, removed or left. -/
structure Gained (l l' : Ledger) (names own : List String) : Prop where
  started : ∃ specs, specs.map (·.name) = names ∧ l'.started = l.started ++ specs
  refused : l'.refused = l.refused
  owes : ∃ specs, specs.map (·.name) = names ∧ l'.owed = l.owed ++ specs
  joined : l'.joined = l.joined ++ own
  left : l'.left = l.left
  due : l'.due = l.due ++ own

/-- Since `l` the networks `entered` have been joined. What is left to be undone is to remove the
containers called `names` and to leave the networks `own`. -/
structure Holds (l l' : Ledger) (names own entered : List String) : Prop where
  started : l.started <+: l'.started
  names_started : ∀ name ∈ names, name ∈ l'.started.map (·.name)
  owed : ∀ spec ∈ l'.owed, spec ∈ l.owed ∨ spec.name ∈ names
  joined : l'.joined = l.joined ++ entered
  own_joined : ∀ name ∈ own, name ∈ l'.joined
  left : (l'.left ++ own).Perm (l.left ++ entered)
  due : ∀ name ∈ l'.due, name ∈ l.due ∨ name ∈ own

/-- What has been done since `l` is undone. The networks `entered` have been joined and left. -/
abbrev Undone (l l' : Ledger) (entered : List String) : Prop := Holds l l' [] [] entered

/-- All that has been done since the books were opened is undone. -/
def Settled (l : Ledger) : Prop := ∃ entered, Undone {} l entered

/-- A start has been undone whose options name the networks `named`: it has joined one network at
most, and none if one was named. -/
def Reverted (l l' : Ledger) (named : List String) : Prop :=
  ∃ entered, entered.length ≤ 1 ∧ (named ≠ [] → entered = []) ∧ Undone l l' entered

variable {l l₁ l₂ : Ledger} {names names' own own' entered entered' : List String}

/-! ### Gaining -/

theorem Gained.refl (l : Ledger) : Gained l l [] [] :=
  have same {β : Type} (book : List β) : book = book ++ [] := (List.append_nil _).symm
  ⟨⟨[], rfl, same _⟩, rfl, ⟨[], rfl, same _⟩, same _, rfl, same _⟩

theorem Gained.run (l : Ledger) (spec : ContainerSpec) :
    Gained l (l.enter (.started spec)) [spec.name] [] :=
  have same : l.due = l.due ++ [] := (List.append_nil _).symm
  ⟨⟨[spec], rfl, rfl⟩, rfl, ⟨[spec], rfl, rfl⟩, (List.append_nil _).symm, rfl, same⟩

theorem Gained.join (l : Ledger) (network : String) :
    Gained l (l.enter (.joined network)) [] [network] :=
  ⟨(Gained.refl l).started, rfl, (Gained.refl l).owes, rfl, rfl, rfl⟩

/-- What is owed after a gain was owed before, or has been gained. -/
theorem Gained.owed (h : Gained l l₁ names own) :
    ∀ spec ∈ l₁.owed, spec ∈ l.owed ∨ spec.name ∈ names := by
  obtain ⟨specs, rfl, owes⟩ := h.owes
  intro spec hmem
  rw [owes] at hmem
  exact (List.mem_append.1 hmem).imp_right fun hmem => List.mem_map_of_mem hmem

theorem Gained.trans (h : Gained l l₁ names own) (h' : Gained l₁ l₂ names' own') :
    Gained l l₂ (names ++ names') (own ++ own') where
  started := by
    obtain ⟨specs, rfl, hstarted⟩ := h.started
    obtain ⟨specs', rfl, hstarted'⟩ := h'.started
    exact ⟨specs ++ specs', List.map_append, by rw [hstarted', hstarted, List.append_assoc]⟩
  refused := h'.refused.trans h.refused
  owes := by
    obtain ⟨specs, rfl, howed⟩ := h.owes
    obtain ⟨specs', rfl, howed'⟩ := h'.owes
    exact ⟨specs ++ specs', List.map_append, by rw [howed', howed, List.append_assoc]⟩
  joined := by rw [h'.joined, h.joined, List.append_assoc]
  left := h'.left.trans h.left
  due := by rw [h'.due, h.due, List.append_assoc]

/-! ### Holding -/

theorem Gained.holds (h : Gained l l₁ names own) : Holds l l₁ names own own where
  started := by
    obtain ⟨specs, -, hstarted⟩ := h.started
    exact hstarted ▸ List.prefix_append _ _
  names_started := by
    obtain ⟨specs, rfl, hstarted⟩ := h.started
    intro name hmem
    rw [hstarted, List.map_append]
    exact List.mem_append_right _ hmem
  owed := h.owed
  joined := h.joined
  own_joined := fun name hmem => h.joined ▸ List.mem_append_right _ hmem
  left := by rw [h.left]
  due := by
    intro name hmem
    rw [h.due] at hmem
    exact List.mem_append.1 hmem

theorem Undone.refl (l : Ledger) : Undone l l [] := (Gained.refl l).holds

theorem Undone.refuse (l : Ledger) (spec : ContainerSpec) :
    Undone l (l.enter (.refused spec)) [] :=
  have h := Undone.refl l
  ⟨h.started, h.names_started, h.owed, h.joined, h.own_joined, h.left, h.due⟩

theorem Undone.reverted {named : List String} (h : Undone l l₁ []) : Reverted l l₁ named :=
  ⟨[], Nat.zero_le _, fun _ => rfl, h⟩

theorem Undone.owed_nil (h : Undone {} l entered) : l.owed = [] := by
  refine List.eq_nil_iff_forall_not_mem.2 fun spec hmem => ?_
  exact (h.owed spec hmem).elim List.not_mem_nil List.not_mem_nil

theorem Undone.due_nil (h : Undone {} l entered) : l.due = [] := by
  refine List.eq_nil_iff_forall_not_mem.2 fun name hmem => ?_
  exact (h.due name hmem).elim List.not_mem_nil List.not_mem_nil

theorem Holds.trans (h : Holds l l₁ names own entered) (h' : Holds l₁ l₂ names' own' entered') :
    Holds l l₂ (names ++ names') (own ++ own') (entered ++ entered') where
  started := h.started.trans h'.started
  names_started := by
    intro name hmem
    rcases List.mem_append.1 hmem with hmem | hmem
    · exact (h'.started.map _).subset (h.names_started name hmem)
    · exact h'.names_started name hmem
  owed := by
    intro spec hmem
    rcases h'.owed spec hmem with hmem | hname
    · exact (h.owed spec hmem).imp_right (List.mem_append_left _)
    · exact .inr (List.mem_append_right _ hname)
  joined := by rw [h'.joined, h.joined, List.append_assoc]
  own_joined := by
    intro name hmem
    rcases List.mem_append.1 hmem with hmem | hmem
    · rw [h'.joined]
      exact List.mem_append_left _ (h.own_joined name hmem)
    · exact h'.own_joined name hmem
  left := by
    -- What is still to be left from before passes behind what the second part left.
    calc l₂.left ++ (own ++ own')
      _ |>.Perm (l₂.left ++ own' ++ own) := by
        rw [List.append_assoc]
        exact List.perm_append_comm.append_left _
      _ |>.Perm (l₁.left ++ entered' ++ own) := h'.left.append_right _
      _ |>.Perm (l₁.left ++ own ++ entered') := by
        rw [List.append_assoc, List.append_assoc]
        exact List.perm_append_comm.append_left _
      _ |>.Perm (l.left ++ (entered ++ entered')) := by
        rw [← List.append_assoc]
        exact h.left.append_right _
  due := by
    intro name hmem
    rcases h'.due name hmem with hmem | hmem
    · exact (h.due name hmem).imp_right (List.mem_append_left _)
    · exact .inr (List.mem_append_right _ hmem)

/-- A step that undoes what it did changes nothing in what is left to do. -/
theorem Holds.undone (h : Holds l l₁ names own entered) (h' : Undone l₁ l₂ entered') :
    Holds l l₂ names own (entered ++ entered') := by
  simpa using h.trans h'

theorem Holds.remove {name : String} (h : Holds l l₁ names own entered)
    (hsub : names' ⊆ names) (hrest : names ⊆ name :: names') :
    Holds l (l₁.enter (.removed name)) names' own entered where
  started := h.started
  names_started := fun n hmem => h.names_started n (hsub hmem)
  owed := by
    intro spec hmem
    obtain ⟨hmem, hne⟩ := List.mem_filter.1 hmem
    refine (h.owed spec hmem).imp_right ?_
    intro hname
    exact (List.mem_cons.1 (hrest hname)).resolve_left (by simpa using hne)
  joined := h.joined
  own_joined := h.own_joined
  left := h.left
  due := h.due

theorem Holds.leave {network : String} (h : Holds l l₁ names (network :: own) entered) :
    Holds l (l₁.enter (.left network)) names own entered where
  started := h.started
  names_started := h.names_started
  owed := h.owed
  joined := h.joined
  own_joined := fun name hmem => h.own_joined name (List.mem_cons_of_mem _ hmem)
  left := by
    have := h.left
    rwa [List.append_cons] at this
  due := by
    intro name hmem
    obtain ⟨hmem, hne⟩ := List.mem_filter.1 hmem
    refine (h.due name hmem).imp_right fun own => ?_
    exact (List.mem_cons.1 own).resolve_left (by simpa using hne)

theorem Holds.perm (h : Holds l l₁ names own entered) (hnames : names.Perm names')
    (hown : own.Perm own') : Holds l l₁ names' own' entered where
  started := h.started
  names_started := fun name hmem => h.names_started name (hnames.mem_iff.2 hmem)
  owed := fun spec hmem => (h.owed spec hmem).imp_right hnames.mem_iff.1
  joined := h.joined
  own_joined := fun name hmem => h.own_joined name (hown.mem_iff.2 hmem)
  left := (hown.symm.append_left _).trans h.left
  due := fun name hmem => (h.due name hmem).imp_right hown.mem_iff.1

end Ledger

/-! ## Releasing -/

section Releasing

open Ledger

variable {l l₁ : Ledger} {names own entered : List String} {pacing : Pacing}

theorem removeForced_enters (retry : RetryPolicy) {name : String}
    (h : name ∈ l.started.map (·.name)) :
    Prog.wp monitor (removeForced retry name) (fun _ l' => l' = l.enter (.removed name)) l := by
  refine removeForced_wp monitor_ignores_still ⟨h, fun _ => rfl⟩ ?_ retry
  -- To remove a container once more changes nothing on the books.
  rintro _ rfl
  refine ⟨h, fun _ => ?_⟩
  simp [monitor, Deed.of?, enter, List.filter_filter]

theorem removeForced_holds (retry : RetryPolicy) {name : String}
    (h : Holds l l₁ (name :: names) own entered) :
    Prog.wp monitor (removeForced retry name) (fun _ l₂ => Holds l l₂ names own entered) l₁ := by
  refine Prog.wp_mono ?_ (removeForced_enters retry (h.names_started _ List.mem_cons_self))
  rintro _ _ rfl
  exact h.remove (List.subset_cons_self _ _) (List.Subset.refl _)

theorem Service.terminate_holds {service : Service} (live : service.terminated = false)
    (h : Holds l l₁ (service.name :: names) own entered) :
    Prog.wp monitor (service.terminate pacing) (fun _ l₂ => Holds l l₂ names own entered) l₁ :=
  Service.terminate_wp monitor_ignores_still live (removeForced_holds pacing.retry h)

theorem Service.release_holds {service : Service} (live : service.terminated = false)
    (h : Holds l l₁ (service.name :: names) own entered) :
    Prog.wp monitor (service.release pacing) (fun _ l₂ => Holds l l₂ names own entered) l₁ :=
  Prog.wp_bind.2 (Service.terminate_holds live h)

theorem Network.remove_holds {network : Network} (live : network.removed = false)
    (h : Holds l l₁ names (network.name :: own) entered) :
    Prog.wp monitor network.remove (fun _ l₂ => Holds l l₂ names own entered) l₁ :=
  Network.remove_wp monitor_ignores_still live (h.own_joined _ List.mem_cons_self) fun _ => h.leave

/-- A network that a fixture may have of its own is left together with it. -/
theorem Network.mapM_remove_holds {network : Option Network}
    (live : ∀ n, network = some n → n.removed = false)
    (h : Holds l l₁ names (network.toList.map (·.name) ++ own) entered) :
    Prog.wp monitor (network.mapM Network.remove)
      (fun _ l₂ => Holds l l₂ names own entered) l₁ := by
  cases network with
  | none => exact h
  | some n => exact Prog.wp_map.2 (Network.remove_holds (live n rfl) h)

end Releasing

/-! ## Starting one container -/

section Starting

open Ledger

variable {l : Ledger} {pacing : Pacing} {ctx : Context}

theorem launch_gained {request : LaunchRequest} :
    Task.wp monitor (launch pacing ctx request)
      (fun service l' => service.Serves request ∧ Gained l l' [request.spec.name] [])
      (fun _ l' => Undone l l' []) l := by
  refine launch_wp monitor_ignores_still trivial (fun _ => .refuse l _) ?_ ?_
  · intro service serves
    exact ⟨serves, .run l request.spec⟩
  · intro _
    exact removeForced_holds pacing.retry (Gained.run l request.spec).holds

theorem Network.create_gained {name : String} :
    Task.wp monitor (Network.create ctx name)
      (fun network l' => network = { name } ∧ Gained l l' [] [name])
      (fun _ l' => Undone l l' []) l :=
  Network.create_wp monitor_ignores_still trivial (fun _ => .refl l) ⟨rfl, .join l name⟩ fun _ =>
    Engine.createNetwork_wp.2 ⟨trivial, fun _ => ⟨rfl, .join l name⟩, fun _ => .refl l⟩

theorem Network.createUnique_gained {stem : String} :
    Task.wp monitor (Network.createUnique ctx stem)
      (fun network l' => network.removed = false ∧ Gained l l' [] [network.name])
      (fun _ l' => Undone l l' []) l := by
  apply Task.Only.lift_wp_seq (System.ask_idle _) monitor_ignores
  intro suffix
  refine Task.wp_mono ?_ (fun _ _ h => h) Network.create_gained
  rintro _ _ ⟨rfl, gained⟩
  exact ⟨rfl, gained⟩

/-- A service that was launched is handed out once it can be reached, or else let go. -/
theorem connect_or_release {request : LaunchRequest} {service : Service} {l₁ : Ledger}
    {address : Address} {Q : Unit → Ledger → Prop} (serves : service.Serves request)
    (gained : Gained l l₁ [request.spec.name] []) (reached : Q () l₁) :
    Task.wp monitor ((connect address).onFailure fun _ => service.release pacing) Q
      (fun _ l₂ => Undone l l₂ []) l₁ := by
  refine Task.wp_onFailure.2 ?_
  refine Task.Only.wp (connect_still _) monitor_ignores_still (fun _ => reached) ?_
  intro _
  refine Service.release_holds serves.live ?_
  rw [serves.name]
  exact gained.holds

end Starting

end Testbed
