import Testbed.Proofs.Chores
import Testbed.Proofs.Lives

/-!
# Disposing of handles

Services, networks, replica sets, fixtures and sets of fixtures are handles: who has one releases by
it what it stands for, as a whole or part by part, and at the latest when it is dropped. Whatever is
done with a handle before, each container has its removal once and so has each network.
-/

namespace Testbed

open Chore (performAll Tally)

variable {pacing : Pacing}

/-! ## Calls -/

/-- A call that releases something. -/
inductive Call where
  /-- On the handle itself, or on the replica set of a database. -/
  | whole
  /-- On the service of a cache or of a database by itself, or on a broker without its
  coordinator. -/
  | service
  | coordinator
  /-- On a fixture of a set. -/
  | member (index : Nat) (call : Call)
  deriving DecidableEq, Repr

/-- The first call leaves nothing to do for the other one. -/
inductive Call.Covers : Call → Call → Prop
  | whole (c : Call) : Covers .whole c
  | same (c : Call) : Covers c c
  | member {c d : Call} (index : Nat) (h : Covers c d) :
      Covers (.member index c) (.member index d)

/-! ## Fixtures -/

namespace Fixture

def chores : Fixture → List Chore
  | cache c => c.service.chores
  | database (.standalone s) => s.chores
  | database (.replicated r) => r.chores
  | broker b => b.chores

def spent : Fixture → Fixture
  | cache c => cache { c with service := c.service.spent }
  | database (.standalone s) => database (.standalone s.spent)
  | database (.replicated r) => database (.replicated r.spent)
  | broker b => broker b.spent

def Coherent : Fixture → Prop
  | cache c => c.service.Coherent
  | database (.standalone s) => s.Coherent
  | database (.replicated r) => r.Coherent
  | broker b => b.Coherent

def drop (pacing : Pacing) : Fixture → Action Unit
  | cache c => c.service.drop pacing
  | database (.standalone s) => s.drop pacing
  | database (.replicated r) => r.drop pacing
  | broker b => b.drop pacing

/-- Makes a call on a fixture, or on a part of it that it shows. -/
def call (pacing : Pacing) : Call → Fixture → Action Fixture
  | .whole, f => f.terminate pacing
  | .service, cache c => return cache { c with service := ← c.service.terminate pacing }
  | .service, database (.standalone s) =>
    return database (.standalone (← s.terminate pacing))
  | .service, broker b => return broker { b with broker := ← b.broker.terminate pacing }
  | .coordinator, broker b =>
    return broker { b with coordinator := ← b.coordinator.terminate pacing }
  | _, f => return f

/-- What a call has to do. -/
def todo : Call → Fixture → List Chore
  | .whole, f => f.chores
  | .service, cache c => c.service.chores
  | .service, database (.standalone s) => s.chores
  | .service, broker b => b.broker.chores
  | .coordinator, broker b => b.coordinator.chores
  | _, _ => []

/-- The fixture after a call. -/
def after : Call → Fixture → Fixture
  | .whole, f => f.spent
  | .service, cache c => cache { c with service := c.service.spent }
  | .service, database (.standalone s) => database (.standalone s.spent)
  | .service, broker b => broker { b with broker := b.broker.spent }
  | .coordinator, broker b => broker { b with coordinator := b.coordinator.spent }
  | _, f => f

variable {f : Fixture} {c d : Call}

theorem coherent_of_live (live : f.Live) : f.Coherent := by
  rcases f with c | (s | r) | b
  · exact Service.coherent_of_live live
  · exact Service.coherent_of_live live
  · exact ReplicaSet.coherent_of_live live
  · exact Broker.coherent_of_live live

theorem tally (live : f.Live) : Tally f.chores f.containerNames f.ownNetworks [] := by
  rcases f with c | (s | r) | b
  · exact Service.tally live
  · exact Service.tally live
  · exact ReplicaSet.tally live
  · exact Broker.tally live

theorem drop_does (h : f.Coherent) : DoesJust pacing (f.drop pacing) f.chores () := by
  rcases f with c | (s | r) | b
  · exact Service.drop_does h
  · exact Service.drop_does h
  · exact ReplicaSet.drop_does h
  · exact Broker.drop_does h

theorem terminate_does (h : f.Coherent) :
    DoesJust pacing (f.terminate pacing) f.chores f.spent := by
  rcases f with c | (s | r) | b
  · exact ((Service.terminate_does h).map _).map _
  · exact ((Service.terminate_does h).map _).map _
  · exact ((ReplicaSet.terminate_does h).map _).map _
  · exact (Broker.terminate_does h).map _

theorem call_does (h : f.Coherent) (c : Call) :
    DoesJust pacing (f.call pacing c) (f.todo c) (f.after c) := by
  cases c with
  | whole => exact terminate_does h
  | service =>
    rcases f with c | (s | r) | b
    · exact (Service.terminate_does h).map _
    · exact (Service.terminate_does h).map _
    · exact .pure _
    · exact (Service.terminate_does h.broker).map _
  | coordinator =>
    rcases f with c | (s | r) | b
    · exact .pure _
    · exact .pure _
    · exact .pure _
    · exact (Service.terminate_does h.coordinator).map _
  | member i c => exact .pure _

theorem spent_chores (f : Fixture) : f.spent.chores = [] := by
  rcases f with c | (s | r) | b
  · rfl
  · rfl
  · exact r.spent_chores
  · exact b.spent_chores

theorem spent_spent (f : Fixture) : f.spent.spent = f.spent := by
  rcases f with c | (s | r) | b
  · rfl
  · rfl
  · exact congrArg (fun r => database (.replicated r)) r.spent_spent
  · exact congrArg broker b.spent_spent

theorem after_coherent (h : f.Coherent) (c : Call) : (f.after c).Coherent := by
  cases c with
  | whole =>
    rcases f with c | (s | r) | b
    · exact Service.spent_coherent _
    · exact Service.spent_coherent _
    · exact r.spent_coherent
    · exact b.spent_coherent
  | service =>
    rcases f with c | (s | r) | b
    · exact Service.spent_coherent _
    · exact Service.spent_coherent _
    · exact h
    · exact h.spendBroker
  | coordinator =>
    rcases f with c | (s | r) | b
    · exact h
    · exact h
    · exact h
    · exact h.spendCoordinator
  | member i c => exact h

/-- What a call does was to be done, and the rest of it still is. -/
theorem todo_perm (c : Call) (f : Fixture) : (f.todo c ++ (f.after c).chores).Perm f.chores := by
  cases c with
  | whole =>
    change (f.chores ++ f.spent.chores).Perm f.chores
    rw [spent_chores, List.append_nil]
  | service =>
    rcases f with c | (s | r) | b
    · exact .of_eq (List.append_nil _)
    · exact .of_eq (List.append_nil _)
    · exact .refl _
    · exact .refl _
  | coordinator =>
    rcases f with c | (s | r) | b
    · exact .refl _
    · exact .refl _
    · exact .refl _
    · exact List.perm_append_comm_assoc _ _ _
  | member i c => exact .refl _

theorem todo_after (c : Call) (f : Fixture) : (f.after c).todo c = [] := by
  cases c with
  | whole => exact f.spent_chores
  | _ => rcases f with c | (s | r) | b <;> rfl

/-- In which order two parts are released makes no difference in the end. -/
theorem after_comm (c d : Call) (f : Fixture) : (f.after d).after c = (f.after c).after d := by
  cases c <;> cases d <;> rcases f with c | (s | r) | b <;> rfl

/-- A part of what is spent as a whole is spent. -/
theorem spent_after (c : Call) (f : Fixture) : f.spent.after c = f.spent := by
  cases c with
  | whole => exact f.spent_spent
  | _ => rcases f with c | (s | r) | b <;> rfl

theorem after_after (c : Call) (f : Fixture) : (f.after c).after c = f.after c := by
  cases c with
  | whole => exact f.spent_spent
  | _ => rcases f with c | (s | r) | b <;> rfl

theorem after_covered (covers : d.Covers c) (f : Fixture) : (f.after d).after c = f.after d := by
  cases covers with
  | whole c => exact f.spent_after c
  | same c => exact f.after_after c
  | member index covers => rfl

theorem after_containerNames (c : Call) (f : Fixture) :
    (f.after c).containerNames = f.containerNames := by
  cases c <;> rcases f with c | (s | r) | b <;> rfl

end Fixture

/-! ## Sets of fixtures -/

/-- The registration after a call on its fixture. -/
def Registration.after (c : Call) (r : Registration) : Registration :=
  { r with fixture := r.fixture.after c }

namespace FixtureSet

/-- Makes a call on the fixture at `index`. -/
def callAt (pacing : Pacing) (c : Call) : Nat → List Registration → Action (List Registration)
  | _, [] => return []
  | 0, r :: registry => return { r with fixture := ← r.fixture.call pacing c } :: registry
  | index + 1, r :: registry => return r :: (← callAt pacing c index registry)

/-- What the call has to do. -/
def todoAt (c : Call) : Nat → List Registration → List Chore
  | _, [] => []
  | 0, r :: _ => r.fixture.todo c
  | index + 1, _ :: registry => todoAt c index registry

/-- What is left to be done when a set is closed: the fixtures, the latest first, then whatever may
have survived, and the networks last. -/
def chores (set : FixtureSet) : List Chore :=
  set.registry.reverse.flatMap (·.fixture.chores) ++
    (set.containerNames.map .leftover ++ set.networks.reverse.flatMap Network.chores)

def spent (set : FixtureSet) : FixtureSet :=
  { set with closed := true, registry := [], networks := [] }

structure Coherent (set : FixtureSet) : Prop where
  fixtures : ∀ r ∈ set.registry, r.fixture.Coherent
  closed : set.closed = true → set.spent = set

/-- Closes the set, and then drops what it still has. -/
def drop (pacing : Pacing) (set : FixtureSet) : Action Unit := do
  let set ← set.close pacing
  set.networks.forM Network.drop
  set.registry.forM fun r => r.fixture.drop pacing

variable {set : FixtureSet} {registry : List Registration} {c d : Call}

theorem coherent_of_backed {l : Ledger} (h : set.Backed l) : set.Coherent where
  fixtures := fun r hmem => Fixture.coherent_of_live (h.live r hmem)
  closed := by
    intro closed
    obtain ⟨registry, networks⟩ := h.closed closed
    rw [spent, ← closed, ← registry, ← networks]

theorem tally (live : ∀ r ∈ set.registry, r.fixture.Live)
    (kept : ∀ n ∈ set.networks, n.removed = false) :
    Tally set.chores set.containerNames set.ownNetworks set.containerNames := by
  have fixtures (registry : List Registration) (live : ∀ r ∈ registry, r.fixture.Live) :
      Tally (registry.flatMap (·.fixture.chores)) (registry.flatMap (·.fixture.containerNames))
        (registry.flatMap (·.fixture.ownNetworks)) [] := by
    induction registry with
    | nil => exact ⟨.refl _, .refl _, .refl _⟩
    | cons r registry ih =>
      obtain ⟨first, rest⟩ := List.forall_mem_cons.1 live
      exact (Fixture.tally first).append (ih rest)
  have networks (networks : List Network) (kept : ∀ n ∈ networks, n.removed = false) :
      Tally (networks.flatMap Network.chores) [] (networks.map (·.name)) [] := by
    induction networks with
    | nil => exact ⟨.refl _, .refl _, .refl _⟩
    | cons n networks ih =>
      obtain ⟨first, rest⟩ := List.forall_mem_cons.1 kept
      exact (Network.tally first).append (ih rest)
  have leftovers (names : List String) : Tally (names.map .leftover) [] [] names := by
    induction names with
    | nil => exact ⟨.refl _, .refl _, .refl _⟩
    | cons name names ih =>
      have first : Tally [.leftover name] [] [] [name] := ⟨.refl _, .refl _, .refl _⟩
      exact first.append ih
  -- The order in which they are closed does not matter for how much there is to do.
  have all := ((fixtures _ live).perm ((List.reverse_perm _).flatMap_right _)).append
    ((leftovers set.containerNames).append
      ((networks _ kept).perm ((List.reverse_perm _).flatMap_right _)))
  simpa [chores, containerNames, ownNetworks] using all

theorem terminateAll_does (h : ∀ r ∈ registry, r.fixture.Coherent) :
    DoesJust pacing (terminateAll pacing registry) (registry.flatMap (·.fixture.chores)) () := by
  induction registry with
  | nil => exact .pure ()
  | cons r registry ih =>
    obtain ⟨first, rest⟩ := List.forall_mem_cons.1 h
    exact (Fixture.terminate_does first).discard.bind (ih rest)

theorem sweep_does (names : List String) :
    DoesJust pacing (sweep pacing.retry names) (names.map .leftover) () := by
  induction names with
  | nil => exact .pure ()
  | cons name names ih =>
    have one_by_one : sweep pacing.retry (name :: names) = (do
        (Chore.leftover name).perform pacing
        sweep pacing.retry names) := by
      rw [sweep, Chore.perform, bind_assoc]
      refine congrArg _ (funext fun there => ?_)
      rcases there with _ | _ | _ <;> simp only [bind_assoc, pure_bind]
    rw [one_by_one]
    exact (DoesJust.perform _).bind ih

theorem removeNetworks_does (networks : List Network) :
    DoesJust pacing (removeNetworks networks) (networks.flatMap Network.chores) () := by
  induction networks with
  | nil => exact .pure ()
  | cons n networks ih => exact n.remove_does.discard.bind ih

theorem close_does (h : set.Coherent) :
    DoesJust pacing (set.close pacing) set.chores set.spent := by
  unfold close
  split
  · next closed =>
    have same := h.closed closed
    have nothing : set.chores = [] := by
      rw [← same]
      rfl
    rw [nothing, same]
    exact .pure set
  · have fixtures : ∀ r ∈ set.registry.reverse, r.fixture.Coherent :=
      fun r hmem => h.fixtures r (List.mem_reverse.1 hmem)
    have leaves : DoesJust pacing (do
        removeNetworks set.networks.reverse
        return set.spent) (set.networks.reverse.flatMap Network.chores ++ []) set.spent :=
      (removeNetworks_does _).bind (.pure _)
    rw [List.append_nil] at leaves
    exact (terminateAll_does fixtures).bind ((sweep_does _).bind leaves)

theorem drop_does (h : set.Coherent) : DoesJust pacing (set.drop pacing) set.chores () := by
  have dropped : DoesJust pacing (set.drop pacing) (set.chores ++ []) () :=
    (close_does h).bind (.pure ())
  rwa [List.append_nil] at dropped

/-! ### Calls on fixtures of a set -/

theorem callAt_does (h : ∀ r ∈ registry, r.fixture.Coherent) (c : Call) (index : Nat) :
    DoesJust pacing (callAt pacing c index registry) (todoAt c index registry)
      (registry.modify index (·.after c)) := by
  induction registry generalizing index with
  | nil =>
    rw [List.modify_nil]
    cases index <;> exact .pure []
  | cons r registry ih =>
    obtain ⟨first, rest⟩ := List.forall_mem_cons.1 h
    cases index with
    | zero => exact (Fixture.call_does first c).map _
    | succ index => exact (ih rest index).map _

theorem modify_coherent (h : ∀ r ∈ registry, r.fixture.Coherent) (c : Call) (index : Nat) :
    ∀ r ∈ registry.modify index (·.after c), r.fixture.Coherent := by
  induction registry generalizing index with
  | nil => simp
  | cons r registry ih =>
    obtain ⟨first, rest⟩ := List.forall_mem_cons.1 h
    cases index with
    | zero => exact List.forall_mem_cons.2 ⟨Fixture.after_coherent first c, rest⟩
    | succ index => exact List.forall_mem_cons.2 ⟨first, ih rest index⟩

theorem todoAt_perm (c : Call) (index : Nat) (registry : List Registration) :
    (todoAt c index registry ++
      (registry.modify index (·.after c)).flatMap (·.fixture.chores)).Perm
        (registry.flatMap (·.fixture.chores)) := by
  induction registry generalizing index with
  | nil =>
    rw [List.modify_nil]
    cases index <;> exact .refl _
  | cons r registry ih =>
    cases index with
    | zero =>
      simp only [todoAt, List.modify_zero_cons, List.flatMap_cons, ← List.append_assoc]
      exact (Fixture.todo_perm c r.fixture).append_right _
    | succ index =>
      simp only [todoAt, List.modify_succ_cons, List.flatMap_cons]
      exact (List.perm_append_comm_assoc _ _ _).trans ((ih index).append_left _)

theorem modify_containerNames (c : Call) (index : Nat) (registry : List Registration) :
    (registry.modify index (·.after c)).flatMap (·.fixture.containerNames) =
      registry.flatMap (·.fixture.containerNames) := by
  induction registry generalizing index with
  | nil => rw [List.modify_nil]
  | cons r registry ih =>
    cases index with
    | zero => simp [Registration.after, Fixture.after_containerNames]
    | succ index => simp [ih]

/-- The set after a call on the fixture at `index`. -/
def afterAt (c : Call) (index : Nat) (set : FixtureSet) : FixtureSet :=
  { set with registry := set.registry.modify index (·.after c) }

/-- A closed set has no fixtures to make a call on. -/
theorem spent_afterAt (c : Call) (index : Nat) (set : FixtureSet) :
    set.spent.afterAt c index = set.spent := by
  simp [afterAt, spent]

theorem afterAt_coherent (h : set.Coherent) (c : Call) (index : Nat) :
    (set.afterAt c index).Coherent where
  fixtures := modify_coherent h.fixtures c index
  closed := by
    intro closed
    have same := h.closed closed
    have unchanged : set.afterAt c index = set := by rw [← same, spent_afterAt]
    rw [unchanged, same]

theorem chores_afterAt_perm (c : Call) (index : Nat) (set : FixtureSet) :
    (todoAt c index set.registry ++ (set.afterAt c index).chores).Perm set.chores := by
  -- A fixture keeps its names, so the same containers are looked for when the set is closed.
  have names : (set.afterAt c index).containerNames = set.containerNames :=
    modify_containerNames c index set.registry
  have fixtures : (todoAt c index set.registry ++
      (set.afterAt c index).registry.reverse.flatMap (·.fixture.chores)).Perm
        (set.registry.reverse.flatMap (·.fixture.chores)) :=
    (((List.reverse_perm _).flatMap_right _).append_left _).trans
      ((todoAt_perm c index set.registry).trans ((List.reverse_perm _).symm.flatMap_right _))
  rw [chores, chores, names, ← List.append_assoc]
  exact fixtures.append_right _

theorem todoAt_modify (c : Call) (index : Nat) (registry : List Registration) :
    todoAt c index (registry.modify index (·.after c)) = [] := by
  induction registry generalizing index with
  | nil =>
    rw [List.modify_nil]
    cases index <;> rfl
  | cons r registry ih =>
    cases index with
    | zero => exact r.fixture.todo_after c
    | succ index => exact ih index

theorem modify_comm (c d : Call) (i j : Nat) (registry : List Registration) :
    (registry.modify j (·.after d)).modify i (·.after c) =
      (registry.modify i (·.after c)).modify j (·.after d) := by
  induction registry generalizing i j with
  | nil => simp
  | cons r registry ih =>
    cases i <;> cases j
    · simp [Registration.after, Fixture.after_comm c d]
    · simp
    · simp
    · simp [ih]

theorem modify_covered (covers : d.Covers c) (index : Nat) (registry : List Registration) :
    (registry.modify index (·.after d)).modify index (·.after c) =
      registry.modify index (·.after d) := by
  induction registry generalizing index with
  | nil => simp
  | cons r registry ih =>
    cases index with
    | zero => simp [Registration.after, Fixture.after_covered covers]
    | succ index => simp [ih]

end FixtureSet

/-! ## Handles of all kinds -/

/-- A handle that is held. -/
inductive Held where
  | service (s : Service)
  | network (n : Network)
  | replicaSet (r : ReplicaSet)
  | fixture (f : Fixture)
  | set (s : FixtureSet)

namespace Held

/-- The containers of a handle. -/
def containerNames : Held → List String
  | service s => [s.name]
  | network _ => []
  | replicaSet r => r.containerNames
  | fixture f => f.containerNames
  | set s => s.containerNames

/-- The networks of a handle. -/
def ownNetworks : Held → List String
  | service _ => []
  | network n => [n.name]
  | replicaSet r => r.ownNetworks
  | fixture f => f.ownNetworks
  | set s => s.ownNetworks

/-- The containers that are looked for when a set is closed. -/
def registeredNames : Held → List String
  | set s => s.containerNames
  | _ => []

/-- Makes a call on a handle. A call on a part that there is not does nothing. -/
def call (pacing : Pacing) : Call → Held → Action Held
  | c, fixture f => return fixture (← f.call pacing c)
  | .whole, service s => return service (← s.terminate pacing)
  | .whole, network n => return network (← n.remove)
  | .whole, replicaSet r => return replicaSet (← r.terminate pacing)
  | .whole, set s => return set (← s.close pacing)
  | .member index c, set s =>
    return set { s with registry := ← FixtureSet.callAt pacing c index s.registry }
  | _, x => return x

/-- Makes calls in order. -/
def callAll (pacing : Pacing) : List Call → Held → Action Held
  | [], x => return x
  | c :: calls, x => do callAll pacing calls (← x.call pacing c)

def drop (pacing : Pacing) : Held → Action Unit
  | service s => s.drop pacing
  | network n => n.drop
  | replicaSet r => r.drop pacing
  | fixture f => f.drop pacing
  | set s => s.drop pacing

/-! ### Chores of handles -/

def chores : Held → List Chore
  | service s => s.chores
  | network n => n.chores
  | replicaSet r => r.chores
  | fixture f => f.chores
  | set s => s.chores

def Coherent : Held → Prop
  | service s => s.Coherent
  | network _ => True
  | replicaSet r => r.Coherent
  | fixture f => f.Coherent
  | set s => s.Coherent

def todo : Call → Held → List Chore
  | c, fixture f => f.todo c
  | .whole, x => x.chores
  | .member index c, set s => FixtureSet.todoAt c index s.registry
  | _, _ => []

def after : Call → Held → Held
  | c, fixture f => fixture (f.after c)
  | .whole, service s => service s.spent
  | .whole, network n => network n.spent
  | .whole, replicaSet r => replicaSet r.spent
  | .whole, set s => set s.spent
  | .member index c, set s => set (s.afterAt c index)
  | _, x => x

def afterAll : List Call → Held → Held
  | [], x => x
  | c :: calls, x => afterAll calls (x.after c)

variable {x : Held} {c d : Call} {calls : List Call}

theorem call_does (h : x.Coherent) (c : Call) :
    DoesJust pacing (x.call pacing c) (x.todo c) (x.after c) := by
  cases x with
  | fixture f => exact (Fixture.call_does h c).map _
  | service s =>
    cases c with
    | whole => exact (Service.terminate_does h).map _
    | _ => exact .pure _
  | network n =>
    cases c with
    | whole => exact n.remove_does.map _
    | _ => exact .pure _
  | replicaSet r =>
    cases c with
    | whole => exact (ReplicaSet.terminate_does h).map _
    | _ => exact .pure _
  | set s =>
    cases c with
    | whole => exact (FixtureSet.close_does h).map _
    | member index c => exact (FixtureSet.callAt_does h.fixtures c index).map _
    | _ => exact .pure _

theorem drop_does (h : x.Coherent) : DoesJust pacing (x.drop pacing) x.chores () := by
  cases x with
  | service s => exact Service.drop_does h
  | network n => exact n.drop_does
  | replicaSet r => exact ReplicaSet.drop_does h
  | fixture f => exact Fixture.drop_does h
  | set s => exact FixtureSet.drop_does h

theorem after_coherent (h : x.Coherent) (c : Call) : (x.after c).Coherent := by
  cases x with
  | fixture f => exact Fixture.after_coherent h c
  | service s =>
    cases c with
    | whole => exact s.spent_coherent
    | _ => exact h
  | network n => cases c <;> trivial
  | replicaSet r =>
    cases c with
    | whole => exact r.spent_coherent
    | _ => exact h
  | set s =>
    cases c with
    | whole => exact ⟨by simp [FixtureSet.spent], fun _ => rfl⟩
    | member index c => exact FixtureSet.afterAt_coherent h c index
    | _ => exact h

/-- What a call does was to be done, and the rest of it still is. -/
theorem todo_perm (c : Call) (x : Held) : (x.todo c ++ (x.after c).chores).Perm x.chores := by
  cases x with
  | fixture f => exact f.todo_perm c
  | service s =>
    cases c with
    | whole => exact .of_eq (List.append_nil _)
    | _ => exact .refl _
  | network n =>
    cases c with
    | whole => exact .of_eq (List.append_nil _)
    | _ => exact .refl _
  | replicaSet r =>
    cases c with
    | whole => exact .of_eq ((congrArg _ r.spent_chores).trans (List.append_nil _))
    | _ => exact .refl _
  | set s =>
    cases c with
    | whole => exact .of_eq (List.append_nil _)
    | member index c => exact s.chores_afterAt_perm c index
    | _ => exact .refl _

theorem todo_after (c : Call) (x : Held) : (x.after c).todo c = [] := by
  cases x with
  | fixture f => exact f.todo_after c
  | replicaSet r =>
    cases c with
    | whole => exact r.spent_chores
    | _ => rfl
  | set s =>
    cases c with
    | member index c => exact FixtureSet.todoAt_modify c index s.registry
    | _ => rfl
  | _ => cases c <;> rfl

theorem after_comm (c d : Call) (x : Held) : (x.after d).after c = (x.after c).after d := by
  cases x with
  | fixture f => exact congrArg fixture (f.after_comm c d)
  | set s =>
    cases c with
    | whole =>
      cases d with
      | member j d => exact (congrArg set (s.spent_afterAt d j)).symm
      | _ => rfl
    | member i c =>
      cases d with
      | whole => exact congrArg set (s.spent_afterAt c i)
      | member j d =>
        exact congrArg (fun registry => set { s with registry })
          (FixtureSet.modify_comm c d i j s.registry)
      | _ => rfl
    | _ => cases d <;> rfl
  | _ => cases c <;> cases d <;> rfl

theorem after_whole_after (c : Call) (x : Held) : (x.after .whole).after c = x.after .whole := by
  cases x with
  | fixture f => exact congrArg fixture (f.spent_after c)
  | replicaSet r =>
    cases c with
    | whole => exact congrArg replicaSet r.spent_spent
    | _ => rfl
  | set s =>
    cases c with
    | member index c => exact congrArg set (s.spent_afterAt c index)
    | _ => rfl
  | _ => cases c <;> rfl

theorem after_after (c : Call) (x : Held) : (x.after c).after c = x.after c := by
  cases c with
  | whole => exact x.after_whole_after .whole
  | member index c =>
    cases x with
    | set s =>
      exact congrArg (fun registry => set { s with registry })
        (FixtureSet.modify_covered (.same c) index s.registry)
    | _ => rfl
  | _ =>
    cases x with
    | fixture f => exact congrArg fixture (f.after_after _)
    | _ => rfl

theorem after_covered (covers : d.Covers c) (x : Held) : (x.after d).after c = x.after d := by
  cases covers with
  | whole c => exact x.after_whole_after c
  | same c => exact x.after_after c
  | member index covers =>
    cases x with
    | set s =>
      exact congrArg (fun registry => set { s with registry })
        (FixtureSet.modify_covered covers index s.registry)
    | _ => rfl

/-! ### Calls in a row -/

theorem callAll_append (calls more : List Call) (x : Held) :
    callAll pacing (calls ++ more) x = (do
      let x ← callAll pacing calls x
      callAll pacing more x) := by
  induction calls generalizing x with
  | nil => rfl
  | cons c calls ih =>
    rw [List.cons_append, callAll, callAll, bind_assoc]
    exact congrArg _ (funext fun x => ih x)

/-- Whatever calls are made, what they do and what they leave to be done is what there was to do. -/
theorem callAll_does (h : x.Coherent) (calls : List Call) :
    ∃ done, DoesJust pacing (callAll pacing calls x) done (x.afterAll calls) ∧
      (x.afterAll calls).Coherent ∧ (done ++ (x.afterAll calls).chores).Perm x.chores := by
  induction calls generalizing x with
  | nil => exact ⟨[], .pure x, h, .refl _⟩
  | cons c calls ih =>
    obtain ⟨done, does, coherent, left⟩ := ih (after_coherent h c)
    refine ⟨x.todo c ++ done, (call_does h c).bind does, coherent, ?_⟩
    rw [List.append_assoc]
    exact (left.append_left _).trans (x.todo_perm c)

theorem afterAll_comm (c : Call) (calls : List Call) (x : Held) :
    (x.afterAll calls).after c = (x.after c).afterAll calls := by
  induction calls generalizing x with
  | nil => rfl
  | cons d calls ih =>
    rw [afterAll, afterAll, ih, after_comm]

/-- A call that is covered by an earlier one changes nothing. -/
theorem after_afterAll_covered (covered : ∃ d ∈ calls, d.Covers c) (x : Held) :
    (x.afterAll calls).after c = x.afterAll calls := by
  obtain ⟨d, hmem, covers⟩ := covered
  induction calls generalizing x with
  | nil => cases hmem
  | cons first calls ih =>
    rcases List.mem_cons.1 hmem with rfl | hmem
    · rw [afterAll, afterAll_comm, after_covered covers]
    · exact ih _ hmem

/-- Such a call has nothing to do either. -/
theorem todo_afterAll_covered (covered : ∃ d ∈ calls, d.Covers c) (x : Held) :
    (x.afterAll calls).todo c = [] := by
  rw [← after_afterAll_covered covered x]
  exact todo_after c _

theorem todo_whole (x : Held) : x.todo .whole = x.chores := by
  cases x <;> rfl

theorem chores_afterAll_whole (released : Call.whole ∈ calls) (x : Held) :
    (x.afterAll calls).chores = [] := by
  rw [← todo_whole]
  exact todo_afterAll_covered ⟨_, released, .whole _⟩ x

/-! ### Handles from successful calls -/

/-- The handle comes from a call that succeeded. -/
inductive Obtained (pacing : Pacing) : Held → Prop
  | service {ctx : Context} {request : LaunchRequest} {t : Trace} {s : Service}
      (h : Prog.Yields (launch pacing ctx request).run t (.ok s)) : Obtained pacing (service s)
  | network {ctx : Context} {name : String} {t : Trace} {n : Network}
      (h : Prog.Yields (Network.create ctx name).run t (.ok n)) : Obtained pacing (network n)
  | uniqueNetwork {ctx : Context} {stem : String} {t : Trace} {n : Network}
      (h : Prog.Yields (Network.createUnique ctx stem).run t (.ok n)) :
      Obtained pacing (network n)
  | replicaSet {ctx : Context} {o : ServiceOptions} {t : Trace} {r : ReplicaSet}
      (h : Prog.Yields (ReplicaSet.start pacing ctx o).run t (.ok r)) :
      Obtained pacing (replicaSet r)
  | cache {ctx : Context} {o : ServiceOptions} {t : Trace} {c : Cache}
      (h : Prog.Yields (Cache.start pacing ctx o).run t (.ok c)) :
      Obtained pacing (fixture (.cache c))
  | database {ctx : Context} {o : ServiceOptions} {t : Trace} {d : Database}
      (h : Prog.Yields (Database.start pacing ctx o).run t (.ok d)) :
      Obtained pacing (fixture (.database d))
  | broker {ctx : Context} {o : BrokerOptions} {t : Trace} {b : Broker}
      (h : Prog.Yields (Broker.start pacing ctx o).run t (.ok b)) :
      Obtained pacing (fixture (.broker b))
  | set {uses : List FixtureSet.Use} {t : Trace} {s : FixtureSet}
      (h : Prog.Yields (FixtureSet.useAll pacing {} uses) t s) : Obtained pacing (set s)

/-- All that a handle from a successful call stands for is still to be released. -/
theorem Obtained.coherent_tally (h : x.Obtained pacing) :
    x.Coherent ∧ Chore.Tally x.chores x.containerNames x.ownNetworks x.registeredNames := by
  cases h with
  | service h =>
    obtain ⟨serves, -⟩ := Prog.wp_yields (launch_gained (l := {})) h
    exact ⟨Service.coherent_of_live serves.live, Service.tally serves.live⟩
  | network h =>
    obtain ⟨rfl, -⟩ := Prog.wp_yields (Network.create_gained (l := {})) h
    exact ⟨trivial, Network.tally rfl⟩
  | uniqueNetwork h =>
    obtain ⟨kept, -⟩ := Prog.wp_yields (Network.createUnique_gained (l := {})) h
    exact ⟨trivial, Network.tally kept⟩
  | replicaSet h =>
    have live := (Prog.wp_yields (ReplicaSet.start_gained (l := {})) h).live
    exact ⟨ReplicaSet.coherent_of_live live, ReplicaSet.tally live⟩
  | cache h =>
    obtain ⟨live, -⟩ := Prog.wp_yields (Cache.start_gained (l := {})) h
    exact ⟨Service.coherent_of_live live, Service.tally live⟩
  | database h =>
    obtain ⟨live, -⟩ := Prog.wp_yields (Database.start_gained (l := {})) h
    exact ⟨Fixture.coherent_of_live (f := .database _) live,
      Fixture.tally (f := .database _) live⟩
  | broker h =>
    obtain ⟨live, -⟩ := Prog.wp_yields (Broker.start_gained (l := {})) h
    exact ⟨Broker.coherent_of_live live, Broker.tally live⟩
  | set h =>
    have backed := Prog.wp_yields (FixtureSet.useAll_backed .new) h
    exact ⟨FixtureSet.coherent_of_backed backed, FixtureSet.tally backed.live backed.kept⟩

end Held

/-- Let any calls be made on a handle that comes from a successful call, and on its parts, and then
let the handle be dropped. Each of its containers has one round of removals and each of its own
networks one removal, and each container registered with a set is looked for once, on top. A handle
that is just dropped is terminated. A call that was made before, on the same part or on a whole that
the part belongs to, asks for nothing, and neither does dropping what was released as a whole. -/
theorem handles_are_released_once (pacing : Pacing) (x : Held) (h : x.Obtained pacing) :
    (∀ calls, ∃ chores,
      (do (← x.callAll pacing calls).drop pacing) = performAll pacing chores ∧
      Chore.Tally chores x.containerNames x.ownNetworks x.registeredNames) ∧
    x.drop pacing = (do (← x.call pacing .whole).drop pacing) ∧
    (∀ calls c, (∃ d ∈ calls, d.Covers c) →
      x.callAll pacing (calls ++ [c]) = x.callAll pacing calls) ∧
    ∀ calls, Call.whole ∈ calls →
      (do (← x.callAll pacing calls).drop pacing) = discard (x.callAll pacing calls) := by
  obtain ⟨coherent, tally⟩ := h.coherent_tally
  have calls_do (calls : List Call) : ∃ done,
      DoesJust pacing (x.callAll pacing calls) done (x.afterAll calls) ∧
        (x.afterAll calls).Coherent ∧ (done ++ (x.afterAll calls).chores).Perm x.chores :=
    Held.callAll_does coherent calls
  refine ⟨?_, ?_, ?_, ?_⟩
  · intro calls
    obtain ⟨done, does, coherent', left⟩ := calls_do calls
    exact ⟨_, (does.bind (Held.drop_does coherent')).eq_performAll, tally.perm left⟩
  · have terminates : DoesJust pacing (do (← x.call pacing .whole).drop pacing)
        (x.todo .whole ++ (x.after .whole).chores) () :=
      (Held.call_does coherent .whole).bind (Held.drop_does (Held.after_coherent coherent .whole))
    rw [← (x.after .whole).todo_whole, Held.todo_after, List.append_nil, x.todo_whole]
      at terminates
    exact (Held.drop_does coherent).trans terminates.symm
  · intro calls c covered
    obtain ⟨done, does, coherent', -⟩ := calls_do calls
    have last : DoesJust pacing ((x.afterAll calls).call pacing c) ((x.afterAll calls).todo c)
        ((x.afterAll calls).after c) := Held.call_does coherent' c
    -- It neither does anything nor changes the handle.
    rw [Held.todo_afterAll_covered covered, Held.after_afterAll_covered covered] at last
    have again : DoesJust pacing (x.callAll pacing (calls ++ [c])) (done ++ ([] ++ []))
        (x.afterAll calls) := by
      rw [Held.callAll_append]
      exact does.bind (last.bind (.pure _))
    rw [List.append_nil, List.append_nil] at again
    exact again.trans does.symm
  · intro calls released
    obtain ⟨done, does, coherent', -⟩ := calls_do calls
    have dropped := does.bind (Held.drop_does coherent')
    rw [Held.chores_afterAll_whole released, List.append_nil] at dropped
    exact dropped.trans does.discard.symm

/-- A broker on a network of its own is terminated in part, then as a whole and in part again, and
is dropped in the end. The last call asks for nothing. -/
theorem own_broker_is_released_once :
    let o : BrokerOptions := ⟨ServiceDraft.named { family := .kafka } "kafka",
      ServiceDraft.named { family := .zookeeper } "zoo", "3.6.1"⟩
    ∃ t b, Prog.Yields (Broker.start {} ⟨⟨0⟩, none⟩ o).run t (.ok b) ∧
      (∃ chores, (do
          let x ← Held.callAll {} [.coordinator, .whole, .service] (.fixture (.broker b))
          x.drop {}) = performAll {} chores ∧
        Tally chores ["kafka", "zoo"] ["kafka-0123456789ab"] []) ∧
      Held.callAll {} [.coordinator, .whole, .service] (.fixture (.broker b)) =
        Held.callAll {} [.coordinator, .whole] (.fixture (.broker b)) := by
  intro o
  -- Of the broker that comes out of the run only the names are evaluated.
  let told (r : Except Error Broker) : Option (List String × List String) :=
    r.toOption.map fun b => (b.containerNames, b.ownNetworks)
  obtain ⟨r, names, yields⟩ := Prog.exists_yields_play Engine.obliging
    (p := (Broker.start {} ⟨⟨0⟩, none⟩ o).run) (f := told)
    (b := (["kafka", "zoo"], ["kafka-0123456789ab"])) (by decide +kernel)
  cases r with
  | error e => cases names
  | ok b =>
    obtain ⟨containers, networks⟩ := Prod.mk.inj (Option.some.inj names)
    have released := handles_are_released_once {} (.fixture (.broker b)) (.broker yields)
    have once := released.1 [.coordinator, .whole, .service]
    rw [Held.containerNames, Held.ownNetworks, Fixture.containerNames, Fixture.ownNetworks,
      containers, networks] at once
    have again := released.2.2.1 [.coordinator, .whole] .service ⟨.whole, by simp, .whole _⟩
    exact ⟨_, b, yields, once, again⟩

end Testbed
