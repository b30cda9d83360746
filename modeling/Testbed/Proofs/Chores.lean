import Testbed.Proofs.Starts

/-!
# Chores

What a program asks for in releasing a handle does not depend on what has come of it before: it is
a list of chores, which can be read off the handle. Here are the chores that are left to be done for
a service, a network, a replica set and a broker, however much of it has been released already, and
the proof that to terminate it, or to drop it, is to do them.
-/

namespace Testbed

variable {α β : Type} {pacing : Pacing}

/-! ## Chores -/

/-- What is to be done for a handle. -/
inductive Chore where
  /-- Stops following the output of a container. -/
  | output (stream : StreamId)
  /-- Goes through a round of removals. -/
  | container (name : String)
  | network (name : String)
  /-- Looks whether a container is still there, and goes through another round if it may be. -/
  | leftover (name : String)
  deriving DecidableEq, Repr

namespace Chore

def container? : Chore → Option String
  | container name => some name
  | _ => none

def network? : Chore → Option String
  | network name => some name
  | _ => none

def leftover? : Chore → Option String
  | leftover name => some name
  | _ => none

def perform (pacing : Pacing) : Chore → Action Unit
  | output stream => System.unfollow stream
  | container name => removeForced pacing.retry name
  | network name => removeNetwork name
  | leftover name => do
    match ← (containerExists name).run with
    | .ok false => return ()
    | .ok true => do
      notify (.survivedTeardown name)
      removeForced pacing.retry name
    | .error _ => do
      notify (.existenceUnknown name)
      removeForced pacing.retry name

/-- Does chores in order. -/
def performAll (pacing : Pacing) : List Chore → Action Unit
  | [] => return ()
  | chore :: chores => do
    chore.perform pacing
    performAll pacing chores

theorem performAll_append (chores more : List Chore) :
    performAll pacing (chores ++ more) = (do
      performAll pacing chores
      performAll pacing more) := by
  induction chores with
  | nil => rfl
  | cons chore chores ih => rw [List.cons_append, performAll, ih, performAll, bind_assoc]

theorem performAll_singleton (chore : Chore) : performAll pacing [chore] = chore.perform pacing :=
  bind_pure_unit

/-- How much there is to do: a round of removals for each of the containers, a removal for each of
the networks, and a look at each of the leftovers. -/
structure Tally (chores : List Chore) (containers networks leftovers : List String) : Prop where
  containers : (chores.filterMap container?).Perm containers
  networks : (chores.filterMap network?).Perm networks
  leftovers : (chores.filterMap leftover?).Perm leftovers

namespace Tally

variable {chores more : List Chore} {containers containers' networks networks' leftovers
  leftovers' : List String}

theorem append (h : Tally chores containers networks leftovers)
    (h' : Tally more containers' networks' leftovers') :
    Tally (chores ++ more) (containers ++ containers') (networks ++ networks')
      (leftovers ++ leftovers') where
  containers := by
    rw [List.filterMap_append]
    exact h.containers.append h'.containers
  networks := by
    rw [List.filterMap_append]
    exact h.networks.append h'.networks
  leftovers := by
    rw [List.filterMap_append]
    exact h.leftovers.append h'.leftovers

theorem perm (h : Tally chores containers networks leftovers) (same : more.Perm chores) :
    Tally more containers networks leftovers where
  containers := (same.filterMap _).trans h.containers
  networks := (same.filterMap _).trans h.networks
  leftovers := (same.filterMap _).trans h.leftovers

end Tally

end Chore

open Chore (performAll Tally)

/-- The program does just these chores, whatever comes of them, and returns `a`. -/
def DoesJust (pacing : Pacing) (p : Action α) (chores : List Chore) (a : α) : Prop :=
  p = do
    performAll pacing chores
    return a

namespace DoesJust

variable {p : Action α} {chores more : List Chore} {a : α} {b : β}

protected theorem pure (a : α) : DoesJust pacing (pure a : Action α) [] a := rfl

theorem perform (chore : Chore) : DoesJust pacing (chore.perform pacing) [chore] () := by
  rw [DoesJust, Chore.performAll_singleton]
  exact bind_pure_unit.symm

theorem bind {f : α → Action β} (h : DoesJust pacing p chores a)
    (hf : DoesJust pacing (f a) more b) : DoesJust pacing (p >>= f) (chores ++ more) b := by
  unfold DoesJust at h hf ⊢
  rw [h, bind_assoc, Chore.performAll_append, bind_assoc]
  exact congrArg _ (funext fun _ => hf)

theorem map (f : α → β) (h : DoesJust pacing p chores a) :
    DoesJust pacing (f <$> p) chores (f a) := by
  have returned := h.bind (f := fun a => pure (f a)) (DoesJust.pure (f a))
  rwa [List.append_nil, ← map_eq_pure_bind] at returned

protected theorem discard (h : DoesJust pacing p chores a) :
    DoesJust pacing (discard p) chores () :=
  h.map fun _ => ()

theorem eq_performAll {p : Action Unit} (h : DoesJust pacing p chores ()) :
    p = performAll pacing chores :=
  h.trans bind_pure_unit

end DoesJust

/-! ## Log collectors and services -/

namespace Collector

def chores (c : Collector) : List Chore :=
  if c.stopped then [] else [.output c.stream]

theorem stop_does (c : Collector) : DoesJust pacing c.stop c.chores { c with stopped := true } := by
  unfold stop chores
  split
  · next stopped =>
    rw [← stopped]
    exact .pure c
  · exact (DoesJust.perform (.output c.stream)).bind (.pure _)

end Collector

namespace Service

/-- What is left to be done for a service. -/
def chores (s : Service) : List Chore :=
  s.collector.toList.flatMap Collector.chores ++ if s.terminated then [] else [.container s.name]

/-- The service when nothing is left to be done for it. -/
def spent (s : Service) : Service :=
  { s with terminated := true, collector := none }

/-- The flag is right. -/
def Coherent (s : Service) : Prop :=
  s.terminated = true → s.spent = s

/-- Terminates the service, and then its collector if it still has one. -/
def drop (pacing : Pacing) (s : Service) : Action Unit := do
  let s ← s.terminate pacing
  s.collector.forM fun c => discard c.stop

variable {s : Service}

theorem spent_chores (s : Service) : s.spent.chores = [] := rfl

theorem spent_coherent (s : Service) : s.spent.Coherent := fun _ => rfl

theorem coherent_of_live (live : s.terminated = false) : s.Coherent := by
  simp [Coherent, live]

theorem chores_live (live : s.terminated = false) :
    s.chores = s.collector.toList.flatMap Collector.chores ++ [.container s.name] := by
  simp [chores, live]

theorem tally (live : s.terminated = false) : Tally s.chores [s.name] [] [] := by
  have outputs : Tally (s.collector.toList.flatMap Collector.chores) [] [] [] := by
    cases s.collector with
    | none => exact ⟨.refl _, .refl _, .refl _⟩
    | some c =>
      rw [Option.toList_some, List.flatMap_singleton]
      unfold Collector.chores
      split <;> exact ⟨.refl _, .refl _, .refl _⟩
  rw [chores_live live]
  have removal : Tally [.container s.name] [s.name] [] [] := ⟨.refl _, .refl _, .refl _⟩
  exact outputs.append removal

theorem terminate_does (h : s.Coherent) :
    DoesJust pacing (s.terminate pacing) s.chores s.spent := by
  unfold terminate
  split
  · next terminated =>
    -- By its flag the service is as it would be after the round.
    have same := h terminated
    have nothing : s.chores = [] := by rw [← same, spent_chores]
    rw [nothing, same]
    exact .pure s
  · next live =>
    rw [chores_live (by simpa using live)]
    have removes : DoesJust pacing (do
        removeForced pacing.retry s.name
        return s.spent) [.container s.name] s.spent :=
      (DoesJust.perform (.container s.name)).bind (.pure _)
    cases s.collector with
    | none => exact removes
    | some c =>
      rw [Option.toList_some, List.flatMap_singleton]
      exact c.stop_does.discard.bind removes

theorem drop_does (h : s.Coherent) : DoesJust pacing (s.drop pacing) s.chores () := by
  have dropped : DoesJust pacing (s.drop pacing) (s.chores ++ []) () :=
    (terminate_does h).bind (.pure ())
  rwa [List.append_nil] at dropped

end Service

/-! ## Networks -/

namespace Network

def chores (n : Network) : List Chore :=
  if n.removed then [] else [.network n.name]

def spent (n : Network) : Network :=
  { n with removed := true }

def drop (n : Network) : Action Unit :=
  discard n.remove

theorem chores_kept {n : Network} (kept : n.removed = false) : n.chores = [.network n.name] := by
  simp [chores, kept]

theorem remove_does (n : Network) : DoesJust pacing n.remove n.chores n.spent := by
  unfold remove chores spent
  split
  · next removed =>
    rw [← removed]
    exact .pure n
  · exact (DoesJust.perform (.network n.name)).bind (.pure _)

theorem drop_does (n : Network) : DoesJust pacing n.drop n.chores () :=
  n.remove_does.discard

theorem tally {n : Network} (kept : n.removed = false) : Tally n.chores [] [n.name] [] := by
  rw [chores_kept kept]
  exact ⟨.refl _, .refl _, .refl _⟩

/-! ### Networks of a handle's own -/

/-- What is left to be done for a network that may have been made for a handle. -/
def ownChores (own : Option Network) : List Chore :=
  own.toList.flatMap chores

theorem ownChores_spent (own : Option Network) : ownChores (own.map spent) = [] := by
  cases own <;> rfl

theorem ownTally {own : Option Network} (kept : ∀ n, own = some n → n.removed = false) :
    Tally (ownChores own) [] (own.toList.map (·.name)) [] := by
  cases own with
  | none => exact ⟨.refl _, .refl _, .refl _⟩
  | some n =>
    rw [ownChores, Option.toList_some, List.flatMap_singleton]
    exact tally (kept n rfl)

theorem removeOwn_does (own : Option Network) :
    DoesJust pacing (own.mapM remove) (ownChores own) (own.map spent) := by
  cases own with
  | none => exact .pure none
  | some n =>
    rw [ownChores, Option.toList_some, List.flatMap_singleton]
    exact n.remove_does.map some

theorem dropOwn_does (own : Option Network) :
    DoesJust pacing (own.forM drop) (ownChores own) () := by
  cases own with
  | none => exact .pure ()
  | some n =>
    rw [ownChores, Option.toList_some, List.flatMap_singleton]
    exact n.drop_does

end Network

/-! ## Replica sets -/

namespace ReplicaSet

def chores (r : ReplicaSet) : List Chore :=
  r.master.chores ++ (r.second.chores ++ (r.third.chores ++ Network.ownChores r.network))

def spent (r : ReplicaSet) : ReplicaSet :=
  { r with
    master := r.master.spent
    second := r.second.spent
    third := r.third.spent
    network := r.network.map Network.spent
    terminated := true }

/-- The flags are right, its own and those of its members. -/
structure Coherent (r : ReplicaSet) : Prop where
  master : r.master.Coherent
  second : r.second.Coherent
  third : r.third.Coherent
  whole : r.terminated = true → r.spent = r

/-- Terminates the set, and then drops its network and its members. -/
def drop (pacing : Pacing) (r : ReplicaSet) : Action Unit := do
  let r ← r.terminate pacing
  r.network.forM Network.drop
  r.master.drop pacing
  r.second.drop pacing
  r.third.drop pacing

variable {r : ReplicaSet}

theorem spent_chores (r : ReplicaSet) : r.spent.chores = [] := by
  simp [chores, spent, Service.spent_chores, Network.ownChores_spent]

theorem spent_spent (r : ReplicaSet) : r.spent.spent = r.spent := by
  cases own : r.network <;> simp [spent, own, Service.spent, Network.spent]

theorem spent_coherent (r : ReplicaSet) : r.spent.Coherent :=
  ⟨Service.spent_coherent _, Service.spent_coherent _, Service.spent_coherent _,
    fun _ => r.spent_spent⟩

theorem tally (live : r.Live) : Tally r.chores r.containerNames r.ownNetworks [] := by
  have member {s : Service} (h : s ∈ r.members.map (·.2)) : Tally s.chores [s.name] [] [] :=
    Service.tally (live.members s h)
  exact (member (by simp [members])).append ((member (by simp [members])).append
    ((member (by simp [members])).append (Network.ownTally live.network)))

theorem coherent_of_live (live : r.Live) : r.Coherent where
  master := Service.coherent_of_live (live.members _ (by simp [members]))
  second := Service.coherent_of_live (live.members _ (by simp [members]))
  third := Service.coherent_of_live (live.members _ (by simp [members]))
  whole := by simp [live.set]

theorem terminate_does (h : r.Coherent) :
    DoesJust pacing (r.terminate pacing) r.chores r.spent := by
  unfold terminate
  split
  · next terminated =>
    have same := h.whole terminated
    have nothing : r.chores = [] := by rw [← same, spent_chores]
    rw [nothing, same]
    exact .pure r
  · refine (Service.terminate_does h.master).bind ((Service.terminate_does h.second).bind
      ((Service.terminate_does h.third).bind ?_))
    exact (Network.removeOwn_does r.network).map _

theorem drop_does (h : r.Coherent) : DoesJust pacing (r.drop pacing) r.chores () := by
  have rest : DoesJust pacing (do
      r.spent.network.forM Network.drop
      r.spent.master.drop pacing
      r.spent.second.drop pacing
      r.spent.third.drop pacing) [] () := by
    have network : DoesJust pacing (r.spent.network.forM Network.drop)
        (Network.ownChores (r.network.map Network.spent)) () := Network.dropOwn_does _
    rw [Network.ownChores_spent] at network
    exact network.bind ((Service.drop_does (Service.spent_coherent _)).bind
      ((Service.drop_does (Service.spent_coherent _)).bind
        (Service.drop_does (Service.spent_coherent _))))
  have dropped : DoesJust pacing (r.drop pacing) (r.chores ++ []) () :=
    (terminate_does h).bind rest
  rwa [List.append_nil] at dropped

end ReplicaSet

/-! ## Brokers -/

namespace Broker

def chores (b : Broker) : List Chore :=
  b.broker.chores ++ (b.coordinator.chores ++ Network.ownChores b.network)

def spent (b : Broker) : Broker :=
  { b with
    broker := b.broker.spent
    coordinator := b.coordinator.spent
    network := b.network.map Network.spent
    terminated := true }

structure Coherent (b : Broker) : Prop where
  broker : b.broker.Coherent
  coordinator : b.coordinator.Coherent
  whole : b.terminated = true → b.spent = b

/-- Terminates the broker, and then drops its services and its network. -/
def drop (pacing : Pacing) (b : Broker) : Action Unit := do
  let b ← b.terminate pacing
  b.broker.drop pacing
  b.coordinator.drop pacing
  b.network.forM Network.drop

variable {b : Broker}

theorem spent_chores (b : Broker) : b.spent.chores = [] := by
  simp [chores, spent, Service.spent_chores, Network.ownChores_spent]

theorem spent_spent (b : Broker) : b.spent.spent = b.spent := by
  cases own : b.network <;> simp [spent, own, Service.spent, Network.spent]

theorem spent_coherent (b : Broker) : b.spent.Coherent :=
  ⟨Service.spent_coherent _, Service.spent_coherent _, fun _ => b.spent_spent⟩

/-- A broker that is released ahead of the whole. -/
theorem Coherent.spendBroker (h : b.Coherent) :
    { b with broker := b.broker.spent }.Coherent where
  broker := Service.spent_coherent _
  coordinator := h.coordinator
  whole := by
    intro terminated
    have same := h.whole terminated
    have part : b.broker.spent = b.broker := congrArg Broker.broker same
    rw [part]
    exact same

theorem Coherent.spendCoordinator (h : b.Coherent) :
    { b with coordinator := b.coordinator.spent }.Coherent where
  broker := h.broker
  coordinator := Service.spent_coherent _
  whole := by
    intro terminated
    have same := h.whole terminated
    have part : b.coordinator.spent = b.coordinator := congrArg Broker.coordinator same
    rw [part]
    exact same

theorem tally (live : b.Live) : Tally b.chores b.containerNames b.ownNetworks [] :=
  (Service.tally live.broker).append
    ((Service.tally live.coordinator).append (Network.ownTally live.network))

theorem coherent_of_live (live : b.Live) : b.Coherent where
  broker := Service.coherent_of_live live.broker
  coordinator := Service.coherent_of_live live.coordinator
  whole := by simp [live.whole]

theorem terminate_does (h : b.Coherent) :
    DoesJust pacing (b.terminate pacing) b.chores b.spent := by
  unfold terminate
  split
  · next terminated =>
    have same := h.whole terminated
    have nothing : b.chores = [] := by rw [← same, spent_chores]
    rw [nothing, same]
    exact .pure b
  · refine (Service.terminate_does h.broker).bind ((Service.terminate_does h.coordinator).bind ?_)
    exact (Network.removeOwn_does b.network).map _

theorem drop_does (h : b.Coherent) : DoesJust pacing (b.drop pacing) b.chores () := by
  have rest : DoesJust pacing (do
      b.spent.broker.drop pacing
      b.spent.coordinator.drop pacing
      b.spent.network.forM Network.drop) [] () := by
    have network : DoesJust pacing (b.spent.network.forM Network.drop)
        (Network.ownChores (b.network.map Network.spent)) () := Network.dropOwn_does _
    rw [Network.ownChores_spent] at network
    exact (Service.drop_does (Service.spent_coherent _)).bind
      ((Service.drop_does (Service.spent_coherent _)).bind network)
  have dropped : DoesJust pacing (b.drop pacing) (b.chores ++ []) () :=
    (terminate_does h).bind rest
  rwa [List.append_nil] at dropped

end Broker

end Testbed
