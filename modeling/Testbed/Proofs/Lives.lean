import Testbed.CommandLine.Job
import Testbed.Proofs.Provision
import Testbed.Proofs.Restoration

/-!
# Lives of a set

However a set is used and however it ends, it removes what it has started and nothing else.
-/

namespace Testbed

open Ledger (monitor monitor_ignores)
open Simulation (SimulatedEngine)

/-! ## Uses -/

namespace FixtureSet

/-- What can be done with a set. Dropping it is to close it. -/
inductive Use where
  | extend (ctx : Context) (plan : Plan)
  | close

variable {pacing : Pacing} {l : Ledger}

def use (pacing : Pacing) (set : FixtureSet) : Use → Action FixtureSet
  | .extend ctx plan => set.extend pacing ctx plan
  | .close => set.close pacing

/-- Uses a set again and again. -/
def useAll (pacing : Pacing) (set : FixtureSet) : List Use → Action FixtureSet
  | [] => return set
  | u :: uses => do (← set.use pacing u).useAll pacing uses

/-- A network, a cache and a broker are asked for. -/
def sampleUses : List Use :=
  [.extend ⟨⟨0⟩, none⟩ { steps := [.network none, .cache none, .broker none] }]

theorem useAll_backed {set : FixtureSet} {uses : List Use} (h : set.Backed l) :
    Prog.wp monitor (set.useAll pacing uses) (fun set' l' => set'.Backed l') l := by
  induction uses generalizing set l with
  | nil => exact h
  | cons u uses ih =>
    have used : Prog.wp monitor (set.use pacing u) (fun set' l' => set'.Backed l') l := by
      cases u with
      | extend ctx plan => exact extend_backed h
      | close => exact Prog.wp_mono (fun _ _ h => h.1) (close_backed h)
    apply Prog.wp_seq used
    intro set' l' backed
    exact ih backed

theorem provision_backed {ctx : Context} {plan : Plan} :
    Prog.wp monitor (provision pacing ctx plan) (fun set' l' => set'.Backed l') {} :=
  extend_backed .new

/-- A set that is not ready is closed. -/
theorem intoReady_backed {set : FixtureSet} (h : set.Backed l) :
    Task.wp monitor (set.intoReady pacing) (fun set' l' => set'.Backed l') (fun _ l' => l'.Settled)
      l := by
  unfold intoReady
  refine Task.wp_mk.2 ?_
  split
  · exact h
  · exact Prog.wp_bind.2 (Prog.wp_bind.2 (Prog.wp_mono (fun _ _ h => h.2) (close_backed h)))

/-- A life that ends with the set closed or dropped. -/
theorem close_settles (pacing : Pacing) (uses : List Use) :
    Prog.wp monitor (do (← useAll pacing {} uses).close pacing) (fun _ l' => l'.Settled) {} := by
  apply Prog.wp_seq (useAll_backed .new)
  intro set l backed
  exact Prog.wp_mono (fun _ _ h => h.2) (close_backed backed)

/-- A life that ends with the set found not ready. -/
theorem intoReady_settles (pacing : Pacing) (uses : List Use) :
    Prog.wp monitor (do ((← useAll pacing {} uses).intoReady pacing).run)
      (Task.ends (fun _ _ => True) (fun _ l' => l'.Settled)) {} := by
  apply Prog.wp_seq (useAll_backed .new)
  intro set l backed
  exact Task.wp_mono (fun _ _ _ => trivial) (fun _ _ h => h) (intoReady_backed backed)

end FixtureSet

/-! ## Tidiness -/

/-- A trace removes what it starts and nothing else. On an engine in memory it leaves the containers
as they were, whatever fails but removals. -/
structure Trace.Tidy (t : Trace) : Prop where
  releases : t.Releases
  removesOwn : t.RemovesOwn
  restores : ∀ e e' : SimulatedEngine, e.RemovesFreely → e.Serves t e' →
    e'.containers = e.containers

theorem Ledger.Settled.tidy {t : Trace} (accepts : monitor.Accepts {} t)
    (h : (monitor.after {} t).Settled) : t.Tidy := by
  obtain ⟨entered, undone⟩ := h
  have owed := undone.owed_nil
  exact ⟨releases_of_owed owed, removesOwn_of_accepts accepts,
    fun _ _ free serves => serves.restores free accepts owed⟩

/-! ## Jobs -/

namespace CommandLine

section Laws

variable {σ α : Type} {M : Monitor Engine.onSystem σ} {s : σ} {Q : α → σ → Prop}
  {E : Failure → σ → Prop}

theorem Work.act_wp {action : Action α} :
    Task.wp (M.inLeft Console) (Work.act action) Q E s ↔ action.wp M Q s :=
  Prog.wp_map.trans Prog.wp_inLeft

theorem Work.attempt_wp {task : Attempt α} :
    Task.wp (M.inLeft Console) (Work.attempt task) Q E s ↔
      Task.wp M task Q (fun e => E (.ofError e)) s := by
  refine Prog.wp_bind.trans (Prog.wp_inLeft.trans (iff_of_eq
    (congrArg (Prog.wp M task.run · s) (funext fun r => ?_))))
  cases r <;> rfl

theorem Work.during_wp {what : String} {work : Work α} :
    Task.wp (M.inLeft Console) (work.during what) Q E s ↔
      Task.wp (M.inLeft Console) work Q (fun f => E (f.during what)) s := by
  refine Prog.wp_bind.trans (iff_of_eq
    (congrArg (Prog.wp (M.inLeft Console) work.run · s) (funext fun r => ?_)))
  cases r <;> rfl

end Laws

/-! ### Talking to the user -/

/-- A request to the console. -/
abbrev AtConsole (r : Desk.Request) : Prop := r.isRight

theorem Work.print_atConsole (text : String) : Task.Only AtConsole (Work.print text) := by
  refine Prog.Only.bind ⟨rfl, fun _ => trivial⟩ fun reply => ?_
  cases reply <;> trivial

theorem printLines_atConsole (lines : List String) : Task.Only AtConsole (printLines lines) := by
  induction lines with
  | nil => trivial
  | cons line lines ih => exact Task.Only.bind (Work.print_atConsole _) fun _ => ih

theorem awaitEnter_atConsole : Task.Only AtConsole awaitEnter := by
  refine Prog.Only.bind ⟨rfl, fun _ => trivial⟩ fun reply => ?_
  cases reply <;> trivial

theorem present_atConsole (set : FixtureSet) (noWait : Bool) :
    Task.Only AtConsole (present set noWait) := by
  refine Task.Only.bind (printLines_atConsole _) fun _ => ?_
  cases noWait with
  | true => trivial
  | false =>
    refine Task.Only.bind (printLines_atConsole _) fun _ => ?_
    exact Prog.Only.bind awaitEnter_atConsole fun _ => trivial

/-! ### Providing fixtures -/

section Up

open FixtureSet

variable {pacing : Pacing} {set : FixtureSet} {l : Ledger}

theorem close_settles {E : Failure → Ledger → Prop} (h : set.Backed l) :
    Task.wp (monitor.inLeft Console) (close pacing set) (fun _ l' => l'.Settled) E l :=
  Work.act_wp.2 (Prog.wp_bind.2 (Prog.wp_mono (fun _ _ h => h.2) (close_backed h)))

/-- A failure to talk to the user closes the set. -/
theorem closeOnFailure_backed {work : Work Unit} (talks : Task.Only AtConsole work)
    (h : set.Backed l) :
    Task.wp (monitor.inLeft Console) (closeOnFailure pacing set work) (fun _ l' => set.Backed l')
      (fun _ l' => l'.Settled) l := by
  refine Task.wp_run_bind.2 (Task.Only.wp talks Monitor.inLeft_ignores (fun _ => h) ?_)
  intro _
  -- The books are settled whatever comes of closing.
  have closes : Task.wp (monitor.inLeft Console) (close pacing set) (fun _ l' => l'.Settled)
      (fun _ l' => l'.Settled) l := close_settles h
  refine Prog.wp_bind.2 (Prog.wp_seq closes ?_)
  rintro (_ | _) _ settled <;> exact settled

theorem up_settles {config : Config} {noWait : Bool} {rounds : Nat} :
    Task.wp (monitor.inLeft Console) (up config false noWait rounds) (fun _ l => l.Settled)
      (fun _ l => l.Settled) {} := by
  have fresh_context : Prog.Only Engine.Idle (Context.background : Action Context) :=
    Prog.Only.bind (System.ask_idle _) fun _ => trivial
  refine Task.wp_bind.2 (Work.act_wp.2 (Prog.Only.wp fresh_context monitor_ignores ?_))
  intro ctx
  apply Task.wp_seq (Work.act_wp.2 provision_backed)
  intro set l backed
  apply Task.wp_seq (Work.during_wp.2 (Work.attempt_wp.2 (intoReady_backed backed)))
  intro set l backed
  apply Task.wp_seq (closeOnFailure_backed (present_atConsole set noWait) backed)
  intro _ l backed
  apply Task.wp_seq (close_settles backed)
  intro _ l settled
  exact Task.Only.wp (printLines_atConsole _) Monitor.inLeft_ignores (fun _ => settled)
    fun _ => settled

theorem up_fresh (config : Config) (noWait : Bool) (rounds : Nat) :
    up config true noWait rounds = (do
      Work.act (dropContainers config.retryPolicy config.plan.containerNames)
      up config false noWait rounds) :=
  rfl

end Up

/-! ### The sweep before -/

/-- What a job asks of its engine and its system. -/
abbrev atEngine (t : List (Prog.Event Desk)) : Trace := t.filterMap Prog.Event.left?

theorem Work.act_yields {α : Type} {action : Action α} {t : List (Prog.Event Desk)}
    {r : Except Failure α} (h : Prog.Yields (Work.act action).run t r) :
    ∃ a, r = .ok a ∧ Prog.Yields action (atEngine t) a := by
  change Prog.Yields (Except.ok <$> action.inLeft) t r at h
  rw [map_eq_pure_bind] at h
  obtain ⟨s, u, a, rfl, acts, returns⟩ := Prog.yields_bind.1 h
  cases returns
  rw [List.append_nil]
  exact ⟨a, rfl, acts.left⟩

/-- Sweeping comes first. -/
theorem up_yields {config : Config} {fresh noWait : Bool} {rounds : Nat}
    {t : List (Prog.Event Desk)} {r : Except Failure Unit}
    (h : Prog.Yields (up config fresh noWait rounds).run t r) :
    ∃ s u, t = s ++ u ∧
      Prog.Yields (if fresh then dropContainers config.retryPolicy config.plan.containerNames
        else pure ()) (atEngine s) () ∧
      Prog.Yields (up config false noWait rounds).run u r := by
  cases fresh with
  | false => exact ⟨[], t, rfl, .done (), h⟩
  | true =>
    rw [up_fresh] at h
    obtain ⟨s, u, outcome, rfl, sweeps, rest⟩ := Prog.yields_bind.1 h
    obtain ⟨_, rfl, swept⟩ := Work.act_yields sweeps
    exact ⟨s, u, rfl, swept, rest⟩

/-- A request that starts no container. -/
def StartsNothing (r : Engine.onSystem.Request) : Prop :=
  ∀ ctx spec, r ≠ .inl (.run ctx spec)

theorem removeForced_startsNothing (retry : RetryPolicy) (name : String) :
    Prog.Only StartsNothing (removeForced retry name) := by
  refine (removeWithin_cleans _ _ _).mono ?_
  rintro _ cleans ctx spec rfl
  exact cleans

theorem dropContainers_startsNothing (retry : RetryPolicy) (names : List String) :
    Prog.Only StartsNothing (dropContainers retry names) := by
  have removes : Prog.Only StartsNothing (removeAll retry names) := by
    induction names with
    | nil => trivial
    | cons name names ih =>
      exact Prog.Only.bind (removeForced_startsNothing _ _) fun _ => ih
  unfold dropContainers
  split
  · trivial
  · have prunes : Prog.Only StartsNothing pruneNetworks := by
      refine Prog.Only.bind ⟨nofun, fun _ => trivial⟩ fun reply => ?_
      cases reply with
      | ok => trivial
      | error => exact ⟨nofun, fun _ => trivial⟩
    exact Prog.Only.bind prunes fun _ => removes

/-- What a trace starts after a beginning that starts nothing, is removed in the whole of it. -/
theorem releases_append {s u : Trace} (hs : ∀ e ∈ s, StartsNothing e.request) (hu : u.Releases) :
    Trace.Releases (s ++ u) := by
  intro s' u' ctx spec eq
  -- The start stands either in `u` or in `s`, where it cannot be.
  rcases List.append_eq_append_iff.1 eq with ⟨mid, rfl, rest⟩ | ⟨mid, rfl, rest⟩
  · exact hu mid u' ctx spec rest
  · cases mid with
    | nil => exact hu [] u' ctx spec rest.symm
    | cons e mid =>
      obtain ⟨rfl, -⟩ := List.cons.inj rest
      exact absurd rfl (hs _ (List.mem_append_right _ List.mem_cons_self) ctx spec)

/-- However a set of fixtures is used and however it ends, each container that it started is removed
later, and it removes no other. So the containers of an engine in memory, whose removals do not
fail, are in the end what they were before. A sweep may come first when a job provides the
fixtures. -/
theorem set_leaves_nothing_behind :
    (∀ pacing uses t set,
      Prog.Yields (do (← FixtureSet.useAll pacing {} uses).close pacing) t set → Trace.Tidy t) ∧
    (∀ pacing uses t e,
      Prog.Yields (do ((← FixtureSet.useAll pacing {} uses).intoReady pacing).run) t (.error e) →
      Trace.Tidy t) ∧
    (∀ config fresh noWait rounds t r, Prog.Yields (up config fresh noWait rounds).run t r →
      Trace.Releases (atEngine t) ∧ ∃ s u, atEngine t = s ++ u ∧ Trace.Tidy u ∧
        Prog.Yields (if fresh then dropContainers config.retryPolicy config.plan.containerNames
          else pure ()) s ()) := by
  refine ⟨?_, ?_, ?_⟩
  · intro pacing uses t set ht
    have closes := FixtureSet.close_settles pacing uses
    exact Ledger.Settled.tidy (Prog.wp_reaches closes ht.reaches) (Prog.wp_yields closes ht)
  · intro pacing uses t e ht
    have closes := FixtureSet.intoReady_settles pacing uses
    exact Ledger.Settled.tidy (Prog.wp_reaches closes ht.reaches) (Prog.wp_yields closes ht)
  · -- The books are opened after the sweep, which starts nothing.
    intro config fresh noWait rounds t r ht
    obtain ⟨s, u, rfl, sweeps, rest⟩ := up_yields ht
    have accepts := Prog.wp_reaches up_settles rest.reaches
    have settled := Prog.wp_yields up_settles rest
    have tidy : Trace.Tidy (atEngine u) := by
      refine Ledger.Settled.tidy accepts.left ?_
      rw [← Monitor.after_inLeft]
      cases r with
      | ok => exact settled
      | error => exact settled
    rw [atEngine, List.filterMap_append]
    have quiet : Prog.Only StartsNothing (if fresh then
        dropContainers config.retryPolicy config.plan.containerNames else pure ()) := by
      split
      · exact dropContainers_startsNothing _ _
      · trivial
    exact ⟨releases_append (quiet.reaches sweeps.reaches) tidy.releases, _, _, rfl, tidy, sweeps⟩

/-- An obliging engine, and a user who cannot be heard. -/
def deafDesk : (r : Desk.Request) → Desk.Reply r
  | .inl r => Engine.obliging r
  | .inr (.print _) => .ok ()
  | .inr .readLine => .error "closed"

/-- A set that is closed, one that does not get ready, and a job that cannot read its input. -/
theorem sample_lives_leave_nothing_behind :
    let closed := Prog.play Engine.obliging
      (do (← FixtureSet.useAll {} {} FixtureSet.sampleUses).close {} : Action FixtureSet)
    let unready := Prog.play Engine.unpublishing
      (do ((← FixtureSet.useAll {} {} FixtureSet.sampleUses).intoReady {}).run :
        Action (Except Error FixtureSet))
    let deaf := Prog.play deafDesk (up { cache := some {} } true false 4).run
    Trace.started closed.1 ≠ [] ∧ Trace.Tidy closed.1 ∧
      Trace.started unready.1 ≠ [] ∧ Trace.Tidy unready.1 ∧
      deaf.2 = some (.error ⟨["reading from stdin", "closed"]⟩) ∧
      Trace.Releases (atEngine deaf.1) :=
  ⟨by decide +kernel, set_leaves_nothing_behind.1 _ _ _ _ (Prog.yields_play _ rfl),
    by decide +kernel, set_leaves_nothing_behind.2.1 _ _ _ _ (Prog.yields_play _ rfl), rfl,
    (set_leaves_nothing_behind.2.2 _ _ _ _ _ _ (Prog.yields_play _ rfl)).1⟩

end CommandLine

end Testbed
