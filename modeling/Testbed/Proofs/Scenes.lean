import Testbed.Proofs.Launching
import Testbed.Proofs.Restoration
import Testbed.Simulation.Bench

/-!
# Scenes

A scene is a simulated engine on a simulated host. The engine answers requests as the host tells
whether their contexts are done. Between two requests time passes, contexts may be cancelled, and
operations may be made to fail.
-/

namespace Testbed.Simulation

structure Scene where
  engine : SimulatedEngine := {}
  host : Host := {}

namespace Scene

/-- The context is cancelled or has expired. -/
def Done (s : Scene) (ctx : Context) : Prop :=
  s.host.causeOf ctx ≠ none

/-- Why the context of a request is done, if it has one that is. -/
def doneFor (s : Scene) (r : Engine.Request) : Option Context.Cause :=
  (Bench.contextOf? r).bind s.host.causeOf

/-- The reply of the engine. A stream that the request opens is called `fresh`. -/
def reply (s : Scene) (fresh : StreamId) (r : Engine.Request) : Engine.Reply r :=
  ((SimulatedEngine.answer (s.doneFor r) fresh r).run s.engine).1

/-- The scene after the engine has replied. -/
def next (s : Scene) (fresh : StreamId) (r : Engine.Request) : Scene :=
  { s with engine := ((SimulatedEngine.answer (s.doneFor r) fresh r).run s.engine).2 }

/-- What may happen between two requests. Containers and networks stay, and removing them is not
made to fail. -/
structure Later (s s' : Scene) : Prop where
  clock : s.host.clock ≤ s'.host.clock
  cancelled : s.host.cancelled ⊆ s'.host.cancelled
  engine : s.engine.Undisturbed s'.engine
  networks : s'.engine.networks = s.engine.networks
  leaves : s.engine.LeavesFreely → s'.engine.LeavesFreely

/-- In a scene that was `s` requests are answered as in `t`, and it is `s'` then. What the system
replies is left open. -/
inductive Serves : Scene → Trace → Scene → Prop
  | start (s : Scene) : Serves s [] s
  | engine {s s' : Scene} {t : Trace} (fresh : StreamId) (r : Engine.Request)
      (rest : Serves (s.next fresh r) t s') : Serves s (Engine.event r (s.reply fresh r) :: t) s'
  | system {s s' : Scene} {t : Trace} (r : System.Request) (b : System.Reply r)
      (rest : Serves s t s') : Serves s (⟨Sum.inr r, b⟩ :: t) s'
  | meanwhile {s s₁ s' : Scene} {t : Trace} (h : s.Later s₁) (rest : Serves s₁ t s') :
      Serves s t s'

variable {s s₁ s' : Scene} {t : Trace} {ctx : Context}

theorem answered (s : Scene) (fresh : StreamId) (r : Engine.Request) :
    SimulatedEngine.Answered (s.doneFor r) s.engine r (s.reply fresh r) (s.next fresh r).engine :=
  SimulatedEngine.answer_answered _ fresh r s.engine

/-- The engine of a scene serves like an engine by itself. -/
theorem Serves.engine_serves (h : s.Serves t s') :
    SimulatedEngine.Serves s.engine t s'.engine := by
  induction h with
  | start => exact .start _
  | engine fresh r rest ih => exact .engine _ fresh r ih
  | system r b rest ih => exact .system r b ih
  | meanwhile later rest ih => exact .meanwhile later.engine ih

/-! ## Contexts -/

/-- A context is done when its flag is set or its deadline has passed. -/
theorem done_iff : s.Done ctx ↔
    ctx.token ∈ s.host.cancelled ∨ ∃ deadline ∈ ctx.deadline, deadline ≤ s.host.clock := by
  have flag : s.host.isCancelled ctx.token = true ↔ ctx.token ∈ s.host.cancelled :=
    List.contains_iff_mem
  have passed : ctx.deadline.any (· ≤ s.host.clock) = true ↔
      ∃ deadline ∈ ctx.deadline, deadline ≤ s.host.clock := by
    simp [Option.any_eq_true]
  rw [← flag, ← passed, Done, Host.causeOf, Context.cause?]
  split
  · simp [*]
  · split <;> simp [*]

/-- Once a context is done, it remains so. -/
theorem Done.later (h : s.Done ctx) (later : s.Later s₁) : s₁.Done ctx := by
  refine done_iff.2 ((done_iff.1 h).imp (fun hmem => later.cancelled hmem) ?_)
  rintro ⟨deadline, hmem, passed⟩
  exact ⟨deadline, hmem, Nat.le_trans passed later.clock⟩

/-- A context with a further deadline is done no later. -/
theorem Done.expiringAt (h : s.Done ctx) (now : Instant) (timeout : Duration) :
    s.Done (ctx.expiringAt now timeout) := by
  refine done_iff.2 ((done_iff.1 h).imp_right ?_)
  rintro ⟨deadline, hmem, passed⟩
  refine ⟨min deadline (now + timeout), by simp [Context.expiringAt, Option.mem_def.1 hmem], ?_⟩
  exact Nat.le_trans (Nat.min_le_left _ _) passed

/-! ## Networks -/

theorem next_keeps_network {network : String} (fresh : StreamId) (r : Engine.Request)
    (hmem : network ∈ s.engine.networks)
    (kept : network ∉ Trace.left [Engine.event r (s.reply fresh r)]) :
    network ∈ (s.next fresh r).engine.networks := by
  have changes := (s.answered fresh r).2
  generalize s.reply fresh r = b at changes kept
  cases r with
  | run ctx spec =>
    cases b with
    | ok => exact changes.2.2.2 ▸ hmem
    | error => exact changes.2 ▸ hmem
  | createNetwork ctx spec =>
    cases b with
    | ok => exact changes.2.2 ▸ List.mem_append_left _ hmem
    | error => exact changes.2 ▸ hmem
  | removeNetwork name =>
    have other : network ≠ name := fun heq => kept (heq ▸ List.mem_singleton_self _)
    rcases changes.2 with gone | ⟨-, same⟩
    · rw [gone]
      exact List.mem_filter.2 ⟨hmem, by simpa using other⟩
    · exact same ▸ hmem
  | _ => exact changes.2 ▸ hmem

/-- A network stays until it is told to go. -/
theorem Serves.keeps_network {network : String} (h : s.Serves t s')
    (hmem : network ∈ s.engine.networks) (kept : network ∉ t.left) :
    network ∈ s'.engine.networks := by
  induction h with
  | start => exact hmem
  | @engine s _ t fresh r rest ih =>
    have split := Trace.left_append [Engine.event r (s.reply fresh r)] t
    rw [List.singleton_append] at split
    rw [split, List.mem_append, not_or] at kept
    exact ih (next_keeps_network fresh r hmem kept.1) kept.2
  | system r b rest ih => exact ih hmem kept
  | meanwhile later rest ih => exact ih (later.networks ▸ hmem) kept

/-- While networks are left freely, a network that is there after a request was not told to go, and
it was there before or has been joined. -/
theorem next_network {network : String} (fresh : StreamId) (r : Engine.Request)
    (free : s.engine.LeavesFreely) (there : network ∈ (s.next fresh r).engine.networks) :
    network ∉ Trace.left [Engine.event r (s.reply fresh r)] ∧
      (network ∈ s.engine.networks ∨
        network ∈ Trace.joined [Engine.event r (s.reply fresh r)]) := by
  have changes := (s.answered fresh r).2
  generalize s.reply fresh r = b at changes ⊢
  cases r with
  | run ctx spec =>
    cases b with
    | ok => exact ⟨List.not_mem_nil, .inl (changes.2.2.2 ▸ there)⟩
    | error => exact ⟨List.not_mem_nil, .inl (changes.2 ▸ there)⟩
  | createNetwork ctx spec =>
    cases b with
    | ok =>
      rw [changes.2.2] at there
      exact ⟨List.not_mem_nil, List.mem_append.1 there⟩
    | error => exact ⟨List.not_mem_nil, .inl (changes.2 ▸ there)⟩
  | removeNetwork name =>
    rw [changes.2.resolve_right fun made => made.1 free] at there
    obtain ⟨before, other⟩ := List.mem_filter.1 there
    exact ⟨fun left => by simp [List.mem_singleton.1 left] at other, .inl before⟩
  | networkExists name =>
    refine ⟨?_, .inl (changes.2 ▸ there)⟩
    rcases b with _ | _ | _ <;> exact List.not_mem_nil
  | _ => exact ⟨List.not_mem_nil, .inl (changes.2 ▸ there)⟩

/-- A network is due, or it was among the `first` ones and has not been joined. -/
def Accounted (first : List String) (l : Ledger) (network : String) : Prop :=
  network ∈ l.due ∨ network ∈ first ∧ network ∉ l.joined

/-- While networks are left freely, all of them are accounted for. -/
theorem Serves.accounted {first : List String} {l : Ledger} (h : s.Serves t s')
    (free : s.engine.LeavesFreely)
    (before : ∀ network ∈ s.engine.networks, Accounted first l network) :
    ∀ network ∈ s'.engine.networks, Accounted first (Ledger.monitor.after l t) network := by
  induction h generalizing l with
  | start => exact before
  | @engine s _ t fresh r rest ih =>
    refine ih ((s.answered fresh r).1.leavesFreely free) fun network there => ?_
    obtain ⟨kept, was⟩ := s.next_network fresh r free there
    change Accounted first (Ledger.monitor.after l [Engine.event r (s.reply fresh r)]) network
    by_cases joins : network ∈ Trace.joined [Engine.event r (s.reply fresh r)]
    · exact .inl (Ledger.mem_due_of_joined joins)
    · refine (before network (was.resolve_right joins)).imp (Ledger.mem_due_after · kept) ?_
      rintro ⟨among, unjoined⟩
      rw [Ledger.joined_after, List.mem_append, not_or]
      exact ⟨among, unjoined, joins⟩
  | system r b rest ih => exact ih free before
  | meanwhile later rest ih => exact ih (later.leaves free) (later.networks ▸ before)

/-! ## Playing -/

/-- The run of a program in a scene. The system is obliging, and its clock stands still. -/
def play {α : Type} : Action α → Scene → Trace × Option α × Scene
  | .done a, s => ([], some a, s)
  | .ask (.inl r) next, s =>
    let (t, a, s') := play (next (s.reply ⟨0⟩ r)) (s.next ⟨0⟩ r)
    (Engine.event r (s.reply ⟨0⟩ r) :: t, a, s')
  | .ask (.inr r) next, s =>
    let (t, a, s') := play (next (Engine.obliging (.inr r))) s
    (⟨Sum.inr r, Engine.obliging (.inr r)⟩ :: t, a, s')
  | .diverge, s => ([], none, s)

theorem play_serves {α : Type} (p : Action α) (s : Scene) :
    s.Serves (play p s).1 (play p s).2.2 := by
  induction p generalizing s with
  | done a => exact .start s
  | ask r next ih =>
    cases r with
    | inl r => exact .engine ⟨0⟩ r (ih _ _)
    | inr r => exact .system r _ (ih _ s)
  | diverge => exact .start s

theorem play_yields {α : Type} {p : Action α} {s : Scene} {a : α}
    (h : (play p s).2.1 = some a) : Prog.Yields p (play p s).1 a := by
  induction p generalizing s with
  | done => cases h; exact .done _
  | ask r next ih =>
    cases r with
    | inl r => exact Prog.Yields.ask (I := Engine.onSystem) (r := .inl r) _ (ih _ h)
    | inr r => exact Prog.Yields.ask (I := Engine.onSystem) (r := .inr r) _ (ih _ h)
  | diverge => cases h

end Scene

end Testbed.Simulation
