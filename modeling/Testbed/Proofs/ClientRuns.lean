import Testbed.Docker.Engine
import Testbed.Proofs.Ledger

/-!
# What a client is run with

An engine behind a client answers each request by running the client. The runs are read off a trace
by a monitor that pairs every client that was started with how it ended. Apart from the requests to
create or to remove a container, none runs the client with `run` or `rm`.
-/

namespace Testbed

/-! ## Interpreted programs -/

namespace Prog

variable {I J : Interface} {α β : Type} {serve : (r : I.Request) → Prog J (I.Reply r)}

theorem interpret_bind (p : Prog I α) (f : α → Prog I β) :
    (p >>= f).interpret serve = p.interpret serve >>= fun a => (f a).interpret serve := by
  induction p with
  | done => rfl
  | ask r next ih =>
    change (serve r >>= fun b => (next b >>= f).interpret serve) = _
    simp only [ih]
    exact (bind_assoc (serve r) _ _).symm
  | diverge => rfl

theorem Only.interpret {P : I.Request → Prop} {P' : J.Request → Prop} {p : Prog I α}
    (h : p.Only P) (served : ∀ r, P r → (serve r).Only P') : (p.interpret serve).Only P' := by
  induction p with
  | done => trivial
  | ask r next ih => exact (served r h.1).bind fun b => ih b (h.2 b)
  | diverge => trivial

/-- A run of an interpreted program is a run of the program, with a run of `serve` for each of its
events. -/
theorem Yields.of_interpret {p : Prog I α} {t : List (Event J)} {a : α}
    (h : Yields (p.interpret serve) t a) :
    ∃ u, Yields p u a ∧ ∀ e ∈ u, ∃ s, s ⊆ t ∧ Yields (serve e.request) s e.reply := by
  induction p generalizing t with
  | done =>
    cases h
    exact ⟨[], .done _, by simp⟩
  | ask r next ih =>
    obtain ⟨s, rest, b, rfl, served, later⟩ := yields_bind.1 h
    obtain ⟨u, run, each⟩ := ih b later
    refine ⟨⟨r, b⟩ :: u, .ask b run, List.forall_mem_cons.2 ⟨?_, fun e mem => ?_⟩⟩
    · exact ⟨s, List.subset_append_left _ _, served⟩
    · obtain ⟨s', within, served'⟩ := each e mem
      exact ⟨s', List.subset_append_of_subset_right _ within, served'⟩
  | diverge => cases h

end Prog

namespace Docker

/-! ## Runs -/

instance decidableEqOutcome {ε α : Type} [DecidableEq ε] [DecidableEq α] :
    DecidableEq (Except ε α)
  | .ok a, .ok b => decidable_of_iff (a = b) ⟨congrArg Except.ok, Except.ok.inj⟩
  | .error e, .error e' => decidable_of_iff (e = e') ⟨congrArg Except.error, Except.error.inj⟩
  | .ok _, .error _ => isFalse nofun
  | .error _, .ok _ => isFalse nofun

/-- One run of the client with its end, or why it could not be run. -/
structure ClientRun where
  args : List String
  outcome : Except String Completion
  deriving DecidableEq

namespace ClientRun

def succeeded (run : ClientRun) : Bool :=
  match run.outcome with
  | .ok c => c.status.success
  | .error _ => false

/-- The run succeeded, or said that what it was to remove does not exist. -/
def cleared (run : ClientRun) : Bool :=
  match run.outcome with
  | .ok c => c.status.success || saysNotFound c.errorText
  | .error _ => false

/-- The run neither created nor removed a container. -/
def Harmless (args : List String) : Prop :=
  args.head? ≠ some "run" ∧ args.head? ≠ some "rm"

theorem harmless {command : String} {args : List String} (run : command ≠ "run" := by decide)
    (rm : command ≠ "rm" := by decide) : Harmless (command :: args) :=
  ⟨fun h => run (Option.some.inj h), fun h => rm (Option.some.inj h)⟩

end ClientRun

/-- What is known of the runs so far. -/
structure Journal where
  /-- A client that was started and has not ended, with its arguments. -/
  running : Option (ProcessId × List String) := none
  runs : List ClientRun := []

namespace Journal

/-- The client `process` has ended, or cannot be waited for. -/
def ends (j : Journal) (process : ProcessId) (outcome : Except String Completion) : Journal :=
  match j.running with
  | some (current, args) =>
    if current = process then ⟨none, j.runs ++ [⟨args, outcome⟩]⟩ else j
  | none => j

theorem ends_running (process : ProcessId) (args : List String) (runs : List ClientRun)
    (outcome : Except String Completion) :
    ends ⟨some (process, args), runs⟩ process outcome = ⟨none, runs ++ [⟨args, outcome⟩]⟩ :=
  if_pos rfl

/-- A client that is killed has no end that anyone looks at, nor has one that is followed. -/
def record (j : Journal) : Prog.Event Client.onSystem → Journal
  | ⟨.inl (.execute args), outcome⟩ => { j with runs := j.runs ++ [⟨args, outcome⟩] }
  | ⟨.inl (.spawn args), .ok process⟩ => { j with running := some (process, args) }
  | ⟨.inl (.spawn args), .error reason⟩ => { j with runs := j.runs ++ [⟨args, .error reason⟩] }
  | ⟨.inl (.poll process), .ok (some c)⟩ => j.ends process (.ok c)
  | ⟨.inl (.poll process), .error reason⟩ => j.ends process (.error reason)
  | ⟨.inl (.kill _), _⟩ => { j with running := none }
  | _ => j

/-- Any request may be made. -/
def monitor : Monitor Client.onSystem Journal where
  step := record
  allows _ _ := True

end Journal

/-- The runs of the client in a trace, in the order in which they ended. -/
def runs (t : List (Prog.Event Client.onSystem)) : List ClientRun :=
  (Journal.monitor.after {} t).runs

/-! ## Requests to the system -/

namespace Config

variable {config : Config} {ctx : Context} {args : List String}

/-- Requests that run no client. -/
def AtSystem (r : Client.onSystem.Request) : Prop := r.isRight

theorem status_finishes (ctx : Context) :
    Prog.Finishes AtSystem (ctx.status : Call (Option Context.Cause)) := by
  refine Prog.Finishes.bind ⟨rfl, fun _ => trivial⟩ fun flagSet => ?_
  cases flagSet with
  | true => trivial
  | false =>
    cases ctx.deadline with
    | none => trivial
    | some deadline => exact Prog.Finishes.bind ⟨rfl, fun _ => trivial⟩ fun _ => trivial

theorem check_finishes (ctx : Context) :
    Prog.Finishes AtSystem (ctx.check : CallAttempt Unit).run := by
  refine Prog.Finishes.bind (Prog.Finishes.bind (status_finishes ctx) fun _ => trivial) ?_
  rintro (_ | _ | _) <;> trivial

theorem check_atSystem (ctx : Context) : Task.Only AtSystem (ctx.check : CallAttempt Unit) :=
  (check_finishes ctx).only

/-! ## Harmless requests -/

/-- The request runs no client that creates or removes a container. -/
def Harmless : Client.onSystem.Request → Prop
  | .inl (.execute args) | .inl (.spawn args) => ClientRun.Harmless args
  | _ => True

/-- No client that creates or removes a container is running. -/
def Quiet (j : Journal) : Prop :=
  ∀ process args, j.running = some (process, args) → ClientRun.Harmless args

/-- `j'` is `j` with harmless runs added, and no other is going on. -/
structure Spares (j j' : Journal) : Prop where
  quiet : Quiet j'
  runs : ∃ more : List ClientRun, j'.runs = j.runs ++ more ∧
    ∀ run ∈ more, ClientRun.Harmless run.args

theorem Spares.refl {j : Journal} (quiet : Quiet j) : Spares j j :=
  ⟨quiet, [], by simp, by simp⟩

theorem Spares.trans {j j' j'' : Journal} (h : Spares j j') (h' : Spares j' j'') :
    Spares j j'' := by
  obtain ⟨first, hfirst, harmless⟩ := h.runs
  obtain ⟨more, hmore, harmless'⟩ := h'.runs
  refine ⟨h'.quiet, first ++ more, ?_, List.forall_mem_append.2 ⟨harmless, harmless'⟩⟩
  rw [hmore, hfirst, List.append_assoc]

theorem ends_spares {j : Journal} (quiet : Quiet j) (process : ProcessId)
    (outcome : Except String Completion) : Spares j (j.ends process outcome) := by
  unfold Journal.ends
  split
  · next current args running =>
    split
    · exact ⟨nofun, [⟨args, outcome⟩], rfl,
        List.forall_mem_singleton.2 (quiet current args running)⟩
    · exact .refl quiet
  · exact .refl quiet

theorem record_spares {j : Journal} {e : Prog.Event Client.onSystem} (h : Harmless e.request)
    (quiet : Quiet j) : Spares j (j.record e) := by
  obtain ⟨r | r, b⟩ := e
  · cases r with
    | execute args => exact ⟨quiet, [⟨args, b⟩], rfl, List.forall_mem_singleton.2 h⟩
    | spawn args =>
      cases b with
      | error reason => exact ⟨quiet, [⟨args, _⟩], rfl, List.forall_mem_singleton.2 h⟩
      | ok process => exact ⟨by rintro _ _ ⟨⟩; exact h, [], by simp [Journal.record], by simp⟩
    | poll process =>
      rcases b with reason | _ | c
      · exact ends_spares quiet process _
      · exact .refl quiet
      · exact ends_spares quiet process _
    | kill process => exact ⟨nofun, [], by simp [Journal.record], by simp⟩
    | follow args => exact .refl quiet
    | resolve host port => exact .refl quiet
    | dial endpoint timeout => exact .refl quiet
  · exact .refl quiet

/-- A program whose requests are harmless adds only runs that are. -/
theorem harmless_wp {α : Type} {p : Call α} (h : p.Only Harmless) {j : Journal} (quiet : Quiet j) :
    p.wp Journal.monitor (fun _ j' => Spares j j') j := by
  induction p generalizing j with
  | done => exact .refl quiet
  | ask r next ih =>
    refine ⟨trivial, fun b => ?_⟩
    have first : Spares j (j.record ⟨r, b⟩) := record_spares h.1 quiet
    refine Prog.wp_mono ?_ (ih b (h.2 b) first.quiet)
    intro _ _ rest
    exact first.trans rest
  | diverge => trivial

theorem output_harmless (h : ClientRun.Harmless args) :
    Task.Only Harmless (config.output args) := by
  refine Task.Only.bind (Prog.Only.bind ⟨h, fun _ => trivial⟩ fun _ => trivial) fun c => ?_
  unfold Completion.result
  split <;> trivial

theorem atSystem_harmless {r : Client.onSystem.Request} (h : AtSystem r) : Harmless r := by
  obtain r | r := r
  · cases h
  · trivial

theorem await_harmless {process : ProcessId} (rounds : Nat) :
    Task.Only Harmless (config.await ctx args process rounds) := by
  induction rounds with
  | zero => trivial
  | succ rounds ih =>
    refine Task.Only.bind (Prog.Only.bind ⟨trivial, fun _ => trivial⟩ fun _ => trivial) fun c => ?_
    cases c with
    | some c => trivial
    | none =>
      refine Task.Only.bind (Prog.Only.bind
        ((check_atSystem ctx).mono fun _ => atSystem_harmless) fun checked => ?_) fun _ => ?_
      · cases checked with
        | ok _ => trivial
        | error _ => exact Prog.Only.bind ⟨trivial, fun _ => trivial⟩ fun _ => trivial
      · exact Task.Only.bind (Task.Only.lift ⟨trivial, fun _ => trivial⟩) fun _ => ih

theorem bounded_harmless (h : ClientRun.Harmless args) :
    Task.Only Harmless (config.bounded ctx args) := by
  refine Task.Only.bind ((check_atSystem ctx).mono fun _ => atSystem_harmless) fun _ => ?_
  refine Task.Only.bind (Prog.Only.bind ⟨h, fun _ => trivial⟩ fun _ => trivial) fun process => ?_
  exact await_harmless config.rounds

theorem boundedOutput_harmless (h : ClientRun.Harmless args) :
    Task.Only Harmless (config.boundedOutput ctx args) := by
  refine Task.Only.bind (bounded_harmless h) fun c => ?_
  unfold Completion.result
  split <;> trivial

theorem lookup_harmless (h : ClientRun.Harmless args) :
    Task.Only Harmless (config.lookup args) := by
  refine Task.Only.bind (output_harmless h).outcome fun found => ?_
  cases found with
  | ok text => trivial
  | error e =>
    dsimp only
    split <;> trivial

theorem dialFirst_harmless {timeout : Duration} {reason : String} (endpoints : List Endpoint) :
    Prog.Only Harmless (dialFirst timeout reason endpoints) := by
  induction endpoints generalizing reason with
  | nil => trivial
  | cons endpoint endpoints ih =>
    refine Prog.Only.bind ⟨trivial, fun _ => trivial⟩ fun reply => ?_
    cases reply with
    | ok _ => trivial
    | error _ => exact ih

theorem ping_harmless {host : String} {port : Port} {timeout : Duration} :
    Task.Only Harmless (ping host port timeout) := by
  refine Task.Only.bind (Prog.Only.bind ⟨trivial, fun _ => trivial⟩ fun _ => trivial)
    fun endpoints => ?_
  exact Prog.Only.bind (dialFirst_harmless endpoints) fun _ => trivial

theorem exec_harmless {name : String} {cmd : List String} :
    Task.Only Harmless (config.exec ctx name cmd) := by
  refine Task.Only.bind (bounded_harmless ClientRun.harmless) fun c => ?_
  unfold Completion.execResult
  split <;> trivial

/-- No other request than those creates or removes a container. -/
theorem serve_harmless {r : Engine.Request} (run : ∀ ctx spec, r ≠ .run ctx spec)
    (remove : ∀ name, r ≠ .remove name) : Prog.Only Harmless (config.serve r) := by
  cases r with
  | run ctx spec => exact absurd rfl (run ctx spec)
  | remove name => exact absurd rfl (remove name)
  | available =>
    refine Prog.Only.bind ⟨ClientRun.harmless, fun _ => trivial⟩ fun reply => ?_
    cases reply <;> trivial
  | inspect name => exact output_harmless ClientRun.harmless
  | isRunning name =>
    exact Task.Only.bind (lookup_harmless ClientRun.harmless) fun _ => trivial
  | mappedPort name containerPort =>
    refine Task.Only.bind (output_harmless ClientRun.harmless) fun text => ?_
    cases mappedPort? text <;> trivial
  | host => trivial
  | isPortReady name host hostPort containerPort =>
    refine Prog.Only.bind ping_harmless fun reply => ?_
    cases reply with
    | error _ => trivial
    | ok _ =>
      refine Prog.Only.bind (Prog.Only.bind ⟨trivial, fun _ => trivial⟩ fun _ => trivial)
        fun ctx => ?_
      refine Prog.Only.bind ⟨trivial, fun _ => trivial⟩ fun _ => ?_
      refine Prog.Only.bind exec_harmless fun probed => ?_
      cases probed <;> trivial
  | exec ctx name cmd => exact exec_harmless
  | createNetwork ctx spec =>
    exact Task.Only.bind (boundedOutput_harmless ClientRun.harmless) fun _ => trivial
  | networkExists name =>
    exact Task.Only.bind (lookup_harmless ClientRun.harmless) fun _ => trivial
  | removeNetwork name | pruneNetworks =>
    exact Task.Only.bind (output_harmless ClientRun.harmless) fun _ => trivial
  | attachLogs name => exact Prog.Only.bind ⟨trivial, fun _ => trivial⟩ fun _ => trivial
  | ping host port timeout => exact ping_harmless

end Config

end Docker

end Testbed
