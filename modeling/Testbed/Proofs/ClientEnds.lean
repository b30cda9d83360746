import Testbed.Proofs.ClientRuns

/-!
# How a client ends

A client that is run is on record with how it ended, unless it was killed. What has become of it
decides what is returned: its output if it has exited with 0, and else an error that says why not.
Only a client that never ends keeps its caller waiting.
-/

namespace Testbed

namespace Docker

variable {config : Config} {ctx : Context} {args : List String} {process : ProcessId}
  {t u : List (Prog.Event Client.onSystem)} {a b c : Option (ProcessId × List String)}
  {started started' : List (List String)} {ended ended' : List ClientRun}

/-! ## Parts of a trace -/

/-- The clients that are started, in order. Of those that are killed nothing else is known. -/
def clients (t : List (Prog.Event Client.onSystem)) : List (List String) :=
  t.filterMap fun
    | ⟨.inl (.execute args), _⟩ | ⟨.inl (.spawn args), _⟩ => some args
    | _ => none

/-- A part of a trace that begins while the client `a` is running and ends while `b` is. It starts
the clients `started`, and puts the runs `ended` on record. -/
structure Adds (t : List (Prog.Event Client.onSystem)) (a b : Option (ProcessId × List String))
    (started : List (List String)) (ended : List ClientRun) : Prop where
  starts : clients t = started
  records : ∀ done, Journal.monitor.after ⟨a, done⟩ t = ⟨b, done ++ ended⟩

namespace Adds

theorem append (h : Adds t a b started ended) (h' : Adds u b c started' ended') :
    Adds (t ++ u) a c (started ++ started') (ended ++ ended') where
  starts := by
    rw [← h.starts, ← h'.starts]
    exact List.filterMap_append
  records done := by rw [Monitor.after_append, h.records, h'.records, List.append_assoc]

theorem runs_eq (h : Adds t none b started ended) : runs t = ended := by
  have journal := h.records []
  rw [List.nil_append] at journal
  exact congrArg Journal.runs journal

theorem nil (a : Option (ProcessId × List String)) : Adds [] a a [] [] :=
  ⟨rfl, fun done => by rw [List.append_nil]; rfl⟩

/-- Requests to the system start no client. -/
theorem atSystem (a : Option (ProcessId × List String)) (h : ∀ e ∈ t, Config.AtSystem e.request) :
    Adds t a a [] [] := by
  induction t with
  | nil => exact nil a
  | cons e t ih =>
    obtain ⟨r | r, reply⟩ := e
    · cases h _ List.mem_cons_self
    · have rest := ih fun e hmem => h e (List.mem_cons_of_mem _ hmem)
      exact ⟨rest.starts, rest.records⟩

theorem execute (args : List String) (outcome : Except String Completion) :
    Adds [⟨.inl (.execute args), outcome⟩] a a [args] [⟨args, outcome⟩] :=
  ⟨rfl, fun _ => rfl⟩

theorem spawn (args : List String) (process : ProcessId) :
    Adds [⟨.inl (.spawn args), .ok process⟩] none (some (process, args)) [args] [] :=
  ⟨rfl, fun done => by rw [List.append_nil]; rfl⟩

theorem spawn_error (args : List String) (reason : String) :
    Adds [⟨.inl (.spawn args), .error reason⟩] a a [args] [⟨args, .error reason⟩] :=
  ⟨rfl, fun _ => rfl⟩

theorem kill (process : ProcessId) :
    Adds [⟨.inl (.kill process), ()⟩] (some (process, args)) none [] [] :=
  ⟨rfl, fun done => by rw [List.append_nil]; rfl⟩

theorem sleep (a : Option (ProcessId × List String)) (duration : Duration) :
    Adds [⟨.inr (.sleep duration), ()⟩] a a [] [] :=
  .atSystem a (List.forall_mem_singleton.2 rfl)

/-- A client has been looked at. -/
theorem poll (process : ProcessId) (args : List String)
    (found : Except String (Option Completion)) :
    Adds [⟨.inl (.poll process), found⟩] (some (process, args))
      (match found with
        | .ok none => some (process, args)
        | _ => none) []
      (match found with
        | .ok none => []
        | .ok (some c) => [⟨args, .ok c⟩]
        | .error reason => [⟨args, .error reason⟩]) := by
  refine ⟨rfl, fun done => ?_⟩
  rcases found with reason | _ | c
  · exact Journal.ends_running process args done _
  · rw [List.append_nil]
    rfl
  · exact Journal.ends_running process args done _

end Adds

/-- What has been found, each time that the client `process` was looked at. -/
def looks (process : ProcessId) (t : List (Prog.Event Client.onSystem)) :
    List (Except String (Option Completion)) :=
  t.filterMap fun
    | ⟨.inl (.poll current), found⟩ => if current = process then some found else none
    | _ => none

/-! ## Clients that are waited for -/

namespace Config

theorem check_yields {r : Except Error Unit} (a : Option (ProcessId × List String))
    (h : Prog.Yields (ctx.check : CallAttempt Unit).run t r) :
    Adds t a a [] [] ∧ (r = .ok () ∨ ∃ cause : Context.Cause, r = .error cause.error) := by
  refine ⟨.atSystem a ((check_atSystem ctx).reaches h.reaches), ?_⟩
  obtain ⟨_, _, status, -, looks, rest⟩ := Prog.yields_bind.1 h
  rcases status with e | _ | cause
  · exact absurd looks Task.not_yields_lift_error
  · cases rest
    exact .inl rfl
  · cases rest
    exact .inr ⟨cause, rfl⟩

/-- What has become of a client that was to be run under a context: whether it was started, what is
on record, and what is returned. -/
inductive Ends (config : Config) (args : List String) :
    List (List String) → List ClientRun → Except Error Completion → Prop
  /-- The context was done before. -/
  | early (cause : Context.Cause) : Ends config args [] [] (.error cause.error)
  /-- The client could not be started or waited for. -/
  | lost (reason : String) :
    Ends config args [args] [⟨args, .error reason⟩] (.error (config.notRun args reason))
  /-- The client was killed when the context was done. -/
  | killed (cause : Context.Cause) : Ends config args [args] [] (.error cause.error)
  | ended (c : Completion) : Ends config args [args] [⟨args, .ok c⟩] (.ok c)

theorem await_yields {r : Except Error Completion} (rounds : Nat)
    (h : Prog.Yields (config.await ctx args process rounds).run t r) :
    ∃ ended, config.Ends args [args] ended r ∧ Adds t (some (process, args)) none [] ended := by
  induction rounds generalizing t with
  | zero => cases h
  | succ rounds ih =>
    obtain ⟨_, _, _, rfl, polls, found⟩ := Prog.yields_bind.1 h
    cases polls with
    | ask reply returns =>
      cases returns
      have looked := Adds.poll process args reply
      rcases reply with reason | _ | c
      · cases found
        exact ⟨_, .lost reason, looked⟩
      · obtain ⟨_, _, checked, rfl, checks, goesOn⟩ := Prog.yields_bind.1 found
        cases checked with
        | ok =>
          have checks := Task.yields_onFailure checks
          obtain ⟨untouched, -⟩ := check_yields (some (process, args)) checks
          obtain ⟨_, _, slept, rfl, sleeps, again⟩ := Prog.yields_bind.1 goesOn
          cases sleeps with
          | ask _ returns =>
            cases returns
            obtain ⟨ended, ends, later⟩ := ih again
            have slept := (Adds.sleep (some (process, args)) pollInterval).append later
            exact ⟨ended, ends, looked.append (untouched.append slept)⟩
        | error e =>
          -- Whoever gives up waiting kills the client.
          obtain ⟨_, _, rfl, stops, kills⟩ := Task.yields_onFailure_error checks
          obtain ⟨untouched, stopped⟩ := check_yields (some (process, args)) stops
          obtain ⟨cause, ⟨⟩⟩ := stopped.resolve_left nofun
          cases goesOn
          cases kills with
          | ask _ returns =>
            cases returns
            rw [List.append_nil]
            exact ⟨_, .killed cause, looked.append (untouched.append (.kill process))⟩
      · cases found
        exact ⟨_, .ended c, looked⟩

theorem bounded_yields {r : Except Error Completion}
    (h : Prog.Yields (config.bounded ctx args).run t r) :
    ∃ started ended, config.Ends args started ended r ∧ Adds t none none started ended := by
  obtain ⟨_, _, checked, rfl, checks, goesOn⟩ := Prog.yields_bind.1 h
  obtain ⟨untouched, stopped⟩ := check_yields none checks
  cases checked with
  | error e =>
    obtain ⟨cause, ⟨⟩⟩ := stopped.resolve_left nofun
    cases goesOn
    rw [List.append_nil]
    exact ⟨_, _, .early cause, untouched⟩
  | ok =>
    obtain ⟨_, _, _, rfl, spawns, awaits⟩ := Prog.yields_bind.1 goesOn
    cases spawns with
    | ask reply returns =>
      cases returns
      cases reply with
      | error reason =>
        cases awaits
        exact ⟨_, _, .lost reason, untouched.append (.spawn_error args reason)⟩
      | ok process =>
        obtain ⟨ended, ends, waited⟩ := await_yields config.rounds awaits
        exact ⟨_, ended, ends, untouched.append ((Adds.spawn args process).append waited)⟩

/-! ## What a client has written -/

/-- What has become of a client whose standard output is asked for. -/
inductive Prints (config : Config) (args : List String) :
    List (List String) → List ClientRun → Except Error String → Prop
  | text {c : Completion} (success : c.status.success) :
    Prints config args [args] [⟨args, .ok c⟩] (.ok c.outputText)
  | failed {c : Completion} (failure : c.status.success = false) :
    Prints config args [args] [⟨args, .ok c⟩]
      (.error (.commandFailed (config.describe args) c.failureReason (saysNotFound c.errorText)))
  | unended {started : List (List String)} {ended : List ClientRun} {e : Error}
      (h : config.Ends args started ended (.error e)) : Prints config args started ended (.error e)

theorem result_prints (c : Completion) :
    config.Prints args [args] [⟨args, .ok c⟩] (c.result (config.describe args)) := by
  unfold Completion.result
  split
  · next success => exact .text success
  · next failure => exact .failed (Bool.eq_false_iff.2 failure)

/-- A result that is there already is returned as it is. -/
theorem result_yields {α : Type} {result r : Except Error α}
    (h : Prog.Yields (liftM result : CallAttempt α).run t r) : t = [] ∧ r = result := by
  cases result <;>
  · cases h
    exact ⟨rfl, rfl⟩

theorem output_yields {r : Except Error String} (a : Option (ProcessId × List String))
    (h : Prog.Yields (config.output args).run t r) :
    ∃ outcome, config.Prints args [args] [⟨args, outcome⟩] r ∧
      Adds t a a [args] [⟨args, outcome⟩] := by
  obtain ⟨_, _, _, rfl, executes, prints⟩ := Prog.yields_bind.1 h
  cases executes with
  | ask outcome returns =>
    cases returns
    have executed := Adds.execute (a := a) args outcome
    cases outcome with
    | error reason =>
      cases prints
      exact ⟨_, .unended (.lost reason), executed⟩
    | ok c =>
      obtain ⟨rfl, rfl⟩ := result_yields prints
      exact ⟨_, result_prints c, executed⟩

theorem boundedOutput_yields {r : Except Error String}
    (h : Prog.Yields (config.boundedOutput ctx args).run t r) :
    ∃ started ended, config.Prints args started ended r ∧ Adds t none none started ended := by
  obtain ⟨_, _, result, rfl, bounded, prints⟩ := Prog.yields_bind.1 h
  obtain ⟨started, ended, ends, adds⟩ := bounded_yields bounded
  cases result with
  | error e =>
    cases prints
    rw [List.append_nil]
    exact ⟨_, _, .unended ends, adds⟩
  | ok c =>
    cases ends
    obtain ⟨rfl, rfl⟩ := result_yields prints
    rw [List.append_nil]
    exact ⟨_, _, result_prints c, adds⟩

/-! ## Clients that do not end -/

/-- A client was started and is still running, and has been looked at as often as there are
rounds. -/
structure Hangs (config : Config) (args : List String) (process : ProcessId)
    (t : List (Prog.Event Client.onSystem)) : Prop where
  runs : Adds t none (some (process, args)) [args] []
  looks : looks process t = List.replicate config.rounds (.ok none)

theorem looks_append (t u : List (Prog.Event Client.onSystem)) :
    Docker.looks process (t ++ u) = Docker.looks process t ++ Docker.looks process u :=
  List.filterMap_append

theorem looks_atSystem (h : ∀ e ∈ t, AtSystem e.request) : Docker.looks process t = [] := by
  refine List.filterMap_eq_nil_iff.2 ?_
  rintro ⟨r | r, reply⟩ hmem
  · cases h _ hmem
  · rfl

theorem finishes_checkOrKill (ctx : Context) (process : ProcessId) :
    Prog.Finishes (fun _ => True)
      ((ctx.check : CallAttempt Unit).onFailure fun _ => Client.kill process).run := by
  refine Prog.Finishes.bind ((check_finishes ctx).mono fun _ _ => trivial) fun checked => ?_
  cases checked with
  | ok => trivial
  | error e => exact ⟨trivial, fun _ => trivial⟩

theorem await_diverges (rounds : Nat)
    (h : Prog.Diverges (config.await ctx args process rounds).run t) :
    Adds t (some (process, args)) (some (process, args)) [] [] ∧
      Docker.looks process t = List.replicate rounds (.ok none) := by
  induction rounds generalizing t with
  | zero =>
    cases h
    exact ⟨.nil _, rfl⟩
  | succ rounds ih =>
    obtain ⟨_, _, _, rfl, polls, found⟩ := Prog.Diverges.after (P := fun _ => True) h
      (Prog.Finishes.bind ⟨trivial, fun _ => trivial⟩ fun _ => trivial)
    cases polls with
    | ask reply returns =>
      cases returns
      rcases reply with reason | _ | c
      · cases found
      · obtain ⟨_, _, checked, rfl, checks, goesOn⟩ :=
          Prog.Diverges.after found (finishes_checkOrKill ctx process)
        cases checked with
        | error e => cases goesOn
        | ok =>
          have checks := Task.yields_onFailure checks
          obtain ⟨untouched, -⟩ := check_yields (some (process, args)) checks
          obtain ⟨_, _, _, rfl, sleeps, again⟩ := Prog.Diverges.after (P := fun _ => True) goesOn
            ⟨trivial, fun _ => trivial⟩
          cases sleeps with
          | ask _ returns =>
            cases returns
            obtain ⟨later, found⟩ := ih again
            have looked := Adds.poll process args (.ok none)
            have slept := (Adds.sleep (some (process, args)) pollInterval).append later
            refine ⟨looked.append (untouched.append slept), ?_⟩
            rw [looks_append, looks_append, looks_append, found,
              looks_atSystem ((check_atSystem ctx).reaches checks.reaches)]
            simp [Docker.looks, List.replicate_succ]
      · cases found

/-- Only a client that hangs keeps who runs it under a context from going on. -/
theorem bounded_diverges (h : Prog.Diverges (config.bounded ctx args).run t) :
    ∃ process, config.Hangs args process t := by
  obtain ⟨_, _, checked, rfl, checks, goesOn⟩ := Prog.Diverges.after h (check_finishes ctx)
  obtain ⟨untouched, -⟩ := check_yields none checks
  cases checked with
  | error e => cases goesOn
  | ok =>
    obtain ⟨_, _, _, rfl, spawns, awaits⟩ := Prog.Diverges.after (P := fun _ => True) goesOn
      (Prog.Finishes.bind ⟨trivial, fun _ => trivial⟩ fun _ => trivial)
    cases spawns with
    | ask reply returns =>
      cases returns
      cases reply with
      | error reason => cases awaits
      | ok process =>
        obtain ⟨waited, found⟩ := await_diverges config.rounds awaits
        refine ⟨process, untouched.append ((Adds.spawn args process).append waited), ?_⟩
        rw [looks_append, looks_append, found,
          looks_atSystem ((check_atSystem ctx).reaches checks.reaches)]
        rfl

theorem result_finishes {α : Type} (result : Except Error α) :
    Prog.Finishes AtSystem (liftM result : CallAttempt α).run := by
  cases result <;> trivial

theorem output_finishes (config : Config) (args : List String) :
    Prog.Finishes (fun _ => True) (config.output args).run := by
  refine Prog.Finishes.bind (Prog.Finishes.bind ⟨trivial, fun _ => trivial⟩ fun _ => trivial) ?_
  rintro (e | c)
  · trivial
  · exact (result_finishes _).mono fun _ _ => trivial

theorem boundedOutput_diverges (h : Prog.Diverges (config.boundedOutput ctx args).run t) :
    ∃ process, config.Hangs args process t := by
  rcases Task.diverges_bind h with early | ⟨_, _, c, -, -, prints⟩
  · exact bounded_diverges early
  · exact absurd prints (result_finishes _).not_diverges

end Config

end Docker

end Testbed
