import Testbed.Proofs.ClientEnds
import Testbed.Proofs.Launching

/-!
# Containers join all of their networks or none

A container is created in the first of its networks and then joined to the others, with one client
for each. Either all of these clients exit with 0 and no other is run. Or no container is created.
Or the container cannot be joined to one of the networks; then it is removed by one more client, and
the error is the one of the join, whatever becomes of the removal.
-/

namespace Testbed

namespace Docker

namespace Arguments

/-- Joins a container to some networks, one after the other. -/
def joins (name : String) (networks : List String) : List (List String) :=
  networks.map (connect · name)

/-- Creates a container and joins it to its further networks. -/
def creation (spec : ContainerSpec) : List (List String) :=
  run spec :: joins spec.name spec.networks.tail

theorem remove_notMem_creation (spec : ContainerSpec) (name : String) :
    remove name ∉ creation spec := by
  intro hmem
  rcases List.mem_cons.1 hmem with created | joined
  · simp [remove, run] at created
  · obtain ⟨network, -, joined⟩ := List.mem_map.1 joined
    simp [remove, connect] at joined

end Arguments

open Arguments (joins creation)

/-- The runs are those of some clients, and all of them have exited with 0. -/
structure AllSucceed (clients : List (List String)) (ended : List ClientRun) : Prop where
  args : ended.map (·.args) = clients
  succeeded : ∀ run ∈ ended, run.succeeded

namespace AllSucceed

variable {args : List String} {clients clients' : List (List String)}
  {ended ended' : List ClientRun} {run : ClientRun}

theorem mem (h : AllSucceed clients ended) (hmem : run ∈ ended) : run.args ∈ clients :=
  h.args ▸ List.mem_map_of_mem hmem

theorem append (h : AllSucceed clients ended) (h' : AllSucceed clients' ended') :
    AllSucceed (clients ++ clients') (ended ++ ended') where
  args := by rw [List.map_append, h.args, h'.args]
  succeeded := List.forall_mem_append.2 ⟨h.succeeded, h'.succeeded⟩

theorem exists_cons (h : AllSucceed (args :: clients) ended) :
    ∃ run rest, ended = run :: rest ∧ run.args = args ∧ run.succeeded ∧
      AllSucceed clients rest := by
  cases ended with
  | nil => cases h.args
  | cons run rest =>
    obtain ⟨same, others⟩ := List.cons.inj h.args
    obtain ⟨success, successes⟩ := List.forall_mem_cons.1 h.succeeded
    exact ⟨run, rest, rfl, same, success, others, successes⟩

end AllSucceed

/-- The clients are run one after the other, and all of them exit with 0. -/
structure RunsThrough (t : List (Prog.Event Client.onSystem)) (clients : List (List String)) :
    Prop where
  adds : Adds t none none clients (runs t)
  all : AllSucceed clients (runs t)

namespace RunsThrough

variable {t u : List (Prog.Event Client.onSystem)} {clients clients' : List (List String)}

theorem nil : RunsThrough [] [] := ⟨.nil none, rfl, List.forall_mem_nil _⟩

theorem append (h : RunsThrough t clients) (h' : RunsThrough u clients') :
    RunsThrough (t ++ u) (clients ++ clients') := by
  have adds := h.adds.append h'.adds
  have runs := adds.runs_eq
  exact ⟨runs ▸ adds, runs ▸ h.all.append h'.all⟩

end RunsThrough

namespace Config

variable {config : Config} {ctx : Context} {spec : ContainerSpec} {name : String}
  {networks args : List String} {t : List (Prog.Event Client.onSystem)} {e : Error}

/-! ## Single clients -/

/-- A client whose output is there has exited with 0. -/
theorem Prints.succeeds {started : List (List String)} {ended : List ClientRun} {text : String}
    (h : config.Prints args started ended (.ok text)) :
    started = [args] ∧ AllSucceed [args] ended := by
  cases h with
  | text success => exact ⟨rfl, rfl, List.forall_mem_singleton.2 success⟩

/-- A client whose output is not there has not exited with 0, if it was run at all. -/
theorem Prints.refused {started : List (List String)} {ended : List ClientRun}
    (h : config.Prints args started ended (.error e)) :
    ended.length ≤ 1 ∧ ∀ run ∈ ended, run.args = args ∧ run.succeeded = false := by
  cases h with
  | failed failure => exact ⟨Nat.le_refl 1, List.forall_mem_singleton.2 ⟨rfl, failure⟩⟩
  | unended ends =>
    cases ends with
    | early cause | killed cause => exact ⟨Nat.zero_le 1, List.forall_mem_nil _⟩
    | lost reason => exact ⟨Nat.le_refl 1, List.forall_mem_singleton.2 ⟨rfl, rfl⟩⟩

theorem Prints.not_succeeds {started more : List (List String)} {ended : List ClientRun}
    (h : config.Prints args started ended (.error e)) : ¬ AllSucceed (args :: more) ended := by
  intro all
  obtain ⟨run, rest, rfl, -, success, -⟩ := all.exists_cons
  exact absurd success (by rw [(h.refused.2 run List.mem_cons_self).2]; decide)

theorem boundedOutput_succeeds
    (h : Prog.Yields (discard (config.boundedOutput ctx args)).run t (.ok ())) :
    RunsThrough t [args] := by
  obtain ⟨e | text, printed, ⟨⟩⟩ := Task.yields_discard h
  obtain ⟨started, ended, prints, adds⟩ := boundedOutput_yields printed
  obtain ⟨rfl, all⟩ := prints.succeeds
  have ran := adds.runs_eq
  exact ⟨ran.symm ▸ adds, ran.symm ▸ all⟩

theorem boundedOutput_fails
    (h : Prog.Yields (discard (config.boundedOutput ctx args)).run t (.error e)) :
    Prog.Yields (config.boundedOutput ctx args).run t (.error e) := by
  obtain ⟨e' | text, printed, ⟨⟩⟩ := Task.yields_discard h
  exact printed

/-- A container that could not be joined to its networks is removed by one client. -/
theorem undoRun_yields (h : Prog.Yields (config.undoRun name) t ()) :
    ∃ outcome, Adds t none none [Arguments.remove name] [⟨Arguments.remove name, outcome⟩] := by
  obtain ⟨_, _, r, rfl, removes, tells⟩ := Prog.yields_bind.1 h
  obtain ⟨_, removed, -⟩ := Task.yields_discard removes
  obtain ⟨outcome, -, adds⟩ := output_yields none removed
  refine ⟨outcome, adds.append (.atSystem none ?_)⟩
  cases r with
  | ok _ =>
    cases tells
    exact List.forall_mem_nil _
  | error _ =>
    cases tells with
    | ask _ returns =>
      cases returns
      exact List.forall_mem_singleton.2 rfl

theorem undoRun_finishes (config : Config) (name : String) :
    Prog.Finishes (fun _ => True) (config.undoRun name) := by
  refine Prog.Finishes.bind (Prog.Finishes.bind (output_finishes config _) ?_) ?_
  · rintro (_ | _) <;> trivial
  · rintro (_ | _)
    · exact ⟨trivial, fun _ => trivial⟩
    · trivial

/-! ## Joining networks -/

theorem connectAll_succeeds (networks : List String)
    (h : Prog.Yields (config.connectAll ctx name networks).run t (.ok ())) :
    RunsThrough t (joins name networks) := by
  induction networks generalizing t with
  | nil =>
    cases h
    exact .nil
  | cons network networks ih =>
    obtain ⟨_, _, _, rfl, first, rest⟩ := Task.yields_bind h
    exact (boundedOutput_succeeds (Task.yields_onFailure first)).append (ih rest)

/-- The clients `created` have exited with 0 in `s`. The container could not be joined to `network`
in `u`, and so it was removed in `v`. -/
structure LeavesOut (config : Config) (ctx : Context) (name network : String)
    (created : List (List String)) (e : Error) (s u v : List (Prog.Event Client.onSystem)) :
    Prop where
  created : RunsThrough s created
  fails : Prog.Yields (config.boundedOutput ctx (Arguments.connect network name)).run u (.error e)
  undone : Prog.Yields (config.undoRun name) v ()

theorem LeavesOut.accounts {network : String} {created : List (List String)}
    {s u v : List (Prog.Event Client.onSystem)}
    (h : config.LeavesOut ctx name network created e s u v) :
    AllSucceed created (runs s) ∧
      config.Prints (Arguments.connect network name) (clients u) (runs u) (.error e) ∧
      ∃ outcome, Adds (s ++ (u ++ v)) none none (created ++ (clients u ++ [Arguments.remove name]))
        (runs s ++ (runs u ++ [⟨Arguments.remove name, outcome⟩])) := by
  obtain ⟨started, ended, prints, adds⟩ := boundedOutput_yields h.fails
  obtain ⟨outcome, removes⟩ := undoRun_yields h.undone
  rw [adds.runs_eq, adds.starts]
  exact ⟨h.created.all, prints, outcome, h.created.adds.append (adds.append removes)⟩

/-- More clients may have exited with 0 before. -/
theorem LeavesOut.before {network : String} {created more : List (List String)}
    {s u v w : List (Prog.Event Client.onSystem)}
    (h : config.LeavesOut ctx name network created e s u v) (first : RunsThrough w more) :
    config.LeavesOut ctx name network (more ++ created) e (w ++ s) u v :=
  ⟨first.append h.created, h.fails, h.undone⟩

theorem connectAll_fails (networks : List String)
    (h : Prog.Yields (config.connectAll ctx name networks).run t (.error e)) :
    ∃ before network after s u v, networks = before ++ network :: after ∧ t = s ++ (u ++ v) ∧
      config.LeavesOut ctx name network (joins name before) e s u v := by
  induction networks generalizing t with
  | nil => cases h
  | cons network networks ih =>
    rcases Task.yields_bind_error h with fails | ⟨_, _, _, rfl, first, rest⟩
    · obtain ⟨u, v, rfl, fails, undone⟩ := Task.yields_onFailure_error fails
      exact ⟨[], network, networks, [], u, v, rfl, rfl, .nil, boundedOutput_fails fails, undone⟩
    · obtain ⟨before, missed, after, s, u, v, rfl, rfl, left⟩ := ih rest
      exact ⟨network :: before, missed, after, _, u, v, rfl, (List.append_assoc ..).symm,
        left.before (boundedOutput_succeeds (Task.yields_onFailure first))⟩

theorem connectAll_diverges (networks : List String)
    (h : Prog.Diverges (config.connectAll ctx name networks).run t) :
    ∃ before network after s u process, networks = before ++ network :: after ∧ t = s ++ u ∧
      RunsThrough s (joins name before) ∧
      config.Hangs (Arguments.connect network name) process u := by
  induction networks generalizing t with
  | nil => cases h
  | cons network networks ih =>
    rcases Task.diverges_bind h with early | ⟨_, _, _, rfl, first, rest⟩
    · have waits := Task.diverges_discard (Task.diverges_onFailure early fun _ =>
        undoRun_finishes config name)
      obtain ⟨process, hangs⟩ := boundedOutput_diverges waits
      exact ⟨[], network, networks, [], t, process, rfl, rfl, .nil, hangs⟩
    · obtain ⟨before, current, after, s, u, process, rfl, rfl, joined, hangs⟩ := ih rest
      exact ⟨network :: before, current, after, _, u, process, rfl, (List.append_assoc ..).symm,
        (boundedOutput_succeeds (Task.yields_onFailure first)).append joined, hangs⟩

/-! ## Creating a container -/

theorem run_succeeds (h : Prog.Yields (config.run ctx spec).run t (.ok ())) :
    RunsThrough t (creation spec) := by
  obtain ⟨_, _, _, rfl, created, joined⟩ := Task.yields_bind h
  exact (boundedOutput_succeeds created).append (connectAll_succeeds _ joined)

theorem run_fails (h : Prog.Yields (config.run ctx spec).run t (.error e)) :
    Prog.Yields (config.boundedOutput ctx (Arguments.run spec)).run t (.error e) ∨
      ∃ before network after s u v, spec.networks.tail = before ++ network :: after ∧
        t = s ++ (u ++ v) ∧
        config.LeavesOut ctx spec.name network (Arguments.run spec :: joins spec.name before) e
          s u v := by
  rcases Task.yields_bind_error h with refused | ⟨_, _, _, rfl, created, fails⟩
  · exact .inl (boundedOutput_fails refused)
  · obtain ⟨before, network, after, s, u, v, networks, rfl, left⟩ := connectAll_fails _ fails
    exact .inr ⟨before, network, after, _, u, v, networks, (List.append_assoc ..).symm,
      left.before (boundedOutput_succeeds created)⟩

theorem run_diverges (h : Prog.Diverges (config.run ctx spec).run t) :
    ∃ before args after s u process, creation spec = before ++ args :: after ∧ t = s ++ u ∧
      RunsThrough s before ∧ config.Hangs args process u := by
  rcases Task.diverges_bind h with early | ⟨_, _, _, rfl, created, waits⟩
  · obtain ⟨process, hangs⟩ := boundedOutput_diverges (Task.diverges_discard early)
    exact ⟨[], _, _, [], t, process, rfl, rfl, .nil, hangs⟩
  · obtain ⟨before, network, after, s, u, process, networks, rfl, joined, hangs⟩ :=
      connectAll_diverges _ waits
    refine ⟨_, _, joins spec.name after, _, u, process, ?_, (List.append_assoc ..).symm,
      (boundedOutput_succeeds created).append joined, hangs⟩
    simp [creation, joins, networks]

/-- A container is created by its own client and those that join it to its further networks, of
which each exits with 0 or is the last but for a removal. -/
theorem run_is_atomic (config : Config) (ctx : Context) (spec : ContainerSpec)
    (t : List (Prog.Event Client.onSystem)) :
    (∀ reply, Prog.Yields (config.serve (.run ctx spec)) t reply →
      (reply = .ok () ↔ AllSucceed (creation spec) (runs t)) ∧
      (reply = .ok () → clients t = creation spec) ∧
      ∀ e, reply = .error e →
        config.Prints (Arguments.run spec) (clients t) (runs t) (.error e) ∨
        ∃ before network after s u v, spec.networks.tail = before ++ network :: after ∧
          t = s ++ (u ++ v) ∧ AllSucceed (Arguments.run spec :: joins spec.name before) (runs s) ∧
          Prog.Yields (config.boundedOutput ctx (Arguments.connect network spec.name)).run u
            (.error e) ∧
          config.Prints (Arguments.connect network spec.name) (clients u) (runs u) (.error e) ∧
          clients t = Arguments.run spec :: joins spec.name before ++ clients u ++
            [Arguments.remove spec.name]) ∧
    (Prog.Diverges (config.serve (.run ctx spec)) t →
      ∃ before args after s u process, creation spec = before ++ args :: after ∧ t = s ++ u ∧
        clients s = before ∧ AllSucceed before (runs t) ∧ config.Hangs args process u) := by
  refine ⟨?_, ?_⟩
  · rintro (e | ⟨⟨⟩⟩) h
    · have failed (h : ¬ AllSucceed (creation spec) (runs t)) :
          (Except.error e : Except Error Unit) = .ok () ↔ AllSucceed (creation spec) (runs t) :=
        iff_of_false nofun h
      rcases run_fails h with refused | ⟨before, network, after, s, u, v, networks, rfl, left⟩
      · obtain ⟨started, ended, prints, adds⟩ := boundedOutput_yields refused
        rw [adds.runs_eq, adds.starts] at *
        refine ⟨failed prints.not_succeeds, nofun, ?_⟩
        rintro _ ⟨⟩
        exact .inl prints
      · obtain ⟨all, prints, outcome, adds⟩ := left.accounts
        have removed : ⟨Arguments.remove spec.name, outcome⟩ ∈ runs (s ++ (u ++ v)) := by
          rw [adds.runs_eq]
          exact List.mem_append_right _ (List.mem_append_right _ (List.mem_singleton_self _))
        refine ⟨failed fun all => ?_, nofun, ?_⟩
        · exact Arguments.remove_notMem_creation spec spec.name (all.mem removed)
        · rintro _ ⟨⟩
          refine .inr ⟨before, network, after, s, u, v, networks, rfl, all, left.fails, prints, ?_⟩
          rw [adds.starts, List.append_assoc]
    · have through := run_succeeds h
      exact ⟨iff_of_true rfl through.all, fun _ => through.adds.starts, nofun⟩
  · intro h
    obtain ⟨before, args, after, s, u, process, parts, rfl, through, hangs⟩ := run_diverges h
    have whole := through.adds.append hangs.runs
    rw [List.append_nil] at whole
    exact ⟨before, args, after, s, u, process, parts, rfl, through.adds.starts,
      whole.runs_eq ▸ through.all, hangs⟩

end Config

/-- A client that exits with the code that its arguments stand for, or does not end without one. -/
def exiting (code? : List String → Option UInt8) :
    (r : Client.onSystem.Request) → Client.onSystem.Reply r
  | .inl (.execute args) => .ok ⟨.exited ((code? args).getD 0), [], []⟩
  | .inl (.spawn args) => .ok ⟨((code? args).map (·.toNat + 1)).getD 0⟩
  | .inl (.poll ⟨0⟩) => .ok none
  | .inl (.poll ⟨code + 1⟩) => .ok (some ⟨.exited (.ofNat code), [], []⟩)
  | .inl (.kill _) => ()
  | .inl (.follow _) => .ok ⟨0⟩
  | .inl (.resolve _ _) => .ok []
  | .inl (.dial _ _) => .ok ()
  | .inr r => Engine.obliging (.inr r)

/-- A container on three networks. -/
def threeNetworks : ContainerSpec where
  name := "redis"
  image := "redis:latest"
  networks := ["a", "b", "c"]

/-- Creates the container with a client that is looked at three times. -/
def createThree : Call (Except Error Unit) :=
  ({ rounds := 3 } : Config).serve (.run ⟨⟨0⟩, none⟩ threeNetworks)

/-- The container joins its networks. Or it cannot join the second one and is removed, which fails
too. Or it waits for a client that does not end. -/
theorem three_networks_are_joined_or_none :
    (∃ t, Prog.Yields createThree t (.ok ()) ∧ clients t = creation threeNetworks ∧
      AllSucceed (creation threeNetworks) (runs t)) ∧
    (∃ t e, Prog.Yields createThree t (.error e) ∧
      e = .commandFailed "docker network connect b redis" "exited with exit status: 1" false ∧
      clients t = [Arguments.run threeNetworks, Arguments.connect "b" "redis",
        Arguments.remove "redis"] ∧ ¬ AllSucceed (creation threeNetworks) (runs t)) ∧
    (∃ t, Prog.Diverges createThree t ∧
      ∃ before args after s u process, creation threeNetworks = before ++ args :: after ∧
        t = s ++ u ∧ clients s = before ∧ AllSucceed before (runs t) ∧
        Config.Hangs { rounds := 3 } args process u) := by
  have atomic := Config.run_is_atomic { rounds := 3 } ⟨⟨0⟩, none⟩ threeNetworks
  refine ⟨?_, ?_, ?_⟩
  · have yields := Prog.yields_play (exiting fun _ => some 0) (p := createThree) (a := .ok ())
      (by decide +kernel)
    obtain ⟨all, started, -⟩ := (atomic _).1 _ yields
    exact ⟨_, yields, started rfl, all.1 rfl⟩
  · have yields := Prog.yields_play (p := createThree) (exiting fun args =>
      some (if args.head? = some "run" then 0 else 1)) (a := .error (.commandFailed
        "docker network connect b redis" "exited with exit status: 1" false)) (by decide +kernel)
    obtain ⟨all, -, -⟩ := (atomic _).1 _ yields
    exact ⟨_, _, yields, rfl, by decide +kernel, fun succeeded => nomatch all.2 succeeded⟩
  · have diverges := Prog.diverges_play (p := createThree) (exiting fun args =>
      if args.head? = some "run" then some 0 else none) (by decide +kernel)
    exact ⟨_, diverges, (atomic _).2 diverges⟩

end Docker

end Testbed
