import Testbed.Proofs.Atomicity
import Testbed.Proofs.Launching

/-!
# Undoing a launch

When a launch fails after its container was created, the container is removed. A launch that got as
far as waiting for the container tries as often as the retry policy says. But a container that could
not join all of its networks is removed in one try.
-/

namespace Testbed.Docker

variable {config : Config} {α β : Type}

namespace Config

/-! ## Attempts over a client -/

/-- An attempt over the client that serves its engine. -/
def served (config : Config) (task : Attempt α) : CallAttempt α :=
  .mk (config.overClient task.run)

theorem served_bind (task : Attempt α) (f : α → Attempt β) :
    config.served (task >>= f) = config.served task >>= fun a => config.served (f a) := by
  refine (Prog.interpret_bind task.run _).trans (congrArg (Prog.bind _) (funext fun r => ?_))
  cases r <;> rfl

theorem served_onFailure (task : Attempt α) (cleanup : Error → Action Unit) :
    config.served (task.onFailure cleanup) =
      (config.served task).onFailure fun e => config.overClient (cleanup e) := by
  refine (Prog.interpret_bind task.run _).trans (congrArg (Prog.bind _) (funext fun r => ?_))
  cases r with
  | ok a => rfl
  | error e => exact Prog.interpret_bind (cleanup e) _

/-- Nothing that is asked for while waiting creates or removes a container. -/
theorem still_harmless {r : Engine.onSystem.Request} (h : Engine.Still r) :
    (config.serveOnSystem r).Only Harmless := by
  obtain r | r := r
  · refine serve_harmless ?_ ?_
    · rintro ctx spec rfl
      exact h
    · rintro name rfl
      exact h
  · exact ⟨trivial, fun _ => trivial⟩

end Config

/-! ## Removing -/

/-- A container whose removal was tried until it was gone, or else `budget` times. -/
def SeenThrough (budget : Nat) (removals : List ClientRun) : Prop :=
  (∃ run ∈ removals, run.cleared) ∨
    (removals.length = budget ∧ ∀ run ∈ removals, run.cleared = false)

theorem SeenThrough.cleared {run : ClientRun} {budget : Nat} (h : run.cleared) :
    SeenThrough budget [run] :=
  .inl ⟨run, List.mem_singleton_self run, h⟩

theorem SeenThrough.again {run : ClientRun} {runs : List ClientRun} {tries : Nat}
    (failed : run.cleared = false) (h : SeenThrough tries runs) :
    SeenThrough (tries + 1) (run :: runs) := by
  rcases h with ⟨gone, hmem, cleared⟩ | ⟨all, none⟩
  · exact .inl ⟨gone, List.mem_cons_of_mem _ hmem, cleared⟩
  · exact .inr ⟨congrArg (· + 1) all, List.forall_mem_cons.2 ⟨failed, none⟩⟩

/-- A container is removed by one run of the client, whatever it runs already. -/
theorem Config.remove_wp {name : String} {j : Journal} :
    Task.wp Journal.monitor (config.remove name)
      (fun _ j' => ∃ run : ClientRun, run.args = Arguments.remove name ∧ run.cleared = true ∧
        j' = { j with runs := j.runs ++ [run] })
      (fun e j' => ∃ run : ClientRun, run.args = Arguments.remove name ∧
        run.cleared = e.isNotFound ∧ j' = { j with runs := j.runs ++ [run] }) j := by
  refine Prog.wp_of_yields (fun _ _ => trivial) fun t r h => ?_
  obtain ⟨_, removed, rfl⟩ := Task.yields_discard h
  obtain ⟨outcome, prints, adds⟩ := output_yields j.running removed
  have journal := adds.records j.runs
  cases prints with
  | text success => exact ⟨_, rfl, by simp [ClientRun.cleared, success], journal⟩
  | failed failure =>
    exact ⟨_, rfl, by simp [ClientRun.cleared, failure, Error.isNotFound], journal⟩
  | unended ends =>
    cases ends
    exact ⟨_, rfl, rfl, journal⟩

theorem removeWithin_wp {backoff : Duration} {name : String} (tries : Nat) {j : Journal} :
    (config.overClient (removeWithin backoff name tries)).wp Journal.monitor
      (fun _ j' => ∃ removals : List ClientRun,
        (∀ run ∈ removals, run.args = Arguments.remove name) ∧ SeenThrough tries removals ∧
        j' = { j with runs := j.runs ++ removals }) j := by
  induction tries generalizing j with
  | zero =>
    refine ⟨trivial, fun _ => ⟨[], by simp, .inr ⟨rfl, by simp⟩, ?_⟩⟩
    rw [List.append_nil]
    rfl
  | succ tries ih =>
    refine Prog.wp_seq Config.remove_wp ?_
    rintro (e | _) j' ⟨run, args, cleared, rfl⟩
    · change Prog.wp _ (Prog.interpret _ (if e.isNotFound then pure () else _)) _ _
      split
      · next gone =>
        exact ⟨[run], List.forall_mem_singleton.2 args, .cleared (cleared.trans gone), rfl⟩
      · next there =>
        -- Later tries find this one on record.
        have later : (config.overClient (removeWithin backoff name tries)).wp Journal.monitor
            (fun _ j' => ∃ removals : List ClientRun,
              (∀ run ∈ removals, run.args = Arguments.remove name) ∧
              SeenThrough (tries + 1) removals ∧ j' = { j with runs := j.runs ++ removals })
            { j with runs := j.runs ++ [run] } := by
          refine Prog.wp_mono ?_ ih
          rintro _ _ ⟨removals, all, through, rfl⟩
          refine ⟨run :: removals, List.forall_mem_cons.2 ⟨args, all⟩, through.again ?_, by simp⟩
          exact cleared.trans (Bool.eq_false_iff.2 there)
        refine ⟨trivial, fun _ => ?_⟩
        change Prog.wp _ (Prog.interpret _ (if 0 < tries then _ else _)) _ _
        split
        · exact ⟨trivial, fun _ => later⟩
        · exact later
    · exact ⟨[run], List.forall_mem_singleton.2 args, .cleared cleared, rfl⟩

/-! ## Creating a container -/

namespace Config

/-- The runs of a container that joined all of `networks`. -/
structure Joined (name : String) (networks : List String) (joins : List ClientRun) : Prop where
  args : joins.map (·.args) = networks.map (Arguments.connect · name)
  succeeded : ∀ run ∈ joins, run.succeeded

/-- The runs of a container that joined networks up to one of `networks`, and was removed then. -/
def LeftOut (name : String) (networks : List String) (runs : List ClientRun) : Prop :=
  ∃ (before : List String) (network : String) (after : List String)
    (joins refused : List ClientRun) (outcome : Except String Completion),
    networks = before ++ network :: after ∧ Joined name before joins ∧
    refused.length ≤ 1 ∧
    (∀ run ∈ refused, run.args = Arguments.connect network name ∧ run.succeeded = false) ∧
    runs = joins ++ (refused ++ [⟨Arguments.remove name, outcome⟩])

/-- A container is created by one run of the client, if at all, and joins its further networks
then. -/
theorem run_wp {ctx : Context} {spec : ContainerSpec} :
    Task.wp Journal.monitor (config.run ctx spec)
      (fun _ j => ∃ run joins, run.args = Arguments.run spec ∧
        Joined spec.name spec.networks.tail joins ∧ j = ⟨none, run :: joins⟩)
      (fun _ j => (∃ refused : List ClientRun, (∀ run ∈ refused, run.succeeded = false) ∧
          j = ⟨none, refused⟩) ∨
        ∃ run runs, run.args = Arguments.run spec ∧ LeftOut spec.name spec.networks.tail runs ∧
          j = ⟨none, run :: runs⟩) {} := by
  refine Prog.wp_of_yields (fun _ _ => trivial) ?_
  rintro t (e | ⟨⟨⟩⟩) h
  · rcases run_fails h with refused | ⟨before, network, after, s, u, v, networks, rfl, left⟩
    · obtain ⟨_, ended, prints, adds⟩ := boundedOutput_yields refused
      exact .inl ⟨ended, fun run hmem => (prints.refused.2 run hmem).2, adds.records []⟩
    · obtain ⟨all, prints, outcome, adds⟩ := left.accounts
      obtain ⟨run, joins, eq, args, -, joined⟩ := all.exists_cons
      obtain ⟨most, bad⟩ := prints.refused
      rw [eq] at adds
      exact .inr ⟨run, _, args, ⟨before, network, after, joins, _, outcome, networks,
        ⟨joined.args, joined.succeeded⟩, most, bad, rfl⟩, adds.records []⟩
  · obtain ⟨adds, all⟩ := run_succeeds h
    obtain ⟨run, joins, eq, args, -, joined⟩ := all.exists_cons
    rw [eq] at adds
    exact ⟨run, joins, args, ⟨joined.args, joined.succeeded⟩, adds.records []⟩

end Config

/-! ## Launching -/

/-- The runs of a launch that failed. -/
inductive Undone (spec : ContainerSpec) (budget : Nat) : List ClientRun → Prop
  /-- No container was created. -/
  | refused {runs : List ClientRun} (h : ∀ run ∈ runs, run.succeeded = false) :
    Undone spec budget runs
  /-- The container could not join one of its networks. -/
  | leftOut {run : ClientRun} {runs : List ClientRun} (args : run.args = Arguments.run spec)
      (h : Config.LeftOut spec.name spec.networks.tail runs) : Undone spec budget (run :: runs)
  /-- The container joined its networks, and did not get ready. -/
  | notReady {run : ClientRun} {joins looks removals : List ClientRun}
      (args : run.args = Arguments.run spec)
      (joined : Config.Joined spec.name spec.networks.tail joins)
      (harmless : ∀ run ∈ looks, ClientRun.Harmless run.args)
      (removes : ∀ run ∈ removals, run.args = Arguments.remove spec.name)
      (through : SeenThrough budget removals) :
    Undone spec budget (run :: (joins ++ (looks ++ removals)))

variable {pacing : Pacing} {ctx : Context} {request : LaunchRequest}

theorem served_run (spec : ContainerSpec) :
    config.served (Engine.run ctx spec) = config.run ctx spec :=
  Prog.bind_done (config.run ctx spec).run

theorem notify_wp {notice : Notice} {Q : Journal → Prop} {j : Journal} (h : Q j) :
    (config.overClient (notify notice)).wp Journal.monitor (fun _ => Q) j :=
  ⟨trivial, fun _ => h⟩

theorem launch_wp :
    Task.wp Journal.monitor (config.served (launch pacing ctx request)) (fun _ _ => True)
      (fun _ j => Undone request.spec pacing.retry.budget j.runs) {} := by
  unfold launch
  simp only [Config.served_bind, Config.served_onFailure, served_run, Task.wp_bind,
    Task.wp_onFailure]
  refine Task.wp_mono ?_ ?_ Config.run_wp
  · rintro _ _ ⟨run, joins, args, joined, rfl⟩
    have looks : Task.Only Config.Harmless
        (config.served (Launch.awaitReady pacing ctx request)) :=
      (Launch.awaitReady_still pacing ctx request).interpret fun _ => Config.still_harmless
    have quiet : Config.Quiet ⟨none, run :: joins⟩ := by
      intro _ _ running
      cases running
    refine Task.wp_onFailure.2 (Prog.wp_mono ?_ (Config.harmless_wp looks quiet))
    rintro (e | _) j ⟨-, looks, all, harmless⟩
    · rw [Config.overClient, Prog.interpret_bind]
      refine Prog.wp_seq (notify_wp (Q := (j = ·)) rfl) ?_
      rintro _ _ rfl
      refine Prog.wp_mono ?_ (removeWithin_wp pacing.retry.budget)
      rintro _ _ ⟨removals, removes, through, rfl⟩
      have runs : j.runs ++ removals = run :: (joins ++ (looks ++ removals)) := by
        rw [all]
        simp
      exact runs ▸ .notReady args joined harmless removes through
    · trivial
  · rintro e _ (⟨runs, refused, rfl⟩ | ⟨run, runs, args, leftOut, rfl⟩)
    · exact notify_wp (Q := fun j => Undone _ _ j.runs) (.refused refused)
    · exact notify_wp (Q := fun j => Undone _ _ j.runs) (.leftOut args leftOut)

/-! ## What comes after the container was created -/

/-- The runs that remove a container. -/
def removals (name : String) (runs : List ClientRun) : List ClientRun :=
  runs.filter fun run => run.args = Arguments.remove name

/-- The runs begin with the container joining all of its further networks. -/
def JoinsAll (spec : ContainerSpec) (runs : List ClientRun) : Prop :=
  ∃ joins rest, runs = joins ++ rest ∧ Config.Joined spec.name spec.networks.tail joins

theorem removals_eq_nil {name : String} {runs : List ClientRun}
    (h : ∀ run ∈ runs, ClientRun.Harmless run.args) : removals name runs = [] := by
  refine List.filter_eq_nil_iff.2 fun run hmem => ?_
  intro removes
  exact (h run hmem).2 (of_decide_eq_true removes ▸ rfl)

theorem removals_eq_self {name : String} {runs : List ClientRun}
    (h : ∀ run ∈ runs, run.args = Arguments.remove name) : removals name runs = runs :=
  List.filter_eq_self.2 fun run hmem => decide_eq_true (h run hmem)

theorem removals_append (name : String) (runs more : List ClientRun) :
    removals name (runs ++ more) = removals name runs ++ removals name more :=
  List.filter_append ..

theorem Config.Joined.harmless {name : String} {networks : List String} {joins : List ClientRun}
    (h : Joined name networks joins) : ∀ run ∈ joins, ClientRun.Harmless run.args := by
  intro run hmem
  have : run.args ∈ networks.map (Arguments.connect · name) := h.args ▸ List.mem_map_of_mem hmem
  obtain ⟨network, -, eq⟩ := List.mem_map.1 this
  exact eq ▸ ClientRun.harmless

section LeftOut

variable {spec : ContainerSpec} {runs : List ClientRun}
  (h : Config.LeftOut spec.name spec.networks.tail runs)

include h

theorem exists_removal_of_leftOut :
    ∃ stopped run, runs = stopped ++ [run] ∧ (∀ run ∈ stopped, ClientRun.Harmless run.args) ∧
      run.args = Arguments.remove spec.name := by
  obtain ⟨before, network, after, joins, refused, outcome, -, joined, -, bad, rfl⟩ := h
  refine ⟨joins ++ refused, _, (List.append_assoc ..).symm, ?_, rfl⟩
  refine List.forall_mem_append.2 ⟨joined.harmless, fun run hmem => ?_⟩
  exact (bad run hmem).1 ▸ ClientRun.harmless

theorem not_joinsAll_of_leftOut : ¬ JoinsAll spec runs := by
  obtain ⟨before, network, after, joins, refused, outcome, networks, joined, -, bad, rfl⟩ := h
  rintro ⟨joins', rest, parts, joined'⟩
  have length : joins.length = before.length := by simpa using congrArg List.length joined.args
  have length' : joins'.length = before.length + (after.length + 1) := by
    simpa [networks] using congrArg List.length joined'.args
  rcases List.append_eq_append_iff.1 parts with ⟨more, rfl, stops⟩ | ⟨more, rfl, -⟩
  · cases more with
    | nil =>
      rw [List.append_nil] at length'
      omega
    | cons run more =>
      -- The run that comes next was either refused or removed the container.
      have joinedRun : run ∈ joins ++ run :: more := List.mem_append_right _ List.mem_cons_self
      have stoppedRun : run ∈ refused ++ [⟨Arguments.remove spec.name, outcome⟩] :=
        stops ▸ List.mem_cons_self
      rcases List.mem_append.1 stoppedRun with hmem | hmem
      · exact absurd (joined'.succeeded run joinedRun) (by rw [(bad run hmem).2]; decide)
      · have removes : run.args = Arguments.remove spec.name :=
          congrArg ClientRun.args (List.mem_singleton.1 hmem)
        exact (joined'.harmless run joinedRun).2 (removes ▸ rfl)
  · rw [List.length_append] at length
    omega

end LeftOut

theorem seenThrough_singleton {run : ClientRun} {budget : Nat} :
    SeenThrough budget [run] ↔ budget = 1 ∨ run.cleared = true := by
  simp only [SeenThrough, List.mem_singleton, exists_eq_left, forall_eq, List.length_singleton]
  cases run.cleared <;> simp [eq_comm]

theorem head_ne_run {run : ClientRun} {name : String} (h : run.args = Arguments.remove name) :
    run.args.head? ≠ some "run" := by
  rw [h]
  exact fun eq => nomatch Option.some.inj eq

/-- The container was created by the first run. -/
theorem after_eq_of_created {spec : ContainerSpec} {first run : ClientRun}
    {rest before after : List ClientRun} (parts : first :: rest = before ++ run :: after)
    (args : run.args = Arguments.run spec) (once : ∀ run ∈ rest, run.args.head? ≠ some "run") :
    after = rest := by
  cases before with
  | nil => exact (List.cons.inj parts).2.symm
  | cons _ before =>
    have hmem : run ∈ rest := (List.cons.inj parts).2 ▸ by simp
    exact absurd (args ▸ rfl) (once run hmem)

/-- What comes after the run that created the container. -/
theorem Undone.after_run {spec : ContainerSpec} {budget : Nat} {all before after : List ClientRun}
    {run : ClientRun} (h : Undone spec budget all) (parts : all = before ++ run :: after)
    (args : run.args = Arguments.run spec) (success : run.succeeded) :
    Config.LeftOut spec.name spec.networks.tail after ∨
      JoinsAll spec after ∧ SeenThrough budget (removals spec.name after) := by
  cases h with
  | refused none =>
    have hmem : run ∈ all := parts ▸ by simp
    exact absurd success (by rw [none run hmem]; decide)
  | @leftOut _ runs _ leftOut =>
    obtain ⟨stopped, removal, eq, harmless, removes⟩ := exists_removal_of_leftOut leftOut
    refine .inl ((after_eq_of_created parts args ?_) ▸ leftOut)
    rw [eq]
    exact List.forall_mem_append.2 ⟨fun run hmem => (harmless run hmem).1,
      List.forall_mem_singleton.2 (head_ne_run removes)⟩
  | @notReady _ joins looks removes _ joined harmless removal through =>
    have rest : after = joins ++ (looks ++ removes) := by
      refine after_eq_of_created parts args ?_
      simp only [List.forall_mem_append]
      exact ⟨fun run hmem => (joined.harmless run hmem).1, fun run hmem => (harmless run hmem).1,
        fun run hmem => head_ne_run (removal run hmem)⟩
    refine .inr ⟨⟨joins, looks ++ removes, rest, joined⟩, ?_⟩
    rw [rest, removals_append, removals_append, removals_eq_nil joined.harmless,
      removals_eq_nil harmless, removals_eq_self removal]
    exact through

/-- When a launch fails after its container was created, the removal of the container is seen
through exactly if the container had joined all of its networks, or one try is all there is, or the
first try is enough. A container that could not join a network is removed in one try. -/
theorem failed_launch_sees_through_iff (config : Config) (pacing : Pacing) (ctx : Context)
    (request : LaunchRequest) (t : List (Prog.Event Client.onSystem)) (e : Error)
    (h : Prog.Yields (config.overClient (launch pacing ctx request).run) t (.error e))
    (before after : List ClientRun) (c : Completion)
    (parts : runs t = before ++ ⟨Arguments.run request.spec, .ok c⟩ :: after)
    (created : c.status.success) :
    (SeenThrough pacing.retry.budget (removals request.spec.name after) ↔
      JoinsAll request.spec after ∨ pacing.retry.budget = 1 ∨
        ∃ run ∈ removals request.spec.name after, run.cleared) ∧
    (¬ JoinsAll request.spec after → (removals request.spec.name after).length = 1) := by
  have undone : Undone request.spec pacing.retry.budget (runs t) :=
    Prog.wp_yields (@launch_wp config pacing ctx request) h
  rcases undone.after_run parts rfl created with leftOut | ⟨joined, through⟩
  · obtain ⟨stopped, removal, eq, harmless, removes⟩ := exists_removal_of_leftOut leftOut
    have once : removals request.spec.name after = [removal] := by
      rw [eq, removals_append, removals_eq_nil harmless,
        removals_eq_self (List.forall_mem_singleton.2 removes), List.nil_append]
    simp [once, seenThrough_singleton, not_joinsAll_of_leftOut leftOut]
  · exact ⟨iff_of_true through (.inl joined), fun missed => absurd joined missed⟩

/-- A client that can neither join a container to a further network nor remove one. -/
def stubborn : (r : Client.onSystem.Request) → Client.onSystem.Reply r
  | .inl (.execute args) => .ok ⟨.exited (if args.head? = some "rm" then 1 else 0), [], []⟩
  | .inl (.spawn args) => .ok ⟨if args.head? = some "network" then 1 else 0⟩
  | .inl (.poll process) => .ok (some ⟨.exited (.ofNat process.id), [], []⟩)
  | .inl (.kill _) => ()
  | .inl (.follow _) => .ok ⟨0⟩
  | .inl (.resolve _ _) => .ok []
  | .inl (.dial _ _) => .ok ()
  | .inr r => Engine.obliging (.inr r)

/-- A cache on some networks. -/
def cacheOn (networks : List String) : LaunchRequest :=
  .cache (ServiceDraft.named { family := .redis, networks := networks } "redis")

/-- The launch of the cache, with three tries to remove it. -/
def launchOn (networks : List String) : CallAttempt Service :=
  .mk (({} : Config).overClient (launch {} ⟨⟨0⟩, none⟩ (cacheOn networks)).run)

/-- The run that creates the cache. -/
def createdOn (networks : List String) : ClientRun :=
  ⟨Arguments.run (cacheOn networks).spec, .ok ⟨.exited 0, [], []⟩⟩

/-- A run that fails to remove the cache. -/
def failedRemoval : ClientRun := ⟨Arguments.remove "redis", .ok ⟨.exited 1, [], []⟩⟩

theorem launchOn_yields (networks : List String)
    (h : ((launchOn networks).run.play stubborn).2.map Except.toOption = some none) :
    ∃ e, Prog.Yields (launchOn networks).run ((launchOn networks).run.play stubborn).1
      (.error e) := by
  obtain ⟨e | _, ends, failed⟩ := Option.map_eq_some_iff.1 h
  · exact ⟨e, Prog.yields_play stubborn ends⟩
  · cases failed

/-- A container that does not get ready is removed as often as the policy says. -/
theorem unready_container_is_seen_through :
    ∃ t e after, Prog.Yields (launchOn ["a"]).run t (.error e) ∧
      runs t = createdOn ["a"] :: after ∧
      removals "redis" after = [failedRemoval, failedRemoval, failedRemoval] ∧
      (SeenThrough 3 (removals "redis" after) ↔ JoinsAll (cacheOn ["a"]).spec after ∨ 3 = 1 ∨
        ∃ run ∈ removals "redis" after, run.cleared) := by
  obtain ⟨e, yields⟩ := launchOn_yields ["a"] (by decide +kernel)
  have after : runs ((launchOn ["a"]).run.play stubborn).1 = createdOn ["a"] ::
      [⟨["port", "redis", "6379/tcp"], .ok ⟨.exited 0, [], []⟩⟩, failedRemoval, failedRemoval,
        failedRemoval] := by decide +kernel
  exact ⟨_, e, _, yields, after, by decide +kernel,
    (failed_launch_sees_through_iff {} {} _ (cacheOn ["a"]) _ e yields [] _ _ after rfl).1⟩

/-- A container that cannot join its second network is removed once, in vain. -/
theorem left_out_container_is_abandoned :
    ∃ t e after, Prog.Yields (launchOn ["a", "b"]).run t (.error e) ∧
      runs t = createdOn ["a", "b"] :: after ∧ removals "redis" after = [failedRemoval] ∧
      ¬ SeenThrough RetryPolicy.standard.budget (removals "redis" after) := by
  obtain ⟨e, yields⟩ := launchOn_yields ["a", "b"] (by decide +kernel)
  have after : runs ((launchOn ["a", "b"]).run.play stubborn).1 = createdOn ["a", "b"] ::
      [⟨Arguments.connect "b" "redis", .ok ⟨.exited 1, [], []⟩⟩, failedRemoval] := by
    decide +kernel
  have once : removals "redis" [⟨Arguments.connect "b" "redis", .ok ⟨.exited 1, [], []⟩⟩,
      failedRemoval] = [failedRemoval] := by decide +kernel
  refine ⟨_, e, _, yields, after, once, ?_⟩
  rw [once, seenThrough_singleton]
  decide

end Testbed.Docker
