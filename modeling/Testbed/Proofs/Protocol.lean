import Testbed.Proofs.Dialogue

/-!
# The protocol of a bootstrap

A replica set comes up in stages, each of which has a script. What a bootstrap says to the engine is
one dialogue after the other, in the order of the stages.
-/

open Testbed.Task (KeepsTo Asks)

namespace Testbed

variable {pacing : Pacing} {ctx : Context}

/-! ## Commands -/

/-- A task that passes on the reply to a request, or fails for it. -/
theorem Task.asks_of_request {α : Type} {task : Attempt α} {r : Engine.Request}
    {reply : α → Engine.Reply r} {view : Engine.Reply r → Except Error α}
    (h : task.run = .ask (Sum.inl r) fun b => .done (view b))
    (passes : ∀ b a, view b = .ok a → b = reply a) : Asks task r reply := by
  intro t out ht
  rw [h] at ht
  cases ht with
  | ask b rest =>
    cases rest
    exact ⟨b, rfl, passes b⟩

theorem Engine.isRunning_asks (name : String) :
    Asks (Engine.isRunning name) (.isRunning name) .ok :=
  Task.asks_of_request rfl fun _ _ h => h

theorem Engine.exec_asks (ctx : Context) (name : String) (cmd : List String) :
    Asks (Engine.exec ctx name cmd) (.exec ctx name cmd) .ok :=
  Task.asks_of_request rfl fun _ _ h => h

instance : Nonempty StreamId := ⟨⟨0⟩⟩

instance : Nonempty Instant := ⟨⟨0⟩⟩

theorem Context.Waits.atSystem {r : Engine.onSystem.Request} (h : Context.Waits r) :
    AtSystem r := by
  obtain r | r := r
  · exact h.elim
  · rfl

theorem Context.check_atSystem (ctx : Context) : Task.Only AtSystem (ctx.check : Attempt Unit) :=
  ctx.check_waits.mono fun _ => Waits.atSystem

theorem Context.sleep_atSystem (ctx : Context) (duration : Duration) (rounds : Nat) :
    Task.Only AtSystem (ctx.sleep duration rounds : Attempt Unit) :=
  (ctx.sleep_waits duration rounds).mono fun _ => Waits.atSystem

theorem System.ask_atSystem (r : System.Request) :
    Task.Only AtSystem (liftM (System.ask r : Action (System.Reply r)) : Attempt _) :=
  ⟨rfl, fun _ => trivial⟩

/-! ## Networks -/

namespace Network

/-- The network is found to exist, or else it is created within the time for that. -/
inductive Obtained (ctx : Context) (name : String) : Dialogue → Prop
  | adopted : Obtained ctx name [⟨.networkExists name, .ok true⟩]
  | created (now : Instant) : Obtained ctx name
      [⟨.networkExists name, .ok false⟩,
        ⟨.createNetwork (ctx.expiringAt now createTimeout) (.bridge name), .ok ()⟩]

theorem create_keepsTo (ctx : Context) (name : String) :
    KeepsTo (create ctx name) fun network d => network = { name } ∧ Obtained ctx name d := by
  refine KeepsTo.mapError ?_
  have asks : Asks (Engine.networkExists name) (.networkExists name) .ok :=
    Task.asks_of_request rfl fun _ _ h => h
  refine asks.seq true ⟨_, [], rfl, .adopted⟩ ?_
  rintro (_ | _)
  · have bounds : KeepsTo (liftM (ctx.withTimeout createTimeout : Action Context) : Attempt _)
        fun bounded d => d = [] ∧ ∃ now, bounded = ctx.expiringAt now createTimeout := by
      refine ⟨⟨_, [], rfl, ⟨0⟩, rfl⟩, ?_⟩
      rintro _ _ (_ | ⟨now, ⟨⟩⟩)
      exact ⟨rfl, now, rfl⟩
    refine .inl (bounds.bind ?_)
    rintro _ _ ⟨rfl, now, rfl⟩
    have creates : Asks (Engine.createNetwork (ctx.expiringAt now createTimeout) (.bridge name))
        (.createNetwork (ctx.expiringAt now createTimeout) (.bridge name)) .ok :=
      Task.asks_of_request rfl fun _ _ h => h
    refine creates.keepsTo.bind ?_
    rintro _ _ rfl
    exact KeepsTo.pure ⟨rfl, .created now⟩
  · exact .inl (KeepsTo.pure ⟨rfl, .adopted⟩)

theorem createUnique_keepsTo (ctx : Context) (stem : String) :
    KeepsTo (createUnique ctx stem) fun network d =>
      ∃ suffix, network = { name := stem ++ "-" ++ suffix } ∧ Obtained ctx network.name d := by
  have asks : Task.Only AtSystem (liftM (System.suffix : Action String) : Attempt String) :=
    System.ask_atSystem .suffix
  refine KeepsTo.silent_seq asks fun suffix => (create_keepsTo ctx _).mono ?_
  rintro _ d ⟨rfl, obtained⟩
  exact ⟨suffix, rfl, obtained⟩

end Network

/-! ## Members -/

namespace Launch

/-- The port is found closed, on a container that runs, until it is found open. -/
inductive Opens (name host : String) (hostPort containerPort : Port) : Dialogue → Prop
  | ready : Opens name host hostPort containerPort
      [⟨.isPortReady name host hostPort containerPort, true⟩]
  | again {d : Dialogue} (rest : Opens name host hostPort containerPort d) :
      Opens name host hostPort containerPort
        (⟨.isPortReady name host hostPort containerPort, false⟩ ::
          ⟨.isRunning name, .ok true⟩ :: d)

/-- Output is followed if that is asked for. -/
inductive Follows (name : String) : Bool → Dialogue → Prop
  | quiet : Follows name false []
  | attached (stream : StreamId) : Follows name true
      [⟨.isRunning name, .ok true⟩, ⟨.attachLogs name, .ok stream⟩]

theorem pollPort_keepsTo {name host : String} {hostPort containerPort : Port} {timeout : Duration}
    {started : Instant} (rounds : Nat) :
    KeepsTo (pollPort pacing ctx name host hostPort containerPort timeout started rounds)
      fun _ d => Opens name host hostPort containerPort d := by
  have ready : Script.Possible fun (_ : Unit) d => Opens name host hostPort containerPort d :=
    ⟨(), _, .ready⟩
  induction rounds with
  | zero => exact ⟨ready, nofun⟩
  | succ rounds ih =>
    refine KeepsTo.silent_seq ctx.check_atSystem fun _ => ?_
    have looks : Asks (liftM (Engine.isPortReady name host hostPort containerPort) : Attempt _)
        (.isPortReady name host hostPort containerPort) id :=
      Task.asks_of_request rfl fun _ _ h => Except.ok.inj h
    refine looks.seq true ⟨(), [], .ready⟩ ?_
    rintro (_ | _)
    · -- A closed port is looked at again, but only while the container runs.
      refine .inl ((Engine.isRunning_asks name).seq true ⟨(), _, .again .ready⟩ ?_)
      rintro (_ | _)
      · exact .inr ⟨_, rfl⟩
      · refine .inl (KeepsTo.silent_seq (System.ask_atSystem .now) fun now => ?_)
        dsimp only
        split
        · exact KeepsTo.throw ⟨(), _, .again .ready⟩
        · refine KeepsTo.silent_seq (ctx.sleep_atSystem _ _) fun _ => ih.mono ?_
          intro _ _ rest
          exact .again rest
    · exact .inl (KeepsTo.pure .ready)

theorem collect_keepsTo (ctx : Context) (name : String) :
    KeepsTo (collect ctx name) fun _ d => Follows name true d := by
  have attaches : Asks (Engine.attachLogs name) (.attachLogs name) .ok :=
    Task.asks_of_request rfl fun _ _ h => h
  have starts : KeepsTo (Collector.start ctx name) fun _ d => Follows name true d := by
    refine KeepsTo.silent_seq ctx.check_atSystem fun _ => ?_
    refine (Engine.isRunning_asks name).mapError.seq true
      ⟨⟨name, ⟨0⟩, false⟩, _, .attached ⟨0⟩⟩ ?_
    rintro (_ | _)
    · exact .inr ⟨_, rfl⟩
    · refine .inl (attaches.mapError.keepsTo.bind ?_)
      rintro stream _ rfl
      exact KeepsTo.silent_seq (System.ask_atSystem (.follow stream)) fun _ =>
        KeepsTo.pure (.attached stream)
  refine starts.bind fun c d follows => ?_
  refine KeepsTo.silent_seq (System.ask_atSystem (.forward c.stream c.container)) fun _ => ?_
  exact KeepsTo.pure (by rwa [Script.after, List.append_nil])

/-- The container's port opens, and its output is followed if that is asked for. -/
def GetsReady (request : LaunchRequest) (d : Dialogue) : Prop :=
  ∃ host port opens follows,
    d = ⟨.host, host⟩ :: ⟨.mappedPort request.spec.name request.containerPort, .ok port⟩ ::
      (opens ++ follows) ∧
    Opens request.spec.name host port request.containerPort opens ∧
    Follows request.spec.name request.log follows

theorem awaitReady_keepsTo (request : LaunchRequest) :
    KeepsTo (awaitReady pacing ctx request) fun service d =>
      service.name = request.spec.name ∧ GetsReady request d := by
  have hosts : Asks (liftM Engine.host : Attempt String) .host id :=
    Task.asks_of_request rfl fun _ _ h => Except.ok.inj h
  have maps : Asks (Engine.mappedPort request.spec.name request.containerPort)
      (.mappedPort request.spec.name request.containerPort) .ok :=
    Task.asks_of_request rfl fun _ _ h => h
  have waits : ∀ host port, KeepsTo (waitForPort pacing ctx request.spec.name host port
      request.containerPort request.startupTimeout)
      fun _ d => Opens request.spec.name host port request.containerPort d := fun host port =>
    KeepsTo.silent_seq (System.ask_atSystem .now) fun _ => pollPort_keepsTo _
  refine hosts.keepsTo.bind ?_
  rintro host _ rfl
  refine maps.keepsTo.bind ?_
  rintro port _ rfl
  refine (waits host port).bind fun _ opens opened => ?_
  dsimp only
  split
  · next log =>
    rw [map_eq_pure_bind, bind_assoc]
    refine (collect_keepsTo ctx _).bind fun c follows followed => KeepsTo.pure ?_
    exact ⟨rfl, host, port, opens, follows, by simp, opened, log ▸ followed⟩
  · next log =>
    have quiet : request.log = false := by simpa using log
    exact KeepsTo.pure ⟨rfl, host, port, opens, [], by simp, opened, quiet ▸ .quiet⟩

/-- What is said to bring up a container. -/
def BringsUp (ctx : Context) (request : LaunchRequest) (d : Dialogue) : Prop :=
  ∃ ready, d = ⟨.run ctx request.spec, .ok ()⟩ :: ready ∧ GetsReady request ready

end Launch

theorem launch_keepsTo (request : LaunchRequest) :
    KeepsTo (launch pacing ctx request) fun service d =>
      service.name = request.spec.name ∧ Launch.BringsUp ctx request d := by
  have runs : Asks (Engine.run ctx request.spec) (.run ctx request.spec) .ok :=
    Task.asks_of_request rfl fun _ _ h => h
  refine (runs.keepsTo.onFailure ?_).bind ?_
  · intro _
    exact ⟨trivial, fun _ => trivial⟩
  · rintro _ _ rfl
    refine ((Launch.awaitReady_keepsTo request).mono ?_).onFailure ?_
    · rintro service ready ⟨name, gets⟩
      exact ⟨name, ready, rfl, gets⟩
    · intro _
      exact Prog.Only.bind ⟨trivial, fun _ => trivial⟩ fun _ => removeWithin_cleans _ _ _

/-! ## Scripts -/

/-- The last one has the property, and no other. -/
def OnlyLast {α : Type} (p : α → Prop) (l : List α) : Prop :=
  ∃ init last, l = init ++ [last] ∧ p last ∧ ∀ a ∈ init, ¬ p a

theorem OnlyLast.single {α : Type} {p : α → Prop} {a : α} (h : p a) : OnlyLast p [a] :=
  ⟨[], a, rfl, h, by simp⟩

theorem OnlyLast.cons {α : Type} {p : α → Prop} {a : α} {l : List α} (h : OnlyLast p l)
    (ha : ¬ p a) : OnlyLast p (a :: l) := by
  obtain ⟨init, last, rfl, hlast, hinit⟩ := h
  exact ⟨a :: init, last, rfl, hlast, List.forall_mem_cons.2 ⟨ha, hinit⟩⟩

namespace ReplicaSet

/-- A script is run in a container, and gets this reply. -/
def turn (ctx : Context) (container script : String) (b : Except Error ExecOutput) :
    Prog.Event Engine :=
  ⟨.exec ctx container ["mongosh", "--quiet", "--eval", script], b⟩

theorem eval_asks (ctx : Context) (container script : String) :
    Asks (eval ctx container script)
      (.exec ctx container ["mongosh", "--quiet", "--eval", script]) .ok :=
  Engine.exec_asks ctx container _

/-- The set is initiated. -/
def Initiates (ctx : Context) (master : String) (d : Dialogue) : Prop :=
  ∃ out, isInitiated out ∧ d = [turn ctx master initiateScript (.ok out)]

theorem initiate_keepsTo (ctx : Context) (base master : String) :
    KeepsTo (initiate ctx base master) fun _ d => Initiates ctx master d := by
  have initiated : isInitiated ⟨0, "ok"⟩ := by decide +kernel
  refine (eval_asks _ _ _).mapError.seq ⟨0, "ok"⟩ ⟨(), [], _, initiated, rfl⟩ ?_
  intro out
  by_cases h : isInitiated out = true
  · refine .inl ?_
    rw [if_neg (by simp [h])]
    exact KeepsTo.pure ⟨out, h, rfl⟩
  · refine .inr ⟨.replicaSetInit base s!"unexpected output: {Text.trim out.output}", ?_⟩
    rw [if_pos (by simp [h])]

/-- The master is asked for its role until it reports itself. -/
def VerifiesMaster (ctx : Context) (master : String) (d : Dialogue) : Prop :=
  ∃ outs, OnlyLast (isMaster · = true) outs ∧
    d = outs.map fun out => turn ctx master masterScript (.ok out)

theorem pollMaster_keepsTo {master : String} {started : Instant} (attempts rounds : Nat) :
    KeepsTo (pollMaster pacing ctx master started attempts rounds)
      fun _ d => VerifiesMaster ctx master d := by
  have reports : isMaster ⟨0, masterMarker⟩ := by decide +kernel
  have single : ∀ out, isMaster out →
      VerifiesMaster ctx master [turn ctx master masterScript (.ok out)] := fun out h =>
    ⟨[out], .single h, rfl⟩
  have more : ∀ out d, isMaster out ≠ true → VerifiesMaster ctx master d →
      VerifiesMaster ctx master (turn ctx master masterScript (.ok out) :: d) := by
    rintro out _ h ⟨outs, only, rfl⟩
    exact ⟨out :: outs, only.cons h, rfl⟩
  induction rounds generalizing attempts with
  | zero => exact ⟨⟨(), _, single _ reports⟩, nofun⟩
  | succ rounds ih =>
    refine (eval_asks _ _ _).mapError.seq ⟨0, masterMarker⟩ ⟨(), [], single _ reports⟩ ?_
    intro out
    refine .inl ?_
    split
    · next h => exact KeepsTo.pure (single out h)
    · next h =>
      refine KeepsTo.silent_seq (System.ask_atSystem .now) fun now => ?_
      dsimp only
      split
      · exact KeepsTo.throw ⟨(), _, more out _ h (single _ reports)⟩
      · refine KeepsTo.silent_seq (ctx.sleep_atSystem _ _) fun _ => (ih (attempts + 1)).mono ?_
        intro _ d verifies
        exact more out d h verifies

theorem verifyMaster_keepsTo (master : String) :
    KeepsTo (verifyMaster pacing ctx master) fun _ d => VerifiesMaster ctx master d :=
  KeepsTo.silent_seq (System.ask_atSystem .now) fun _ => pollMaster_keepsTo _ _

/-- The reply names a primary. A failed question does not. -/
def namesPrimary : Except Error ExecOutput → Bool
  | .ok out => hasPrimary out
  | .error _ => false

/-- The question was cancelled. -/
def wasCancelled : Except Error ExecOutput → Bool
  | .ok _ => false
  | .error e => e.isCancelled

/-- How the election stands after these replies, when `before` were had before and `budget` more may
be had: the last reply and no other names a primary, or all of them were in vain. -/
inductive Stands (before budget : Nat) : Election → List (Except Error ExecOutput) → Prop
  | converged {replies : List (Except Error ExecOutput)} (within : replies.length ≤ budget)
      (only : OnlyLast (namesPrimary · = true) replies) :
      Stands before budget (.converged (before + replies.length)) replies
  | pending {replies : List (Except Error ExecOutput)} (all : replies.length = budget)
      (none : ∀ b ∈ replies, namesPrimary b = false) :
      Stands before budget (.pending (before + replies.length)) replies

theorem Stands.again {before budget : Nat} {election : Election}
    {replies : List (Except Error ExecOutput)} {b : Except Error ExecOutput}
    (vain : namesPrimary b = false) (h : Stands (before + 1) budget election replies) :
    Stands before (budget + 1) election (b :: replies) := by
  have count : before + 1 + replies.length = before + (b :: replies).length := by
    rw [List.length_cons]
    omega
  cases h with
  | converged within only =>
    rw [count]
    exact .converged (Nat.succ_le_succ within) (only.cons (by simp [vain]))
  | pending all none =>
    rw [count]
    exact .pending (congrArg (· + 1) all) (List.forall_mem_cons.2 ⟨vain, none⟩)

/-- The election counts the replies. -/
theorem Stands.attempts_eq {before budget : Nat} {election : Election}
    {replies : List (Except Error ExecOutput)} (h : Stands before budget election replies)
    (some : 0 < budget) :
    election.attempts = before + replies.length ∧ 0 < replies.length ∧
      replies.length ≤ budget := by
  cases h with
  | converged within only =>
    obtain ⟨init, last, rfl, -, -⟩ := only
    exact ⟨rfl, by simp, within⟩
  | pending all none => exact ⟨rfl, by omega, by omega⟩

/-- A member is asked for the primary. -/
def AwaitsPrimary (ctx : Context) (observer : String) (before budget : Nat) : Script Election :=
  fun election d => ∃ replies, Stands before budget election replies ∧
    (∀ b ∈ replies, wasCancelled b = false) ∧ d = replies.map (turn ctx observer statusScript)

theorem pollPrimary_keepsTo {observer : String} (attempts left : Nat) :
    KeepsTo (pollPrimary pacing ctx observer attempts left)
      (AwaitsPrimary ctx observer attempts left) := by
  induction left generalizing attempts with
  | zero =>
    have notes : Task.Only AtSystem (liftM (notify (.noPrimaryYet observer)) : Attempt Unit) :=
      System.ask_atSystem _
    have none_yet : Stands attempts 0 (.pending attempts) [] :=
      .pending rfl (List.forall_mem_nil _)
    exact KeepsTo.silent_seq notes fun _ => KeepsTo.pure ⟨[], none_yet, List.forall_mem_nil _, rfl⟩
  | succ left ih =>
    have elected : hasPrimary ⟨0, "PRIMARY"⟩ := by decide +kernel
    have converges : ∀ out, hasPrimary out → AwaitsPrimary ctx observer attempts (left + 1)
        (.converged (attempts + 1)) [turn ctx observer statusScript (.ok out)] := by
      intro out h
      have only : OnlyLast (namesPrimary · = true) [.ok out] := .single h
      exact ⟨[.ok out], .converged (by simp) only, by simp [wasCancelled], rfl⟩
    -- Asking in vain and failing to ask go on in the same way.
    have again : ∀ b, namesPrimary b = false → wasCancelled b = false → KeepsTo (do
        if 0 < left then ctx.sleep pacing.electionInterval pacing.rounds
        pollPrimary pacing ctx observer (attempts + 1) left)
        ((AwaitsPrimary ctx observer attempts (left + 1)).after
          [turn ctx observer statusScript b]) := by
      intro b vain uncancelled
      have rest := (ih (attempts + 1)).mono (T :=
          (AwaitsPrimary ctx observer attempts (left + 1)).after
            [turn ctx observer statusScript b]) <| by
        rintro election _ ⟨replies, stands, none, rfl⟩
        exact ⟨b :: replies, stands.again vain, List.forall_mem_cons.2 ⟨uncancelled, none⟩, rfl⟩
      split
      · exact KeepsTo.silent_seq (ctx.sleep_atSystem _ _) fun _ => rest
      · exact rest
    have asks : Asks (eval ctx observer statusScript).outcome
        (.exec ctx observer ["mongosh", "--quiet", "--eval", statusScript]) id :=
      Task.asks_of_request rfl fun _ _ h => Except.ok.inj h
    refine asks.seq (.ok ⟨0, "PRIMARY"⟩) ⟨_, [], converges _ elected⟩ ?_
    rintro (e | out)
    · dsimp only
      split
      · exact .inr ⟨e, rfl⟩
      · next uncancelled => exact .inl (again _ rfl (by simpa [wasCancelled] using uncancelled))
    · dsimp only
      split
      · next primary => exact .inl (KeepsTo.pure (converges out primary))
      · next vain => exact .inl (again _ (by simpa [namesPrimary] using vain) rfl)

theorem awaitPrimary_keepsTo (observer : String) :
    KeepsTo (awaitPrimary pacing ctx observer)
      (AwaitsPrimary ctx observer 0 pacing.electionBudget) :=
  pollPrimary_keepsTo _ _

/-! ## Stages -/

/-- The members join the first network that the options name, or else one with a new name. -/
inductive ObtainsNetwork (ctx : Context) (o : ServiceOptions) : Script String
  | named {name : String} {others : List String} (h : o.networks = name :: others) :
      ObtainsNetwork ctx o name []
  | unnamed {d : Dialogue} (suffix : String) (h : o.networks = [])
      (obtained : Network.Obtained ctx ("mongo-replicaset-" ++ suffix) d) :
      ObtainsNetwork ctx o ("mongo-replicaset-" ++ suffix) d

/-- What a bootstrap says, stage by stage: it obtains a network, brings up one member after the
other, initiates the set on the master, waits for the master to report itself and asks the third
member for a primary. -/
inductive Protocol (pacing : Pacing) (ctx : Context) (o : ServiceOptions) : Script Election
  | stages {network : String} {n m₁ m₂ m₃ i v e : Dialogue} {election : Election}
      (obtains : ObtainsNetwork ctx o network n)
      (first : Launch.BringsUp ctx (.replicaMember o .master network) m₁)
      (second : Launch.BringsUp ctx (.replicaMember o .second network) m₂)
      (third : Launch.BringsUp ctx (.replicaMember o .third network) m₃)
      (initiates : Initiates ctx (ReplicaNode.master.containerName o.name) i)
      (verifies : VerifiesMaster ctx (ReplicaNode.master.containerName o.name) v)
      (awaits : AwaitsPrimary ctx (ReplicaNode.third.containerName o.name) 0 pacing.electionBudget
        election e) :
      Protocol pacing ctx o election (n ++ (m₁ ++ (m₂ ++ (m₃ ++ (i ++ (v ++ e))))))

theorem Protocol.awaits {o : ServiceOptions} {election : Election} {d : Dialogue}
    (h : Protocol pacing ctx o election d) :
    ∃ e, AwaitsPrimary ctx (ReplicaNode.third.containerName o.name) 0 pacing.electionBudget
      election e := by
  cases h with
  | stages _ _ _ _ _ _ awaits => exact ⟨_, awaits⟩

namespace Building

variable {α β : Type} {b : Building α} {f : α → Building β} {S : Script β} {C : Script α}

/-- The stage keeps to the script, whatever has been started before. -/
structure KeepsTo (b : Building α) (S : Script α) : Prop where
  possible : S.Possible
  ends : ∀ p t r, Prog.Yields (b.run.run p) t r → S.Ends r.1 (Trace.commands t)

theorem KeepsTo.pure {a : α} (h : C a []) : KeepsTo (pure a) C where
  possible := ⟨a, [], h⟩
  ends := by
    rintro p t r ⟨⟩
    exact h

theorem KeepsTo.modify (g : Progress → Progress) : KeepsTo (modify g) fun _ d => d = [] where
  possible := ⟨(), [], rfl⟩
  ends := by
    rintro p t r ⟨⟩
    rfl

theorem KeepsTo.attempt {task : Attempt α} (h : task.KeepsTo C) : KeepsTo (attempt task) C where
  possible := h.possible
  ends := by
    intro p t r ht
    obtain ⟨s, u, r', rfl, hs, returns⟩ := Prog.yields_bind.1 ht
    cases returns
    rw [List.append_nil]
    exact h.ends s r' hs

theorem KeepsTo.bind (h : KeepsTo b C) (hf : ∀ a u, C a u → KeepsTo (f a) (S.after u)) :
    KeepsTo (b >>= f) S where
  possible := by
    obtain ⟨a, u, ha⟩ := h.possible
    obtain ⟨c, v, hc⟩ := (hf a u ha).possible
    exact ⟨c, u ++ v, hc⟩
  ends := fun p t r ht => by
    obtain ⟨s, u, ⟨r', p'⟩, rfl, hs, hu⟩ := Prog.yields_bind.1 ht
    have first := h.ends p s _ hs
    cases r' with
    | ok a =>
      rw [Trace.commands_append]
      exact ((hf a _ first).ends p' u r hu).later
    | error e =>
      cases hu
      rw [List.append_nil]
      exact Script.Cut.first first fun a u ha => (hf a u ha).possible

end Building

section Stages

variable {o : ServiceOptions}

theorem obtainNetwork_keepsTo : Building.KeepsTo (obtainNetwork ctx o) (ObtainsNetwork ctx o) := by
  unfold obtainNetwork
  split
  · next name others h => exact .pure (.named h)
  · next unnamed =>
    refine (Building.KeepsTo.attempt (Network.createUnique_keepsTo ctx _)).bind ?_
    rintro _ d ⟨suffix, rfl, obtained⟩
    refine (Building.KeepsTo.modify _).bind ?_
    rintro _ _ rfl
    refine .pure ?_
    have whole := ObtainsNetwork.unnamed suffix unnamed obtained
    rw [Script.after, Script.after, List.append_nil, List.append_nil]
    exact whole

theorem startMember_keepsTo (network : String) (node : ReplicaNode) :
    Building.KeepsTo (startMember pacing ctx o network node) fun service d =>
      service.name = node.containerName o.name ∧
        Launch.BringsUp ctx (.replicaMember o node network) d := by
  refine (Building.KeepsTo.attempt (launch_keepsTo _)).bind ?_
  rintro service d ⟨name, brings⟩
  refine (Building.KeepsTo.modify _).bind ?_
  rintro _ _ rfl
  refine .pure ⟨name, ?_⟩
  rw [List.append_nil, List.append_nil]
  exact brings

theorem reach_keepsTo (base : String) (stage : Stage) :
    Building.KeepsTo (reach base stage) fun _ d => d = [] := by
  have notes : Task.KeepsTo (liftM (notify (.stageReached base stage)) : Attempt Unit)
      fun _ d => d = [] := by
    refine ⟨⟨(), [], rfl⟩, ?_⟩
    rintro _ _ (_ | ⟨_, ⟨⟩⟩)
    rfl
  exact .attempt notes

theorem stages_keepsTo :
    Building.KeepsTo (stages pacing ctx o) fun r d => Protocol pacing ctx o r.election d := by
  refine obtainNetwork_keepsTo.bind fun network n obtains => ?_
  refine (reach_keepsTo _ _).bind ?_
  rintro _ _ rfl
  refine (startMember_keepsTo network .master).bind ?_
  rintro master m₁ ⟨named, first⟩
  refine (startMember_keepsTo network .second).bind ?_
  rintro _ m₂ ⟨-, second⟩
  refine (startMember_keepsTo network .third).bind ?_
  rintro _ m₃ ⟨-, third⟩
  refine (reach_keepsTo _ _).bind ?_
  rintro _ _ rfl
  refine (reach_keepsTo _ _).bind ?_
  rintro _ _ rfl
  rw [named]
  refine (Building.KeepsTo.attempt (initiate_keepsTo _ _ _)).bind fun _ i initiates => ?_
  refine (reach_keepsTo _ _).bind ?_
  rintro _ _ rfl
  refine (Building.KeepsTo.attempt (verifyMaster_keepsTo _)).bind fun _ v verifies => ?_
  refine (reach_keepsTo _ _).bind ?_
  rintro _ _ rfl
  refine (Building.KeepsTo.attempt (awaitPrimary_keepsTo _)).bind fun election e awaits => ?_
  refine (reach_keepsTo _ _).bind ?_
  rintro _ _ rfl
  refine .pure ?_
  have whole := Protocol.stages obtains first second third initiates verifies awaits
  simpa [Script.after] using whole

/-- Rolling back is no part of the protocol. -/
theorem start_keepsTo :
    KeepsTo (start pacing ctx o) fun r d => Protocol pacing ctx o r.election d := by
  have possible : Script.Possible fun (r : ReplicaSet) d => Protocol pacing ctx o r.election d :=
    stages_keepsTo.possible
  unfold start
  suffices booted : _ by
    split
    · exact KeepsTo.of_silent possible (notify_atSystem _) fun _ => booted
    · exact booted
  refine ⟨possible, fun t r ht => ?_⟩
  obtain ⟨s, u, ⟨result, progress⟩, rfl, staged, hu⟩ := Prog.yields_bind.1 ht
  have ends := stages_keepsTo.ends {} s _ staged
  cases result with
  | ok set =>
    obtain ⟨v, w, _, rfl, notes, returns⟩ := Prog.yields_bind.1 hu
    cases returns
    have quiet : Trace.commands v = [] := commands_eq_nil (notify_atSystem _) notes.reaches
    rw [Trace.commands_append, List.append_nil, quiet, List.append_nil]
    exact ends
  | error e =>
    obtain ⟨v, w, _, rfl, notes, rest⟩ := Prog.yields_bind.1 hu
    obtain ⟨x, y, _, rfl, rolls, returns⟩ := Prog.yields_bind.1 rest
    cases returns
    have quiet : Trace.commands v = [] := commands_eq_nil (notify_atSystem _) notes.reaches
    rw [Trace.commands_append, Trace.commands_append, quiet, List.nil_append, List.append_nil]
    exact Script.Cut.clean ends (commands_removes (rollback_cleans _ _) rolls.reaches)

end Stages

/-- A bootstrap that succeeds has gone through the stages of the protocol one after the other, and
has ended in the election that the replies of the last stage tell. A bootstrap that fails has broken
such a dialogue off, and then only removes what it has started. -/
theorem bootstrap_follows_protocol (pacing : Pacing) (ctx : Context) (o : ServiceOptions) :
    (∀ (t : Trace) r, Prog.Yields (start pacing ctx o).run t (.ok r) →
      Protocol pacing ctx o r.election t.commands ∧ 1 ≤ r.election.attempts ∧
        r.election.attempts ≤ pacing.electionBudget) ∧
    (∀ (t : Trace) e, Prog.Yields (start pacing ctx o).run t (.error e) →
      ∃ (said cleanup full : Dialogue) (election : Election), t.commands = said ++ cleanup ∧
        (∀ c ∈ cleanup, c.request.Removes) ∧ Protocol pacing ctx o election full ∧
        said.BreaksOff full) := by
  constructor
  · intro t r ht
    have protocol : Protocol pacing ctx o r.election t.commands := start_keepsTo.ends t _ ht
    obtain ⟨_, replies, stands, -, -⟩ := protocol.awaits
    obtain ⟨count, some, within⟩ := stands.attempts_eq (Nat.le_max_right _ 1)
    exact ⟨protocol, by omega, by omega⟩
  · intro t e ht
    obtain ⟨said, cleanup, r, full, parts⟩ := start_keepsTo.ends t _ ht
    exact ⟨said, cleanup, full, r.election, parts⟩

/-- A replica set that is called orders. -/
def protocolSample : ServiceOptions := ServiceDraft.named { family := .mongo } "orders"

/-- A bootstrap that succeeds, and one whose first member publishes no port. -/
theorem orders_follow_protocol :
    let start := start {} ⟨⟨0⟩, none⟩ protocolSample
    (∃ (t : Trace) (r : ReplicaSet), Prog.Yields start.run t (.ok r) ∧
      r.election = .converged 1 ∧
      Protocol {} ⟨⟨0⟩, none⟩ protocolSample r.election t.commands) ∧
    ∃ (t : Trace) (e : Error), Prog.Yields start.run t (.error e) ∧
      ∃ (said cleanup full : Dialogue) (election : Election), t.commands = said ++ cleanup ∧
        (∀ c ∈ cleanup, c.request.Removes) ∧
        Protocol {} ⟨⟨0⟩, none⟩ protocolSample election full ∧ said.BreaksOff full := by
  intro start
  have both := bootstrap_follows_protocol {} ⟨⟨0⟩, none⟩ protocolSample
  constructor
  · obtain ⟨_ | r, elected, yields⟩ := Prog.exists_yields_play Engine.obliging
      (p := start.run) (f := fun r => r.toOption.map (·.election)) (b := .converged 1)
      (by decide +kernel)
    · cases elected
    · exact ⟨_, r, yields, Option.some.inj elected, (both.1 _ r yields).1⟩
  · obtain ⟨e | _, failed, yields⟩ := Prog.exists_yields_play Engine.unpublishing
      (p := start.run) (f := fun
        | .error e => some e.isCancelled
        | .ok _ => none) (b := false) (by decide +kernel)
    · exact ⟨_, e, yields, both.2 _ e yields⟩
    · cases failed

end ReplicaSet

end Testbed
