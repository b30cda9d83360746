import Testbed.Fixture
import Testbed.Proofs.Ledger

/-!
# Laws of removing, waiting and launching

What a monitor sees of the operations that fixtures are built from, for any monitor that takes no
notice of idle requests.
-/

namespace Testbed

open Engine (Still)

variable {σ : Type} {M : Monitor Engine.onSystem σ}

/-! ## Requests -/

section Requests

variable {s : σ} {E : Error → σ → Prop}

/-- A reply is a result or an error. -/
theorem forall_reply {α : Type} {P : Except Error α → Prop} :
    (∀ b, P b) ↔ (∀ a, P (.ok a)) ∧ ∀ e, P (.error e) := by
  constructor
  · intro h
    exact ⟨fun a => h (.ok a), fun e => h (.error e)⟩
  · rintro ⟨hok, herror⟩ (e | a)
    · exact herror e
    · exact hok a

theorem Engine.run_wp {ctx : Context} {spec : ContainerSpec} {Q : Unit → σ → Prop} :
    Task.wp M (Engine.run ctx spec) Q E s ↔
      M.allows s (.inl (.run ctx spec)) ∧
        (∀ a, Q a (M.step s (Engine.event (.run ctx spec) (.ok a)))) ∧
        ∀ e, E e (M.step s (Engine.event (.run ctx spec) (.error e))) :=
  and_congr_right fun _ => forall_reply

theorem Engine.networkExists_wp {name : String} {Q : Bool → σ → Prop} :
    Task.wp M (Engine.networkExists name) Q E s ↔
      M.allows s (.inl (.networkExists name)) ∧
        (∀ known, Q known (M.step s (Engine.event (.networkExists name) (.ok known)))) ∧
        ∀ e, E e (M.step s (Engine.event (.networkExists name) (.error e))) :=
  and_congr_right fun _ => forall_reply

theorem Engine.createNetwork_wp {ctx : Context} {spec : NetworkSpec} {Q : Unit → σ → Prop} :
    Task.wp M (Engine.createNetwork ctx spec) Q E s ↔
      M.allows s (.inl (.createNetwork ctx spec)) ∧
        (∀ a, Q a (M.step s (Engine.event (.createNetwork ctx spec) (.ok a)))) ∧
        ∀ e, E e (M.step s (Engine.event (.createNetwork ctx spec) (.error e))) :=
  and_congr_right fun _ => forall_reply

end Requests

/-- The replies of an engine that has neither containers nor networks of its own and does what it is
told, on a system whose clock stands still. -/
def Engine.obliging : (r : Engine.onSystem.Request) → Engine.onSystem.Reply r
  | .inl .available | .inl (.isPortReady _ _ _ _) => true
  | .inl .host => "localhost"
  | .inl (.inspect name) => .error (.commandFailed s!"inspect {name}" "no such object" true)
  | .inl (.isRunning _) => .ok true
  | .inl (.networkExists _) => .ok false
  | .inl (.mappedPort _ containerPort) => .ok containerPort
  | .inl (.exec _ _ _) => .ok ⟨0, "ok, ismaster: true, PRIMARY"⟩
  | .inl (.attachLogs _) => .ok ⟨0⟩
  | .inl (.run _ _) | .inl (.remove _) | .inl (.createNetwork _ _) | .inl (.removeNetwork _)
  | .inl .pruneNetworks | .inl (.ping _ _ _) => .ok ()
  | .inr .now => ⟨0⟩
  | .inr .newToken => ⟨0⟩
  | .inr (.isCancelled _) => false
  | .inr .suffix => "0123456789ab"
  | .inr .freePort => .ok 40000
  | .inr (.sleep _) | .inr (.cancel _) | .inr (.notify _) | .inr (.follow _)
  | .inr (.forward _ _) | .inr (.unfollow _) => ()

/-! ## Waiting -/

theorem System.ask_idle (r : System.Request) :
    Prog.Only Engine.Idle (System.ask r : Action (System.Reply r)) :=
  ⟨trivial, fun _ => trivial⟩

theorem System.ask_still (r : System.Request) (h : Still (.inr r) := by trivial) :
    Prog.Only Still (System.ask r : Action (System.Reply r)) :=
  ⟨h, fun _ => trivial⟩

namespace Context

/-- What a wait on a context asks for. -/
def Waits : Engine.onSystem.Request → Prop
  | .inr .now | .inr (.sleep _) | .inr (.isCancelled _) => True
  | _ => False

theorem Waits.still {r : Engine.onSystem.Request} (h : Waits r) : Still r := by
  obtain r | r := r
  · exact h.elim
  · cases r <;> trivial

theorem status_waits (ctx : Context) : Prog.Only Waits (ctx.status : Action (Option Cause)) := by
  refine Prog.Only.bind ⟨trivial, fun _ => trivial⟩ fun flagSet => ?_
  cases flagSet with
  | true => trivial
  | false =>
    cases ctx.deadline with
    | none => trivial
    | some deadline => exact Prog.Only.bind ⟨trivial, fun _ => trivial⟩ fun _ => trivial

theorem check_waits (ctx : Context) : Task.Only Waits (ctx.check : Attempt Unit) := by
  refine Task.Only.bind (Task.Only.lift ctx.status_waits) fun cause => ?_
  cases cause <;> trivial

theorem sleepUntil_waits (ctx : Context) (wake : Instant) (rounds : Nat) :
    Task.Only Waits (ctx.sleepUntil wake rounds : Attempt Unit) := by
  induction rounds with
  | zero => trivial
  | succ rounds ih =>
    refine Task.Only.bind ctx.check_waits fun _ => ?_
    refine Task.Only.bind ⟨trivial, fun _ => trivial⟩ fun now => ?_
    split
    · trivial
    · exact Task.Only.bind ⟨trivial, fun _ => trivial⟩ fun _ => ih

theorem sleep_waits (ctx : Context) (duration : Duration) (rounds : Nat) :
    Task.Only Waits (ctx.sleep duration rounds : Attempt Unit) :=
  Task.Only.bind ⟨trivial, fun _ => trivial⟩ fun _ => ctx.sleepUntil_waits _ rounds

theorem check_still (ctx : Context) : Task.Only Still (ctx.check : Attempt Unit) :=
  ctx.check_waits.mono fun _ => Waits.still

theorem sleep_still (ctx : Context) (duration : Duration) (rounds : Nat) :
    Task.Only Still (ctx.sleep duration rounds : Attempt Unit) :=
  (ctx.sleep_waits duration rounds).mono fun _ => Waits.still

end Context

namespace Collector

theorem start_still (ctx : Context) (container : String) :
    Task.Only Still (start ctx container) := by
  refine Task.Only.bind ctx.check_still fun _ => ?_
  refine Task.Only.bind (Task.Only.mapError ⟨trivial, fun _ => trivial⟩) fun running => ?_
  dsimp only
  split
  · trivial
  · refine Task.Only.bind (Task.Only.mapError ⟨trivial, fun _ => trivial⟩) fun stream => ?_
    exact Task.Only.bind (Task.Only.lift (System.ask_still _)) fun _ => trivial

theorem stop_still (c : Collector) : Prog.Only Still c.stop := by
  unfold stop
  split
  · trivial
  · exact Prog.Only.bind (System.ask_still _) fun _ => trivial

end Collector

namespace Launch

theorem pollPort_still {pacing : Pacing} {ctx : Context} {name host : String}
    {hostPort containerPort : Port} {timeout : Duration} {started : Instant} (rounds : Nat) :
    Task.Only Still
      (pollPort pacing ctx name host hostPort containerPort timeout started rounds) := by
  induction rounds with
  | zero => trivial
  | succ rounds ih =>
    refine Task.Only.bind ctx.check_still fun _ => ?_
    refine Task.Only.bind ⟨trivial, fun _ => trivial⟩ fun ready => ?_
    split
    · trivial
    refine Task.Only.bind ⟨trivial, fun _ => trivial⟩ fun running => ?_
    split
    · trivial
    refine Task.Only.bind (Task.Only.lift (System.ask_still _)) fun now => ?_
    dsimp only
    split
    · trivial
    exact Task.Only.bind (ctx.sleep_still _ _) fun _ => ih

theorem waitForPort_still {pacing : Pacing} {ctx : Context} {name host : String}
    {hostPort containerPort : Port} {timeout : Duration} :
    Task.Only Still (waitForPort pacing ctx name host hostPort containerPort timeout) :=
  Task.Only.bind (Task.Only.lift (System.ask_still _)) fun _ => pollPort_still _

theorem collect_still (ctx : Context) (name : String) : Task.Only Still (collect ctx name) := by
  refine Task.Only.bind (Collector.start_still ctx name) fun c => ?_
  exact Task.Only.bind (Task.Only.lift (System.ask_still _)) fun _ => trivial

theorem collected_still (ctx : Context) (name : String) :
    Task.Only Still (some <$> collect ctx name) := by
  rw [map_eq_pure_bind]
  exact Task.Only.bind (collect_still ctx name) fun _ => trivial

/-- Nothing is started or removed while waiting. -/
theorem awaitReady_still (pacing : Pacing) (ctx : Context) (request : LaunchRequest) :
    Task.Only Still (awaitReady pacing ctx request) := by
  refine Task.Only.bind ⟨trivial, fun _ => trivial⟩ fun host => ?_
  refine Task.Only.bind ⟨trivial, fun _ => trivial⟩ fun port => ?_
  refine Task.Only.bind waitForPort_still fun _ => ?_
  dsimp only
  split
  · exact Task.Only.bind (collected_still _ _) fun _ => trivial
  · trivial

end Launch

theorem connect_still (address : Address) : Task.Only Still (connect address) :=
  Task.Only.mapError ⟨trivial, fun _ => trivial⟩

theorem containerExists_still (name : String) : Task.Only Still (containerExists name) := by
  refine Prog.Only.bind ⟨trivial, fun _ => trivial⟩ fun reply => ?_
  cases reply <;> trivial

/-! ## Removing -/

/-- What cleaning up asks for. -/
def Engine.Cleans : Engine.onSystem.Request → Prop
  | .inl (.remove _) | .inl (.removeNetwork _) | .inr (.notify _) | .inr (.sleep _)
  | .inr (.unfollow _) => True
  | _ => False

/-- What cleaning up asks for and is about no container. -/
def Engine.Aside : Engine.onSystem.Request → Prop
  | .inl (.remove _) => False
  | r => Cleans r

theorem Engine.Aside.cleans {r : Engine.onSystem.Request} (h : Aside r) : Cleans r := by
  obtain r | r := r
  · cases r <;> first | exact h | exact h.elim
  · exact h

/-- What closing a set asks for. -/
def Engine.Closes : Engine.onSystem.Request → Prop
  | .inl (.inspect _) => True
  | r => Cleans r

theorem Engine.Cleans.closes {r : Engine.onSystem.Request} (h : Cleans r) : Closes r := by
  obtain r | r := r
  · cases r <;> first | exact h | exact h.elim
  · exact h

theorem System.ask_aside (r : System.Request) (h : Engine.Aside (.inr r) := by trivial) :
    Prog.Finishes Engine.Aside (System.ask r : Action (System.Reply r)) :=
  Prog.finishes_request h

section Cleaning

open Engine (Cleans Aside)

open Prog (Finishes finishes_request)

/-- Apart from its container, a removal is about nothing that counts. -/
theorem removeWithin_finishes {P : Engine.onSystem.Request → Prop} {name : String}
    (remove : P (.inl (.remove name))) (aside : ∀ r, Aside r → P r) (backoff : Duration)
    (tries : Nat) : Finishes P (removeWithin backoff name tries) := by
  induction tries with
  | zero => exact finishes_request (aside _ trivial)
  | succ tries ih =>
    refine Finishes.bind (finishes_request remove) fun reply => ?_
    cases reply with
    | ok => trivial
    | error e =>
      dsimp only
      split
      · trivial
      · refine Finishes.bind (finishes_request (aside _ trivial)) fun _ => ?_
        split
        · exact Finishes.bind (finishes_request (aside _ trivial)) fun _ => ih
        · exact ih

theorem removeWithin_cleans (backoff : Duration) (name : String) (tries : Nat) :
    Prog.Only Cleans (removeWithin backoff name tries) :=
  (removeWithin_finishes trivial (fun _ => Aside.cleans) backoff tries).only

theorem Collector.stop_aside (c : Collector) : Finishes Aside c.stop := by
  unfold stop
  split
  · trivial
  · exact ⟨trivial, fun _ => trivial⟩

theorem Service.terminate_finishes (pacing : Pacing) (service : Service) :
    Finishes Cleans (service.terminate pacing) := by
  have removes : Finishes Cleans (removeForced pacing.retry service.name) :=
    removeWithin_finishes trivial (fun _ => Aside.cleans) _ _
  unfold Service.terminate
  split
  · trivial
  · cases service.collector with
    | none => exact Finishes.bind removes fun _ => trivial
    | some c =>
      have stops : Finishes Cleans (discard c.stop) :=
        Finishes.bind (c.stop_aside.mono fun _ => Aside.cleans) fun _ => trivial
      exact Finishes.bind stops fun _ => Finishes.bind removes fun _ => trivial

theorem Service.release_cleans (pacing : Pacing) (service : Service) :
    Prog.Only Cleans (service.release pacing) :=
  Prog.Only.bind (service.terminate_finishes pacing).only fun _ => trivial

theorem Network.remove_aside (network : Network) : Finishes Aside network.remove := by
  have removes : Finishes Aside (removeNetwork network.name) := by
    refine Finishes.bind (finishes_request trivial) fun reply => ?_
    cases reply with
    | ok => trivial
    | error e =>
      dsimp only
      split
      · exact finishes_request trivial
      · trivial
  unfold Network.remove
  split
  · trivial
  · exact Finishes.bind removes fun _ => trivial

theorem Network.remove_cleans (network : Network) : Prog.Only Cleans network.remove :=
  network.remove_aside.only.mono fun _ => Aside.cleans

/-- A network that a fixture may have of its own goes together with it. -/
theorem Network.mapM_remove_aside (network : Option Network) :
    Finishes Aside (network.mapM Network.remove) := by
  cases network with
  | none => trivial
  | some network => exact Finishes.bind network.remove_aside fun _ => trivial

end Cleaning

section Removing

variable {J : σ → Prop} {name : String} {s : σ}

/-- One try to remove a container; `J` has to survive the tries that may follow. -/
theorem removeWithin_succ_wp (hM : M.Ignores Still) {backoff : Duration} {tries : Nat}
    (first : M.allows s (.inl (.remove name)) ∧
      ∀ b, J (M.step s (Engine.event (.remove name) b)))
    (rest : ∀ s, J s → Prog.wp M (removeWithin backoff name tries) (fun _ => J) s) :
    Prog.wp M (removeWithin backoff name (tries + 1)) (fun _ => J) s := by
  refine Prog.wp_request_bind.2 ⟨first.1, fun b => ?_⟩
  have hb := first.2 b
  cases b with
  | ok => exact hb
  | error e =>
    dsimp only
    split
    · exact hb
    · apply Prog.Only.wp_seq (System.ask_still _) hM
      intro _
      -- A pause comes only before a further try.
      split
      · exact Prog.Only.wp_seq (System.ask_still _) hM fun _ => rest _ hb
      · exact rest _ hb

/-- What holds after the first try to remove a container and is kept by further tries, holds when
the container has been removed. -/
theorem removeForced_wp (hM : M.Ignores Still)
    (first : M.allows s (.inl (.remove name)) ∧
      ∀ b, J (M.step s (Engine.event (.remove name) b)))
    (again : ∀ s, J s → M.allows s (.inl (.remove name)) ∧
      ∀ b, J (M.step s (Engine.event (.remove name) b)))
    (retry : RetryPolicy) : Prog.wp M (removeForced retry name) (fun _ => J) s := by
  have rest : ∀ tries s, J s →
      Prog.wp M (removeWithin retry.backoff name tries) (fun _ => J) s := by
    intro tries
    induction tries with
    | zero =>
      intro s h
      exact Prog.Only.wp (System.ask_still _) hM fun _ => h
    | succ tries ih =>
      intro s h
      exact removeWithin_succ_wp hM (again s h) ih
  -- The first try is always made, so `J` need not hold before it.
  obtain ⟨tries, budget⟩ : ∃ tries, retry.budget = tries + 1 :=
    ⟨retry.budget - 1, by unfold RetryPolicy.budget; omega⟩
  rw [removeForced, budget]
  exact removeWithin_succ_wp hM first (rest tries)

end Removing

/-- What is left to do when a service is terminated, if nobody minds that its output is followed no
more. -/
theorem Service.terminate_wp_of_stop {P : Engine.onSystem.Request → Prop} (hM : M.Ignores P)
    (stop : ∀ c : Collector, Prog.Only P c.stop) {pacing : Pacing} {service : Service} {s : σ}
    {Q : Service → σ → Prop} (live : service.terminated = false)
    (h : Prog.wp M (removeForced pacing.retry service.name)
      (fun _ => Q { service with terminated := true, collector := none }) s) :
    Prog.wp M (service.terminate pacing) Q s := by
  unfold Service.terminate
  rw [live]
  cases service.collector with
  | none => exact Prog.wp_bind.2 h
  | some c =>
    have stopped : Prog.Only P (discard c.stop) := Prog.Only.bind (stop c) fun _ => trivial
    exact Prog.Only.wp_seq stopped hM fun _ => Prog.wp_bind.2 h

theorem Service.terminate_wp (hM : M.Ignores Still) {pacing : Pacing} {service : Service} {s : σ}
    {Q : Service → σ → Prop} (live : service.terminated = false)
    (h : Prog.wp M (removeForced pacing.retry service.name)
      (fun _ => Q { service with terminated := true, collector := none }) s) :
    Prog.wp M (service.terminate pacing) Q s :=
  terminate_wp_of_stop hM Collector.stop_still live h

/-! ## Networks -/

namespace Network

/-- Creating a network asks whether it exists, and creates it if it does not. -/
theorem create_wp (hM : M.Ignores Still) {ctx : Context} {name : String} {s : σ}
    {Q : Network → σ → Prop} {E : Error → σ → Prop}
    (asks : M.allows s (.inl (.networkExists name)))
    (unknown : ∀ e, E (wrapError name e)
      (M.step s (Engine.event (.networkExists name) (.error e))))
    (adopted : Q { name } (M.step s (Engine.event (.networkExists name) (.ok true))))
    (absent : ∀ now, Task.wp M
      (Engine.createNetwork (ctx.expiringAt now createTimeout) (.bridge name))
      (fun _ => Q { name }) (fun e => E (wrapError name e))
      (M.step s (Engine.event (.networkExists name) (.ok false)))) :
    Task.wp M (create ctx name) Q E s := by
  refine Task.wp_mapError.2 (Task.wp_bind.2 (Engine.networkExists_wp.2 ⟨asks, ?_, unknown⟩))
  intro known
  cases known with
  | true => exact adopted
  | false =>
    refine Task.wp_bind.2 (Task.wp_lift.2 ?_)
    apply Prog.Only.wp_seq (System.ask_still .now) hM
    intro now
    exact Task.wp_bind.2 (absent now)

/-- A network is told to go once, whatever comes of it. -/
theorem remove_wp (hM : M.Ignores Still) {network : Network} {s : σ} {Q : Network → σ → Prop}
    (live : network.removed = false) (asks : M.allows s (.inl (.removeNetwork network.name)))
    (h : ∀ b, Q { network with removed := true }
      (M.step s (Engine.event (.removeNetwork network.name) b))) :
    Prog.wp M network.remove Q s := by
  unfold remove
  rw [live]
  refine Prog.wp_bind.2 (Prog.wp_request_bind.2 ⟨asks, fun b => ?_⟩)
  have hb := h b
  cases b with
  | ok => exact hb
  | error e =>
    dsimp only
    split
    · exact Prog.Only.wp (System.ask_still _) hM fun _ => hb
    · exact hb

end Network

/-! ## Launching -/

/-- The service that a launch returns is still to be terminated. -/
structure Service.Serves (service : Service) (request : LaunchRequest) : Prop where
  name : service.name = request.spec.name
  live : service.terminated = false

theorem Launch.awaitReady_wp (hM : M.Ignores Still) {pacing : Pacing} {ctx : Context}
    {request : LaunchRequest} {s : σ} {Q : Service → σ → Prop} {E : Error → σ → Prop}
    (ready : ∀ service, service.Serves request → Q service s) (failed : ∀ e, E e s) :
    Task.wp M (awaitReady pacing ctx request) Q E s := by
  -- Nothing is started or removed while waiting, so each failure finds the state as it was.
  refine Task.Only.wp_seq ⟨trivial, fun _ => trivial⟩ hM ?_ failed
  intro host
  refine Task.Only.wp_seq ⟨trivial, fun _ => trivial⟩ hM ?_ failed
  intro port
  refine Task.Only.wp_seq waitForPort_still hM ?_ failed
  intro _
  dsimp only
  split
  · exact Task.Only.wp_seq (collected_still _ _) hM (fun _ => ready _ ⟨rfl, rfl⟩) failed
  · exact ready _ ⟨rfl, rfl⟩

/-- Either the container is refused, or it runs; if it does not get ready, it is removed. -/
theorem launch_wp (hM : M.Ignores Still) {pacing : Pacing} {ctx : Context}
    {request : LaunchRequest} {s : σ} {Q : Service → σ → Prop} {E : Error → σ → Prop}
    (asks : M.allows s (.inl (.run ctx request.spec)))
    (refused : ∀ e, E e (M.step s (Engine.event (.run ctx request.spec) (.error e))))
    (ready : ∀ service, service.Serves request →
      Q service (M.step s (Engine.event (.run ctx request.spec) (.ok ()))))
    (failed : ∀ e, Prog.wp M (removeForced pacing.retry request.spec.name) (fun _ => E e)
      (M.step s (Engine.event (.run ctx request.spec) (.ok ())))) :
    Task.wp M (launch pacing ctx request) Q E s := by
  refine Task.wp_bind.2 (Task.wp_onFailure.2 (Engine.run_wp.2 ⟨asks, ?_, ?_⟩))
  · intro _
    refine Task.wp_onFailure.2 (Launch.awaitReady_wp hM ready ?_)
    intro e
    exact Prog.Only.wp_seq (System.ask_still _) hM fun _ => failed e
  · intro e
    exact Prog.Only.wp (System.ask_still _) hM fun _ => refused e

end Testbed
