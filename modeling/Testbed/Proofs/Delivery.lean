import Testbed.Log.Pump

/-!
# Delivery of log records

What the consumer of a pump has received and what waits in the channel is always a beginning of what
the stream has produced, in whatever order the stream, the worker, the consumer and whoever stops
the pump make their moves. Nothing is sent once the worker has seen the stop flag. If nobody stops
the pump or gives up the channel, all records arrive once the stream has ended, as long as the
worker and the consumer get their turns.
-/

namespace Testbed

/-- The record that the worker holds, if it holds one. -/
def Worker.inHand : Worker → List LogRecord
  | holding record | sending record => [record]
  | _ => []

/-- How many moves a worker is away from having sent what it holds or is to read. -/
def Worker.distance : Worker → Nat
  | absent => 4
  | reading => 3
  | holding _ => 2
  | sending _ => 1
  | exited => 0

namespace Pump

variable {p q : Pump} {move : Move} {moves : List Move} {all : List LogRecord}

/-! ## Steps -/

/-- What each move does, and when. -/
inductive Step (p : Pump) : Move → Pump → Prop
  | produce {record : LogRecord} (opened : p.isOpen) :
    Step p (.produce record) { p with upcoming := p.upcoming ++ [record] }
  | finish : Step p .finish { p with ended := true }
  | start (absent : p.worker = .absent) : Step p .start { p with worker := .reading }
  | read {record : LogRecord} {rest : List LogRecord} (reading : p.worker = .reading)
      (upcoming : p.upcoming = record :: rest) :
    Step p .read { p with upcoming := rest, worker := .holding record }
  | readEnd (reading : p.worker = .reading) (upcoming : p.upcoming = []) (ended : p.ended) :
    Step p .read { p with worker := .exited }
  | proceed {record : LogRecord} (holding : p.worker = .holding record)
      (untold : p.stopRequested = false) : Step p .check { p with worker := .sending record }
  | heed {record : LogRecord} (holding : p.worker = .holding record) (told : p.stopRequested) :
    Step p .check { p with worker := .exited }
  | send {record : LogRecord} (sending : p.worker = .sending record) (kept : p.abandoned = false)
      (room : p.channel.length < capacity) :
    Step p .send { p with worker := .reading, channel := p.channel ++ [record] }
  | sendFull {record : LogRecord} (sending : p.worker = .sending record)
      (kept : p.abandoned = false) (full : p.isFull) :
    Step p .send { p with worker := .holding record }
  | sendAbandoned {record : LogRecord} (sending : p.worker = .sending record)
      (abandoned : p.abandoned) : Step p .send { p with worker := .exited }
  | receive {record : LogRecord} {rest : List LogRecord} (kept : p.abandoned = false)
      (channel : p.channel = record :: rest) :
    Step p .receive { p with channel := rest, received := p.received ++ [record] }
  | abandon : Step p .abandon { p with abandoned := true, channel := [] }
  | stop : Step p .stop { p with stopRequested := true }

theorem step_of_step? (h : p.step? move = some q) : p.Step move q := by
  cases move with
  | produce record =>
    obtain ⟨opened, ⟨⟩⟩ := Option.ite_none_right_eq_some.1 h
    exact .produce opened
  | finish => cases h; exact .finish
  | start =>
    obtain ⟨absent, ⟨⟩⟩ := Option.ite_none_right_eq_some.1 h
    exact .start absent
  | read =>
    obtain ⟨reading, h⟩ := Option.ite_none_right_eq_some.1 h
    unfold Pump.read at h
    split at h
    · next upcoming => cases h; exact .read reading upcoming
    · next upcoming =>
      obtain ⟨ended, ⟨⟩⟩ := Option.ite_none_right_eq_some.1 h
      exact .readEnd reading upcoming ended
  | check =>
    simp only [step?] at h
    split at h
    · next record holding =>
      cases h
      unfold Pump.check
      split
      · next told => exact .heed holding told
      · next untold => exact .proceed holding (Bool.eq_false_iff.2 untold)
    · cases h
  | send =>
    simp only [step?] at h
    split at h
    · next record sending =>
      cases h
      unfold Pump.send
      split
      · next abandoned => exact .sendAbandoned sending abandoned
      · next kept =>
        have kept : p.abandoned = false := Bool.eq_false_iff.2 kept
        split
        · next full => exact .sendFull sending kept full
        · next room => exact .send sending kept (by simpa [isFull] using room)
    · cases h
  | receive =>
    obtain ⟨kept, h⟩ := Option.ite_none_left_eq_some.1 h
    unfold Pump.receive at h
    split at h
    · next channel => cases h; exact .receive (Bool.eq_false_iff.2 kept) channel
    · cases h
  | abandon => cases h; exact .abandon
  | stop => cases h; exact .stop

theorem Run.append {r : Pump} {more : List Move} (h : Run p moves q) (h' : Run q more r) :
    Run p (moves ++ more) r := by
  induction h with
  | refl => exact h'
  | step first _ ih => exact .step first (ih h')

/-! ## No record is lost, doubled or out of order -/

/-- `p` is a pump whose stream has produced `all`. -/
structure Accounts (p : Pump) (all : List LogRecord) : Prop where
  arrived : p.received ++ p.channel <+: all
  /-- All records are somewhere, as long as the consumer is there and the worker has not been told
  to stop. -/
  whole : p.abandoned = false → (p.worker = .exited → p.stopRequested = false) →
    p.received ++ p.channel ++ p.worker.inHand ++ p.upcoming = all
  /-- A worker that exits of its own accord has read the stream to its end. -/
  drained : p.worker = .exited → p.abandoned = false → p.stopRequested = false →
    p.ended = true ∧ p.upcoming = []
  bounded : p.channel.length ≤ capacity

theorem Accounts.opened (records : List LogRecord) (ended : Bool) :
    Accounts { upcoming := records, ended } records where
  arrived := List.nil_prefix
  whole _ _ := rfl
  drained := nofun
  bounded := Nat.zero_le _

/-- All records are somewhere while the worker goes on. -/
theorem Accounts.working (h : p.Accounts all) (kept : p.abandoned = false)
    (works : p.worker ≠ .exited) :
    p.received ++ p.channel ++ p.worker.inHand ++ p.upcoming = all :=
  h.whole kept fun exited => absurd exited works

/-- Each move keeps account of the records. -/
theorem Accounts.step (h : p.Accounts all) (step : p.Step move q) :
    q.Accounts (all ++ produced [move]) := by
  -- Only one move produces a record.
  have quiet (account : q.Accounts all) (silent : produced [move] = []) :
      q.Accounts (all ++ produced [move]) := by
    rwa [silent, List.append_nil]
  cases step with
  | @produce record opened =>
    have works : p.worker ≠ .exited := by
      rintro exited
      simp [isOpen, exited] at opened
    refine ⟨h.arrived.trans (List.prefix_append _ _), fun kept _ => ?_,
      fun exited => absurd exited works, h.bounded⟩
    rw [← h.working kept works]
    exact (List.append_assoc ..).symm
  | finish =>
    refine quiet ⟨h.arrived, h.whole, fun exited kept untold => ⟨rfl, ?_⟩, h.bounded⟩ rfl
    exact (h.drained exited kept untold).2
  | start absent =>
    refine quiet ⟨h.arrived, fun kept _ => ?_, nofun, h.bounded⟩ rfl
    rw [← h.working kept (by simp [absent]), absent]
    rfl
  | read reading upcoming =>
    refine quiet ⟨h.arrived, fun kept _ => ?_, nofun, h.bounded⟩ rfl
    rw [← h.working kept (by simp [reading]), reading, upcoming]
    simp [Worker.inHand]
  | readEnd reading upcoming ended =>
    refine quiet ⟨h.arrived, fun kept _ => ?_, fun _ _ _ => ⟨ended, upcoming⟩, h.bounded⟩ rfl
    rw [← h.working kept (by simp [reading]), reading]
    rfl
  | proceed holding untold =>
    refine quiet ⟨h.arrived, fun kept _ => ?_, nofun, h.bounded⟩ rfl
    rw [← h.working kept (by simp [holding]), holding]
    rfl
  | heed holding told =>
    refine quiet ⟨h.arrived, fun _ untold => ?_, fun _ _ untold => ?_, h.bounded⟩ rfl
    · exact absurd (untold rfl) (by simp [told])
    · exact absurd untold (by simp [told])
  | @send record sending kept room =>
    have whole : p.received ++ (p.channel ++ [record]) ++ p.upcoming = all := by
      rw [← h.working kept (by simp [sending]), sending]
      simp [Worker.inHand]
    refine quiet ⟨⟨p.upcoming, whole⟩, fun _ _ => ?_, nofun, ?_⟩ rfl
    · rw [← whole]
      simp [Worker.inHand]
    · rw [List.length_append]
      exact room
  | sendFull sending kept full =>
    refine quiet ⟨h.arrived, fun _ _ => ?_, nofun, h.bounded⟩ rfl
    rw [← h.working kept (by simp [sending]), sending]
    rfl
  | sendAbandoned sending abandoned =>
    refine quiet ⟨h.arrived, fun kept => ?_, fun _ kept => ?_, h.bounded⟩ rfl <;>
      exact absurd kept (by simp [abandoned])
  | @receive record rest kept channel =>
    have moved : p.received ++ [record] ++ rest = p.received ++ p.channel := by simp [channel]
    refine quiet ⟨moved ▸ h.arrived, fun kept told => ?_, h.drained, ?_⟩ rfl
    · rw [moved]
      exact h.whole kept told
    · have bounded := h.bounded
      rw [channel, List.length_cons] at bounded
      exact Nat.le_of_succ_le bounded
  | abandon =>
    refine quiet ⟨?_, nofun, nofun, Nat.zero_le _⟩ rfl
    rw [List.append_nil]
    exact (List.prefix_append _ _).trans h.arrived
  | stop =>
    refine quiet ⟨h.arrived, fun kept untold => ?_, nofun, h.bounded⟩ rfl
    exact h.working kept fun exited => nomatch untold exited

theorem Accounts.run (h : p.Accounts all) (hrun : Run p moves q) :
    q.Accounts (all ++ produced moves) := by
  induction hrun generalizing all with
  | refl => simpa [produced] using h
  | @step _ _ _ move moves first _ ih =>
    have whole : produced (move :: moves) = produced [move] ++ produced moves :=
      List.filterMap_append (l := [move])
    rw [whole, ← List.append_assoc]
    exact ih (h.step (step_of_step? first))

/-! ## After the stop flag was seen -/

/-- A worker that has exited sends nothing more. -/
theorem Step.exited (step : p.Step move q) (exited : p.worker = .exited) :
    q.worker = .exited ∧ move ≠ .send ∧ q.channel <:+ p.channel ∧
      q.received ++ q.channel <+: p.received ++ p.channel := by
  have stays (silent : move ≠ .send) (worker : q.worker = p.worker)
      (channel : q.channel = p.channel) (received : q.received = p.received) :
      q.worker = .exited ∧ move ≠ .send ∧ q.channel <:+ p.channel ∧
        q.received ++ q.channel <+: p.received ++ p.channel := by
    rw [worker, channel, received]
    exact ⟨exited, silent, List.suffix_refl _, List.prefix_refl _⟩
  cases step with
  | produce opened => simp [isOpen, exited] at opened
  | finish | stop => exact stays nofun rfl rfl rfl
  | @receive record rest kept channel =>
    rw [channel]
    exact ⟨exited, nofun, List.suffix_cons _ _, by simp⟩
  | abandon => exact ⟨exited, nofun, List.nil_suffix, by simp⟩
  | start mismatch | read mismatch | readEnd mismatch | proceed mismatch | heed mismatch
  | send mismatch | sendFull mismatch | sendAbandoned mismatch => simp [exited] at mismatch

theorem Run.exited (h : Run p moves q) (exited : p.worker = .exited) :
    .send ∉ moves ∧ q.channel <:+ p.channel ∧
      q.received ++ q.channel <+: p.received ++ p.channel := by
  induction h with
  | refl => simp
  | step first _ ih =>
    obtain ⟨exited, silent, channel, arrived⟩ := (step_of_step? first).exited exited
    obtain ⟨silent', channel', arrived'⟩ := ih exited
    refine ⟨?_, channel'.trans channel, arrived'.trans arrived⟩
    exact List.not_mem_cons_of_ne_of_not_mem silent.symm silent'

/-- Once the worker has found the stop flag set, nothing enters the channel. -/
theorem Run.heeded (h : Run p (.check :: moves) q) (told : p.stopRequested) :
    .send ∉ moves ∧ q.channel <:+ p.channel ∧
      q.received ++ q.channel <+: p.received ++ p.channel := by
  cases h with
  | step first rest =>
    cases step_of_step? first with
    | proceed holding untold => simp [told] at untold
    | heed holding told => exact rest.exited rfl

/-! ## Pumps that nobody interferes with -/

/-- Nobody has stopped the pump, and the consumer has not given up its end of the channel. -/
structure Undisturbed (p : Pump) : Prop where
  untold : p.stopRequested = false
  kept : p.abandoned = false

theorem Step.stopRequested_eq (step : p.Step move q) (stop : move ≠ .stop) :
    q.stopRequested = p.stopRequested := by
  cases step with
  | stop => exact absurd rfl stop
  | _ => rfl

theorem Step.abandoned_eq (step : p.Step move q) (abandon : move ≠ .abandon) :
    q.abandoned = p.abandoned := by
  cases step with
  | abandon => exact absurd rfl abandon
  | _ => rfl

theorem Run.stopRequested_eq (h : Run p moves q) (stop : .stop ∉ moves) :
    q.stopRequested = p.stopRequested := by
  induction h with
  | refl => rfl
  | step first _ ih =>
    obtain ⟨other, rest⟩ := List.ne_and_not_mem_of_not_mem_cons stop
    exact (ih rest).trans ((step_of_step? first).stopRequested_eq other.symm)

theorem Run.abandoned_eq (h : Run p moves q) (abandon : .abandon ∉ moves) :
    q.abandoned = p.abandoned := by
  induction h with
  | refl => rfl
  | step first _ ih =>
    obtain ⟨other, rest⟩ := List.ne_and_not_mem_of_not_mem_cons abandon
    exact (ih rest).trans ((step_of_step? first).abandoned_eq other.symm)

theorem Run.undisturbed (hrun : Run p moves q) (h : p.Undisturbed) (stop : .stop ∉ moves)
    (abandon : .abandon ∉ moves) : q.Undisturbed where
  untold := (hrun.stopRequested_eq stop).trans h.untold
  kept := (hrun.abandoned_eq abandon).trans h.kept

/-- When the worker of such a pump has exited, all records have been received or wait in the
channel. -/
theorem Accounts.delivered (h : p.Accounts all) (undisturbed : p.Undisturbed)
    (exited : p.worker = .exited) : p.received ++ p.channel = all := by
  obtain ⟨-, upcoming⟩ := h.drained exited undisturbed.kept undisturbed.untold
  simpa [exited, upcoming, Worker.inHand] using h.whole undisturbed.kept fun _ => undisturbed.untold

/-! ## Endless runs -/

/-- A run that never ends: the moves that are made, and the pump before each of them. -/
structure EndlessRun (p : Pump) where
  move : Nat → Move
  state : Nat → Pump
  begins : state 0 = p
  goesOn : ∀ n, (state n).step? (move n) = some (state (n + 1))

namespace EndlessRun

variable (run : EndlessRun p)

/-- The moves before the one with number `n`. -/
def before (n : Nat) : List Move := (List.range n).map run.move

/-- Whoever makes the moves `mine` gets a turn again and again: makes one of these moves, or has
none to make. -/
def GetsTurns (mine : Move → Prop) : Prop :=
  ∀ n, ∃ m ≥ n, mine (run.move m) ∨ ∀ move, mine move → (run.state m).step? move = none

end EndlessRun

/-- The moves of the worker. -/
def Move.ByWorker (move : Move) : Prop :=
  move = .start ∨ move = .read ∨ move = .check ∨ move = .send

/-- Neither the worker nor the consumer waits forever for a turn. -/
structure EndlessRun.Fair (run : EndlessRun p) : Prop where
  worker : run.GetsTurns Move.ByWorker
  consumer : run.GetsTurns (· = .receive)

theorem EndlessRun.run_before (run : EndlessRun p) (n : Nat) :
    Run p (run.before n) (run.state n) := by
  induction n with
  | zero =>
    rw [run.begins]
    exact .refl p
  | succ n ih =>
    rw [before, List.range_succ, List.map_append]
    exact ih.append (.step (run.goesOn n) (.refl _))

/-! ### What is left to do -/

/-- Goes down with each record that is received, and while the channel is empty, with each move of
the worker. A full channel lets the worker try in vain, so its moves count for nothing before the
consumer has emptied the channel. -/
def pending (p : Pump) : Nat :=
  5 * (p.channel.length + p.worker.inHand.length + p.upcoming.length) +
    if p.channel = [] then p.worker.distance else 0

/-- A move that receives a record, or one of the worker while the channel is empty. -/
def Helps (p : Pump) (move : Move) : Prop :=
  move = .receive ∨ move.ByWorker ∧ p.channel = []

/-- The worker gets nearer to sending and leaves the channel alone. -/
theorem pending_nearer {worker : Worker} {upcoming : List LogRecord}
    (count : worker.inHand.length + upcoming.length ≤ p.worker.inHand.length + p.upcoming.length)
    (nearer : worker.distance < p.worker.distance) :
    let q := { p with worker, upcoming }
    q.pending ≤ p.pending ∧ (p.channel = [] → q.pending < p.pending) := by
  unfold pending
  constructor
  · dsimp only
    split <;> omega
  · intro empty
    simp only [empty, if_true, List.length_nil]
    omega

theorem channel_ne_nil_of_isFull (full : p.isFull) : p.channel ≠ [] := by
  intro empty
  simp [isFull, empty, capacity] at full

/-- Once the stream has ended, no move makes more of what is left to do, unless the consumer gives
up its end of the channel. -/
theorem Step.pending (step : p.Step move q) (ended : p.ended) (stays : move ≠ .abandon) :
    q.pending ≤ p.pending ∧ (p.Helps move → q.pending < p.pending) := by
  -- What the worker does by itself helps while the channel is empty.
  have alone (work : move ≠ .receive)
      (nearer : q.pending ≤ p.pending ∧ (p.channel = [] → q.pending < p.pending)) :
      q.pending ≤ p.pending ∧ (p.Helps move → q.pending < p.pending) :=
    nearer.imp_right fun below helps => below (helps.resolve_left work).2
  cases step with
  | produce opened => simp [isOpen, ended] at opened
  | abandon => exact absurd rfl stays
  | finish | stop =>
    refine ⟨Nat.le_refl _, ?_⟩
    rintro (receives | ⟨works, -⟩)
    · cases receives
    · simp [Move.ByWorker] at works
  | start absent =>
    refine alone nofun (pending_nearer ?_ ?_) <;> simp [absent, Worker.inHand, Worker.distance]
  | read reading upcoming =>
    refine alone nofun (pending_nearer ?_ ?_) <;>
      simp [reading, upcoming, Worker.inHand, Worker.distance, Nat.add_comm]
  | readEnd reading upcoming ended =>
    refine alone nofun (pending_nearer ?_ ?_) <;> simp [reading, Worker.inHand, Worker.distance]
  | proceed holding untold | heed holding told =>
    refine alone nofun (pending_nearer ?_ ?_) <;> simp [holding, Worker.inHand, Worker.distance]
  | sendAbandoned sending abandoned =>
    refine alone nofun (pending_nearer ?_ ?_) <;> simp [sending, Worker.inHand, Worker.distance]
  | send sending kept room =>
    refine alone nofun ⟨?_, fun empty => ?_⟩
    · simp [Pump.pending, sending, Worker.inHand]
    · simp [Pump.pending, sending, Worker.inHand, Worker.distance, empty]
  | sendFull sending kept full =>
    have busy := channel_ne_nil_of_isFull full
    refine alone nofun ⟨?_, fun empty => absurd empty busy⟩
    simp [Pump.pending, sending, Worker.inHand, busy]
  | @receive record rest kept channel =>
    have near : p.worker.distance ≤ 4 := by cases p.worker <;> simp [Worker.distance]
    have less : Pump.pending { p with channel := rest, received := p.received ++ [record] } <
        p.pending := by
      simp only [Pump.pending, channel, List.length_cons, reduceCtorEq, if_false]
      split <;> omega
    exact ⟨Nat.le_of_lt less, fun _ => less⟩

theorem Step.ended (step : p.Step move q) (ended : p.ended) : q.ended := by
  cases step with
  | finish => rfl
  | _ => exact ended

/-- A worker that has not exited can make a move when the stream has ended. -/
theorem exists_work (ended : p.ended) (works : p.worker ≠ .exited) :
    ∃ move, move.ByWorker ∧ p.step? move ≠ none := by
  cases worker : p.worker with
  | absent => exact ⟨.start, .inl rfl, by simp [step?, worker]⟩
  | reading =>
    refine ⟨.read, .inr (.inl rfl), ?_⟩
    simp only [step?, worker, Pump.read, if_true]
    split <;> simp [ended]
  | holding record => exact ⟨.check, .inr (.inr (.inl rfl)), by simp [step?, worker]⟩
  | sending record => exact ⟨.send, .inr (.inr (.inr rfl)), by simp [step?, worker]⟩
  | exited => exact absurd worker works

/-- The worker has exited and all records have been received. -/
theorem Accounts.finished (h : p.Accounts all) (undisturbed : p.Undisturbed)
    (nothing : p.pending = 0) : p.isClosed ∧ p.received = all := by
  have empty : p.channel = [] := by
    refine List.eq_nil_of_length_eq_zero ?_
    unfold pending at nothing
    omega
  have exited : p.worker = .exited := by
    simp only [pending, empty, if_true] at nothing
    cases worker : p.worker <;> simp [worker, Worker.distance] at nothing ⊢
  refine ⟨by simp [isClosed, exited, empty], ?_⟩
  simpa [empty] using h.delivered undisturbed exited

/-- A worker that has exited leaves nothing to be done once the channel is empty. -/
theorem Accounts.pending_eq_zero (h : p.Accounts all) (undisturbed : p.Undisturbed)
    (exited : p.worker = .exited) (empty : p.channel = []) : p.pending = 0 := by
  obtain ⟨-, upcoming⟩ := h.drained exited undisturbed.kept undisturbed.untold
  simp [pending, exited, upcoming, empty, Worker.inHand, Worker.distance]

/-- The worker's moves are counted below five, so two pumps with as much left to do differ in
whether the channel is empty only if the worker has exited. -/
theorem exited_of_pending_eq (same : p.pending = q.pending) (empty : p.channel = [])
    (busy : q.channel ≠ []) : p.worker = .exited := by
  simp only [pending, empty, busy, if_true, if_false] at same
  cases worker : p.worker with
  | exited => rfl
  | _ =>
    simp only [worker, Worker.distance] at same
    omega

/-! ### Everything arrives -/

namespace EndlessRun

variable {run : EndlessRun p} {records : List LogRecord}

theorem stepAt (run : EndlessRun p) (n : Nat) :
    (run.state n).Step (run.move n) (run.state (n + 1)) :=
  step_of_step? (run.goesOn n)

theorem ended_of_le {n m : Nat} (le : n ≤ m) (ended : (run.state n).ended) :
    (run.state m).ended := by
  induction le with
  | refl => exact ended
  | @step m _ ih => exact (run.stepAt m).ended ih

section Quiet

variable (stop : ∀ n, run.move n ≠ .stop) (abandon : ∀ n, run.move n ≠ .abandon)

include abandon in
theorem pending_le {n m : Nat} (le : n ≤ m) (ended : (run.state n).ended) :
    (run.state m).pending ≤ (run.state n).pending := by
  induction le with
  | refl => exact Nat.le_refl _
  | @step m le ih =>
    exact Nat.le_trans ((run.stepAt m).pending (ended_of_le le ended) (abandon m)).1 ih

variable (accounts : p.Accounts records) (undisturbed : p.Undisturbed)

include stop abandon undisturbed in
theorem undisturbed_at (n : Nat) : (run.state n).Undisturbed := by
  refine (run.run_before n).undisturbed undisturbed ?_ ?_ <;>
    simp [before, stop, abandon]

include stop abandon undisturbed accounts in
/-- Something is done some time, as long as there is something left to do. -/
theorem exists_pending_lt (fair : run.Fair) {n : Nat} (ended : (run.state n).ended)
    (some : (run.state n).pending ≠ 0) :
    ∃ m ≥ n, (run.state m).pending < (run.state n).pending := by
  refine Classical.byContradiction fun none => ?_
  have same (m : Nat) (later : m ≥ n) : (run.state m).pending = (run.state n).pending := by
    refine Nat.le_antisymm (pending_le abandon later ended) (Nat.le_of_not_lt fun less => ?_)
    exact none ⟨m, later, less⟩
  have undisturbed (m : Nat) := undisturbed_at stop abandon undisturbed m
  -- Nobody makes a move that helps.
  have idle (m : Nat) (later : m ≥ n) : ¬ (run.state m).Helps (run.move m) := by
    intro helps
    have less := ((run.stepAt m).pending (ended_of_le later ended) (abandon m)).2 helps
    rw [same m later, same (m + 1) (by omega)] at less
    exact Nat.lt_irrefl _ less
  have works (m : Nat) (later : m ≥ n) (empty : (run.state m).channel = []) :
      (run.state m).worker ≠ .exited := by
    intro exited
    have nothing := (accounts.run (run.run_before m)).pending_eq_zero (undisturbed m) exited empty
    exact some ((same m later).symm.trans nothing)
  by_cases empty : (run.state n).channel = []
  · -- It is the worker's turn.
    obtain ⟨m, later, turn⟩ := fair.worker n
    have empty' : (run.state m).channel = [] := by
      refine Classical.byContradiction fun busy => ?_
      exact works n (Nat.le_refl n) empty (exited_of_pending_eq (same m later).symm empty busy)
    rcases turn with works' | none
    · exact idle m later (.inr ⟨works', empty'⟩)
    · obtain ⟨move, mine, possible⟩ := exists_work (ended_of_le later ended) (works m later empty')
      exact possible (none move mine)
  · -- It is the consumer's turn.
    obtain ⟨m, later, turn⟩ := fair.consumer n
    rcases turn with receives | none
    · exact idle m later (.inl receives)
    · have empty' : (run.state m).channel = [] := by
        have none := none .receive rfl
        cases channel : (run.state m).channel with
        | nil => rfl
        | cons record rest => simp [step?, (undisturbed m).kept, Pump.receive, channel] at none
      exact works m later empty' (exited_of_pending_eq (same m later) empty' empty)

include stop abandon undisturbed accounts in
theorem exists_pending_eq_zero (fair : run.Fair) {n : Nat} (ended : (run.state n).ended) :
    ∃ m ≥ n, (run.state m).pending = 0 := by
  generalize left : (run.state n).pending = k
  induction k using Nat.strongRecOn generalizing n with
  | ind k ih =>
    by_cases nothing : k = 0
    · exact ⟨n, Nat.le_refl n, left.trans nothing⟩
    · obtain ⟨m, later, less⟩ :=
        exists_pending_lt stop abandon accounts undisturbed fair ended (left ▸ nothing)
      obtain ⟨m', later', zero⟩ := ih _ (left ▸ less) (ended_of_le later ended) rfl
      exact ⟨m', Nat.le_trans later later', zero⟩

include stop abandon undisturbed accounts in
/-- Once the stream has ended, everything it has produced is received some time. -/
theorem eventually_received (fair : run.Fair) {n : Nat} (ended : (run.state n).ended) :
    ∃ m, ∀ k ≥ m, (run.state k).isClosed ∧
      (run.state k).received = records ++ produced (run.before k) := by
  obtain ⟨m, later, nothing⟩ :=
    exists_pending_eq_zero stop abandon accounts undisturbed fair ended
  refine ⟨m, fun k le => ?_⟩
  have nothing : (run.state k).pending = 0 :=
    Nat.le_zero.1 (nothing ▸ pending_le abandon le (ended_of_le later ended))
  exact (accounts.run (run.run_before k)).finished (undisturbed_at stop abandon undisturbed k)
    nothing

end Quiet

end EndlessRun

/-! ## The worker by itself -/

theorem workerMove?_byWorker (h : p.workerMove? = some move) : move.ByWorker := by
  unfold workerMove? at h
  split at h
  · cases h
  · cases h
  · obtain ⟨-, ⟨⟩⟩ := Option.ite_none_left_eq_some.1 h
    exact .inr (.inl rfl)
  · obtain ⟨-, ⟨⟩⟩ := Option.ite_none_left_eq_some.1 h
    exact .inr (.inr (.inl rfl))
  · cases h
    exact .inr (.inr (.inr rfl))

/-- What the worker does by itself is a run. -/
theorem work_run (p : Pump) (n : Nat) :
    ∃ moves, (∀ move ∈ moves, move.ByWorker) ∧ Run p moves (p.work n) := by
  induction n generalizing p with
  | zero => exact ⟨[], List.forall_mem_nil _, .refl p⟩
  | succ n ih =>
    unfold work
    split
    · next q moved =>
      obtain ⟨move, mine, first⟩ := Option.bind_eq_some_iff.1 moved
      obtain ⟨moves, all, rest⟩ := ih q
      exact ⟨move :: moves, List.forall_mem_cons.2 ⟨workerMove?_byWorker mine, all⟩,
        .step first rest⟩
    · exact ⟨[], List.forall_mem_nil _, .refl p⟩

/-- So is what the worker does for a consumer that takes one record after the other. -/
theorem take_run (p : Pump) (kept : p.abandoned = false) (count : Nat) :
    ∃ moves, (∀ move ∈ moves, move.ByWorker ∨ move = .receive) ∧ Run p moves (p.take count) := by
  induction count generalizing p with
  | zero => exact ⟨[], List.forall_mem_nil _, .refl p⟩
  | succ count ih =>
    obtain ⟨works, all, settles⟩ := p.work_run (3 * p.upcoming.length + 4)
    have works_only : ∀ move ∈ works, move.ByWorker ∨ move = .receive :=
      fun move hmem => .inl (all move hmem)
    have kept' : p.settle.abandoned = false := by
      refine (settles.abandoned_eq fun hmem => ?_).trans kept
      simpa [Move.ByWorker] using all _ hmem
    unfold take
    split
    · next q received =>
      have step : p.settle.step? .receive = some q := by simpa [step?, kept'] using received
      have kept'' : q.abandoned = false :=
        ((step_of_step? step).abandoned_eq nofun).trans kept'
      obtain ⟨moves, rest_only, rest⟩ := ih q kept''
      refine ⟨works ++ .receive :: moves, ?_, settles.append (.step step rest)⟩
      exact List.forall_mem_append.2 ⟨works_only, List.forall_mem_cons.2 ⟨.inr rfl, rest_only⟩⟩
    · exact ⟨works, works_only, settles⟩

/-! ## Delivery -/

/-- What a consumer has received and what waits for it in the channel is a beginning of what the
stream has produced, and the channel never holds more than 256 records. When the worker exits though
nobody has stopped the pump or given up the channel, nothing is missing. Once the worker has found
the stop flag set, nothing enters the channel. And if nobody interferes and the stream ends, the
consumer gets everything and is then told that there is no more, provided that neither it nor the
worker waits forever for a turn. -/
theorem records_arrive_in_order (records : List LogRecord) (ended : Bool) :
    (∀ moves p, Run { upcoming := records, ended } moves p →
      p.received ++ p.channel <+: records ++ produced moves ∧ p.channel.length ≤ 256 ∧
      (.stop ∉ moves → .abandon ∉ moves → p.worker = .exited →
        p.received ++ p.channel = records ++ produced moves)) ∧
    (∀ moves p later q, Run { upcoming := records, ended } moves p → p.stopRequested →
      Run p (.check :: later) q →
      .send ∉ later ∧ q.channel <:+ p.channel ∧
        q.received ++ q.channel <+: p.received ++ p.channel) ∧
    (∀ run : EndlessRun { upcoming := records, ended }, run.Fair →
      (∀ n, run.move n ≠ .stop) → (∀ n, run.move n ≠ .abandon) →
      ∀ n, (run.state n).ended →
        ∃ m, ∀ k ≥ m, (run.state k).isClosed ∧
          (run.state k).received = records ++ produced (run.before k)) := by
  have accounts := Accounts.opened records ended
  have undisturbed : Undisturbed { upcoming := records, ended } := ⟨rfl, rfl⟩
  refine ⟨?_, ?_, ?_⟩
  · intro moves p run
    have accountsNow := accounts.run run
    refine ⟨accountsNow.arrived, accountsNow.bounded, fun stop abandon exited => ?_⟩
    exact accountsNow.delivered (run.undisturbed undisturbed stop abandon) exited
  · intro moves p later q _ told run
    exact run.heeded told
  · intro run fair stop abandon n ended
    exact EndlessRun.eventually_received stop abandon accounts undisturbed fair ended

/-- A line of output. -/
def sampleRecord : LogRecord := ⟨none, .stdout, [0x68, 0x69]⟩

/-- The line is produced and received, and the worker finds the end of the stream. -/
def sampleMoves : List Move :=
  [.start, .produce sampleRecord, .finish, .read, .check, .send, .receive, .read]

/-- After these moves only the end of the stream is repeated. -/
def sampleRun : EndlessRun {} where
  move n := sampleMoves[n]?.getD .finish
  state n := ((sampleMoves.take n).foldlM step? {}).getD {}
  begins := rfl
  goesOn
    | 0 | 1 | 2 | 3 | 4 | 5 | 6 | 7 => rfl
    | n + 8 => by
      rw [List.take_of_length_le (Nat.le_add_left 8 n),
        List.take_of_length_le (Nat.le_add_left 8 (n + 1)),
        List.getElem?_eq_none (Nat.le_add_left 8 n)]
      rfl

theorem sampleRun_fair : sampleRun.Fair := by
  have last (n : Nat) : sampleRun.state (n + 8) = sampleRun.state 8 := by
    simp only [sampleRun, List.take_of_length_le (l := sampleMoves) (Nat.le_add_left 8 n)]
    rfl
  constructor
  · refine fun n => ⟨n + 8, by omega, .inr ?_⟩
    rw [last]
    rintro move (rfl | rfl | rfl | rfl) <;> rfl
  · refine fun n => ⟨n + 8, by omega, .inr ?_⟩
    rw [last]
    rintro move rfl
    rfl

/-- A line that is sent is there when the worker exits at the end of the stream, one that the worker
holds when it finds the stop flag set is kept from the channel, and in the fair run the line is
received. -/
theorem sample_record_arrives :
    (∃ p, Run {} [.start, .produce sampleRecord, .read, .check, .send, .finish, .read] p ∧
      p.worker = .exited ∧ p.channel.length ≤ 256 ∧ p.received ++ p.channel = [sampleRecord]) ∧
    (∃ p q, Run {} [.start, .produce sampleRecord, .read, .stop] p ∧ p.stopRequested ∧
      Run p [.check, .finish] q ∧ q.received ++ q.channel <+: p.received ++ p.channel) ∧
    sampleRun.Fair ∧ (sampleRun.state 3).ended ∧
    ∃ m, ∀ k ≥ m, (sampleRun.state k).isClosed ∧
      (sampleRun.state k).received = [] ++ produced (sampleRun.before k) := by
  obtain ⟨arrives, heeds, received⟩ := records_arrive_in_order [] false
  have calm (n : Nat) : sampleRun.move n ≠ .stop ∧ sampleRun.move n ≠ .abandon := by
    match n with
    | 0 | 1 | 2 | 3 | 4 | 5 | 6 | 7 => decide
    | n + 8 =>
      simp only [sampleRun, List.getElem?_eq_none (l := sampleMoves) (Nat.le_add_left 8 n)]
      decide
  have sent : Run {} [.start, .produce sampleRecord, .read, .check, .send, .finish, .read]
      { ended := true, worker := .exited, channel := [sampleRecord] } :=
    .step rfl <| .step rfl <| .step rfl <| .step rfl <| .step rfl <| .step rfl <| .step rfl <|
      .refl _
  have told : Run {} [.start, .produce sampleRecord, .read, .stop]
      { worker := .holding sampleRecord, stopRequested := true } :=
    .step rfl <| .step rfl <| .step rfl <| .step rfl <| .refl _
  have heeded : Run { worker := .holding sampleRecord, stopRequested := true } [.check, .finish]
      { ended := true, worker := .exited, stopRequested := true } :=
    .step rfl <| .step rfl <| .refl _
  obtain ⟨-, few, complete⟩ := arrives _ _ sent
  refine ⟨⟨_, sent, rfl, few, complete (by decide) (by decide) rfl⟩,
    ⟨_, _, told, rfl, heeded, (heeds _ _ _ _ told rfl heeded).2.2⟩, sampleRun_fair, rfl,
    received sampleRun sampleRun_fair (fun n => (calm n).1) (fun n => (calm n).2) 3 rfl⟩

end Pump

end Testbed
