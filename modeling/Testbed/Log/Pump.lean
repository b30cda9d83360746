import Testbed.Log.Record

/-!
# Log pumps

A pump moves the records of one stream into a bounded channel, from which a consumer takes them.
The stream, the worker, the consumer and whoever stops the pump go on independently of each other:
`step?` says what each may do next, `Run` lets them do it in any order. `settle` is the order in
which the worker does all it can while the others wait.
-/

namespace Testbed

/-- What the worker of a pump is doing. -/
inductive Worker where
  /-- There is no worker yet. -/
  | absent
  /-- Waits for the next record of the stream. -/
  | reading
  /-- Holds a record and is about to look at the stop flag. -/
  | holding (record : LogRecord)
  /-- Holds a record, found the stop flag clear, and is about to send. -/
  | sending (record : LogRecord)
  | exited
  deriving DecidableEq, Repr

structure Pump where
  /-- What the stream has produced and the worker has not read. -/
  upcoming : List LogRecord := []
  /-- The stream produces nothing more. -/
  ended : Bool := false
  worker : Worker := .absent
  channel : List LogRecord := []
  /-- What the consumer has taken. -/
  received : List LogRecord := []
  /-- The consumer has given up its end of the channel. -/
  abandoned : Bool := false
  stopRequested : Bool := false
  deriving DecidableEq, Repr

namespace Pump

/-- How many records the channel holds at most. -/
def capacity : Nat := 256

inductive Move where
  /-- The stream produces a record. -/
  | produce (record : LogRecord)
  /-- The stream ends. -/
  | finish
  /-- The worker begins. -/
  | start
  /-- The worker reads the next record, or finds that the stream has ended. -/
  | read
  /-- The worker looks at the stop flag. -/
  | check
  /-- The worker tries to send the record it holds. -/
  | send
  /-- The consumer takes the first record of the channel. -/
  | receive
  /-- The consumer gives up its end of the channel. -/
  | abandon
  /-- The stop flag is set. -/
  | stop
  deriving DecidableEq, Repr

def isFull (p : Pump) : Bool := capacity ≤ p.channel.length

/-- The consumer can expect nothing more. -/
def isClosed (p : Pump) : Bool := p.worker = .exited && p.channel.isEmpty

/-- A record that is produced now may still be read. -/
def isOpen (p : Pump) : Bool := !p.ended && p.worker ≠ .exited

def read (p : Pump) : Option Pump :=
  match p.upcoming with
  | record :: rest => some { p with upcoming := rest, worker := .holding record }
  | [] => if p.ended then some { p with worker := .exited } else none

def check (p : Pump) (record : LogRecord) : Pump :=
  { p with worker := if p.stopRequested then .exited else .sending record }

/-- A full channel sends the worker back to the stop flag, with the record still in hand. -/
def send (p : Pump) (record : LogRecord) : Pump :=
  if p.abandoned then { p with worker := .exited }
  else if p.isFull then { p with worker := .holding record }
  else { p with worker := .reading, channel := p.channel ++ [record] }

def receive (p : Pump) : Option Pump :=
  match p.channel with
  | record :: rest => some { p with channel := rest, received := p.received ++ [record] }
  | [] => none

/-- The pump after a move, when the move is possible. -/
def step? (p : Pump) : Move → Option Pump
  | .produce record => if p.isOpen then some { p with upcoming := p.upcoming ++ [record] } else none
  | .finish => some { p with ended := true }
  | .start => if p.worker = .absent then some { p with worker := .reading } else none
  | .read => if p.worker = .reading then p.read else none
  | .check => match p.worker with
    | .holding record => some (p.check record)
    | _ => none
  | .send => match p.worker with
    | .sending record => some (p.send record)
    | _ => none
  | .receive => if p.abandoned then none else p.receive
  | .abandon => some { p with abandoned := true, channel := [] }
  | .stop => some { p with stopRequested := true }

/-- `Run p moves q`: the moves, in this order, lead from `p` to `q`. -/
inductive Run : Pump → List Move → Pump → Prop
  | refl (p : Pump) : Run p [] p
  | step {p q r : Pump} {move : Move} {moves : List Move} (h : p.step? move = some q)
      (rest : Run q moves r) : Run p (move :: moves) r

/-- The records that a sequence of moves produces. -/
def produced : List Move → List LogRecord :=
  List.filterMap fun
    | .produce record => some record
    | _ => none

/-! ## Undisturbed working -/

/-- The next move of the worker, unless it has to wait for another. -/
def workerMove? (p : Pump) : Option Move :=
  match p.worker with
  | .absent | .exited => none
  | .reading => if p.upcoming.isEmpty && !p.ended then none else some .read
  | .holding _ => if p.isFull && !p.abandoned && !p.stopRequested then none else some .check
  | .sending _ => some .send

/-- Lets the worker make at most `moves` moves. -/
def work (p : Pump) : Nat → Pump
  | 0 => p
  | moves + 1 => match p.workerMove? >>= p.step? with
    | some q => q.work moves
    | none => p

/-- Lets the worker go on until it waits or exits. Each record takes it three moves. -/
def settle (p : Pump) : Pump :=
  p.work (3 * p.upcoming.length + 4)

/-- The consumer takes at most `count` records, each as soon as the worker has sent it. -/
def take (p : Pump) : Nat → Pump
  | 0 => p
  | count + 1 => match p.settle.receive with
    | some q => q.take count
    | none => p.settle

end Pump

end Testbed
