import Testbed.Context
import Testbed.Log.Pump

/-!
# Simulated systems

A system in memory: its clock moves when it is read and when someone sleeps, suffixes and free ports
follow from a seed, and notices are kept. Log pumps work as soon as there is something to do.
-/

namespace Testbed.Simulation

/-- Who takes the records of a followed stream. -/
inductive Consumer where
  /-- Nobody so far. -/
  | unclaimed
  /-- The one who asked for the records. -/
  | holder
  /-- They are printed as output of a container. -/
  | printer (container : String)
  /-- The one who asked for the records does not want them any more. -/
  | gone
  deriving DecidableEq, Repr

/-- A stream of container output, and who follows it. -/
structure Feed where
  pump : Pump := {}
  consumer : Consumer := .unclaimed
  deriving DecidableEq, Repr

/-- A printed line of container output. -/
structure PrintedLine where
  container : String
  source : LogSource
  message : String
  deriving DecidableEq, Repr

def PrintedLine.ofRecord (container : String) (r : LogRecord) : PrintedLine :=
  ⟨container, r.source, Text.trimEnd r.text⟩

def PrintedLine.text (l : PrintedLine) : String :=
  l.container ++ " " ++ l.source.text ++ " " ++ l.message

structure Host where
  clock : Instant := ⟨0⟩
  /-- How many cancellation flags there are. -/
  flags : Nat := 0
  cancelled : List Token := []
  /-- What suffixes and free ports follow from. -/
  seed : Nat := 0
  /-- The suffixes that have been handed out, in order. -/
  suffixes : List String := []
  /-- The free ports that have been handed out, in order. -/
  freePorts : List Port := []
  notices : List Notice := []
  /-- The streams by the numbers of their names. -/
  feeds : List Feed := []
  printed : List PrintedLine := []
  deriving DecidableEq, Repr

namespace Host

/-- A system that has just started, with the flag of one context. -/
def start (seed : Nat) : Host where
  flags := 1
  seed := seed

/-- How far the clock moves when it is read. -/
def tick : Duration := .ofMicros 1

def wait (h : Host) (d : Duration) : Host :=
  { h with clock := h.clock + d }

def isCancelled (h : Host) (token : Token) : Bool :=
  h.cancelled.contains token

def cancel (h : Host) (token : Token) : Host :=
  { h with cancelled := token :: h.cancelled }

/-- Whether and why a context is done now. -/
def causeOf (h : Host) (ctx : Context) : Option Context.Cause :=
  ctx.cause? (h.isCancelled ctx.token) h.clock

/-- The suffix with the given number. Suffixes repeat only after all of them have been used, since
the factor is odd. -/
def suffixAt (n : Nat) : String :=
  let digits := Nat.toDigits 16 ((n + 1) * 0x5DEECE66D9A3 % 0x1000000000000)
  .ofList (List.replicate (12 - digits.length) '0' ++ digits)

/-- The free port with the given number. -/
def freePortAt (n : Nat) : Port := .ofNat (50000 + n % 9000)

/-! ## Streams -/

/-- The name of the next stream. -/
def nextStream (h : Host) : StreamId := ⟨h.feeds.length⟩

/-- Begins a stream that has produced `records` already. -/
def openStream (h : Host) (records : List LogRecord) (ended : Bool) : Host :=
  { h with feeds := h.feeds ++ [{ pump := { upcoming := records, ended } }] }

def feed? (h : Host) (s : StreamId) : Option Feed :=
  h.feeds[s.id]?

/-- Lets the worker of a feed go on, and prints what comes out if the records are printed. -/
def flow (feed : Feed) : Feed × List PrintedLine :=
  match feed.consumer with
  | .printer container =>
    let pending := feed.pump.upcoming.length + feed.pump.channel.length + 1
    let pump := feed.pump.take pending
    let taken := pump.received.drop feed.pump.received.length
    ({ feed with pump }, taken.map (.ofRecord container))
  | _ => ({ feed with pump := feed.pump.settle }, [])

/-- Changes a feed and lets its worker go on. -/
def updateFeed (h : Host) (s : StreamId) (change : Feed → Feed) : Host :=
  match h.feed? s with
  | none => h
  | some feed =>
    let (feed, lines) := flow (change feed)
    { h with feeds := h.feeds.set s.id feed, printed := h.printed ++ lines }

/-- Makes a move of a pump, if it is possible. -/
def movePump (h : Host) (s : StreamId) (move : Pump.Move) : Host :=
  h.updateFeed s fun feed => { feed with pump := (feed.pump.step? move).getD feed.pump }

/-- Ends a stream. -/
def finish (h : Host) (s : StreamId) : Host := h.movePump s .finish

/-- A record that the stream produces now may still be read. -/
def accepts (h : Host) (s : StreamId) : Bool :=
  (h.feed? s).any (·.pump.isOpen)

/-- Claims the records of a stream, unless somebody has. -/
def claim (h : Host) (s : StreamId) (consumer : Consumer) : Host :=
  h.updateFeed s fun feed =>
    if feed.consumer = .unclaimed then { feed with consumer } else feed

def unfollow (h : Host) (s : StreamId) : Host :=
  (h.movePump s .stop).finish s

/-- The records of a stream that nobody follows: at most `count` of them, or all. -/
def readRecords (h : Host) (s : StreamId) (count : Option Nat) : List LogRecord × Host :=
  match h.feed? s with
  | none => ([], h)
  | some feed =>
    let upcoming := feed.pump.upcoming
    let count := count.getD upcoming.length
    (upcoming.take count,
      h.updateFeed s fun feed => { feed with pump.upcoming := upcoming.drop count })

/-- Gives up a stream that nobody follows. -/
def discardStream (h : Host) (s : StreamId) : Host :=
  h.updateFeed s fun feed => { feed with pump.worker := .exited }

/-- The holder of a stream takes at most `count` records; whether there can be more is told too. -/
def receive (h : Host) (s : StreamId) (count : Nat) : Option (List LogRecord × Bool × Host) := do
  let feed ← h.feed? s
  if feed.consumer ≠ .holder then none
  let pump := feed.pump.take count
  let records := pump.received.drop feed.pump.received.length
  let closed := records.length < count && pump.isClosed
  return (records, closed, h.updateFeed s fun feed => { feed with pump })

/-! ## Requests -/

/-- Answers a request to the system. -/
def answer : (r : System.Request) → StateM Host (System.Reply r)
  | .now => do
    modify (·.wait tick)
    return (← get).clock
  | .sleep d => modify (·.wait d)
  | .newToken => do
    let h ← get
    set { h with flags := h.flags + 1 }
    return ⟨h.flags⟩
  | .cancel token => modify (·.cancel token)
  | .isCancelled token => return (← get).isCancelled token
  | .notify notice => modify fun h => { h with notices := h.notices ++ [notice] }
  | .suffix => do
    let h ← get
    let suffix := suffixAt (h.seed + h.suffixes.length)
    set { h with suffixes := h.suffixes ++ [suffix] }
    return suffix
  | .freePort => do
    let h ← get
    let port := freePortAt (h.seed + h.freePorts.length)
    set { h with freePorts := h.freePorts ++ [port] }
    return .ok port
  | .follow s => modify (·.movePump s .start)
  | .forward s container => modify (·.claim s (.printer container))
  | .unfollow s => modify (·.unfollow s)

end Host

end Testbed.Simulation
