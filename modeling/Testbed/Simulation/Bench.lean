import Testbed.Simulation.Engine

/-!
# Test benches

A bench is a simulated engine on a simulated system, with interference on top. Each request is first
recorded. Then the hooks set on it change the bench, and raised errors may answer it in place of the
engine.
-/

namespace Testbed.Simulation

/-- A change to a bench, made at once or by a hook. -/
inductive Setup where
  | addContainer (name : String) (running : Bool)
  | addNetwork (name : String)
  | fail (operation : String) (fault : Fault)
  | prepare (output : PreparedOutput)
  | prepareReplicaSet (base : String)
  | keepUnready (name : String)
  | stopContainer (name : String)
  /-- Cancels the current context. -/
  | cancelContext
  /-- Makes a fresh context the current one. -/
  | renewContext
  /-- The next looks at the port of a container find it closed. -/
  | delayPort (name : String) (polls : Nat)
  /-- What inspecting a container answers, whether it exists or not. -/
  | nameAs (name raw : String)
  | setHost (host : String)
  /-- Answers the requests that match with an error, for ever or a number of times. -/
  | raise (pattern : String) (error : Error) (times : Option Nat)
  /-- Makes changes just before the `nth` request that matches, counted from the beginning. -/
  | hook (pattern : String) (nth : Nat) (actions : List Setup)

structure Raise where
  pattern : String
  error : Error
  left : Option Nat
  deriving DecidableEq, Repr

structure Hook where
  pattern : String
  nth : Nat
  actions : List Setup

structure Bench where
  host : Host := {}
  engine : SimulatedEngine := {}
  context : Context
  raises : List Raise := []
  hooks : List Hook := []
  /-- How often a port will still be found closed. -/
  delays : List (String × Nat) := []
  rawNames : List (String × String) := []
  hostName : Option String := none
  /-- The labels of all requests, in order. -/
  recorded : List String := []

/-- A label matches a pattern that equals it. A star at the end of a pattern stands for anything. -/
def labelMatches (pattern label : String) : Bool :=
  match pattern.toList.reverse with
  | '*' :: stem => stem.reverse.isPrefixOf label.toList
  | _ => pattern = label

/-- Makes a change to an engine. Contexts and what stands between a bench and its engine are none of
its business. -/
def SimulatedEngine.apply (e : SimulatedEngine) : Setup → SimulatedEngine
  | .addContainer name running => e.putContainer (.leftover name running)
  | .addNetwork name => e.addNetwork name
  | .fail operation fault => e.setFault operation fault
  | .prepare output => e.prepare output
  | .prepareReplicaSet base => e.prepareReplicaSet base
  | .keepUnready name => e.keepUnready name
  | .stopContainer name => e.stopContainer name
  | .cancelContext | .renewContext | .delayPort _ _ | .nameAs _ _ | .setHost _ | .raise _ _ _
  | .hook _ _ _ => e

namespace Bench

/-- An empty bench whose context is fresh. -/
def new (seed : Nat) : Bench where
  host := .start seed
  context := ⟨⟨0⟩, none⟩

def mapEngine (b : Bench) (f : SimulatedEngine → SimulatedEngine) : Bench :=
  { b with engine := f b.engine }

def renewContext (b : Bench) : Bench :=
  { b with context := ⟨⟨b.host.flags⟩, none⟩, host := { b.host with flags := b.host.flags + 1 } }

/-- Makes a change. -/
def apply (b : Bench) (change : Setup) : Bench :=
  match change with
  | .cancelContext => { b with host := b.host.cancel b.context.token }
  | .renewContext => b.renewContext
  | .delayPort name polls => { b with delays := (name, polls) :: b.delays.filter (·.1 ≠ name) }
  | .nameAs name raw => { b with rawNames := (name, raw) :: b.rawNames.filter (·.1 ≠ name) }
  | .setHost host => { b with hostName := some host }
  | .raise pattern error times => { b with raises := b.raises ++ [⟨pattern, error, times⟩] }
  | .hook pattern nth actions => { b with hooks := b.hooks ++ [⟨pattern, nth, actions⟩] }
  | _ => b.mapEngine (·.apply change)

def applyAll (b : Bench) (actions : List Setup) : Bench :=
  actions.foldl apply b

/-! ## Interference -/

/-- Records a label, and makes the changes of the hooks whose turn it is. -/
def record (b : Bench) (label : String) : Bench :=
  let b := { b with recorded := b.recorded ++ [label] }
  let due := b.hooks.filter fun hook =>
    labelMatches hook.pattern label &&
      (b.recorded.filter (labelMatches hook.pattern)).length = hook.nth
  b.applyAll (due.flatMap (·.actions))

/-- The first error raised for a label, and the errors left after it. -/
def nextRaised (label : String) : List Raise → Option (Error × List Raise)
  | [] => none
  | r :: rest =>
    if labelMatches r.pattern label && r.left ≠ some 0 then
      some (r.error, { r with left := r.left.map (· - 1) } :: rest)
    else (nextRaised label rest).map fun (e, rest) => (e, r :: rest)

/-- What a request is answered with when it fails with `e`. -/
def failing (e : Error) : (r : Engine.Request) → Option (Engine.Reply r)
  | .available | .isPortReady _ _ _ _ => some false
  | .host => none
  | .inspect _ | .isRunning _ | .run _ _ | .mappedPort _ _ | .exec _ _ _ | .remove _
  | .createNetwork _ _ | .networkExists _ | .removeNetwork _ | .pruneNetworks | .attachLogs _
  | .ping _ _ _ => some (.error e)

/-- What a bench that was told about names, hosts or delays answers without its engine. -/
def override (b : Bench) : (r : Engine.Request) → Option (Engine.Reply r) × Bench
  | .inspect name => ((b.rawNames.lookup name).map Except.ok, b)
  | .host => (b.hostName, b)
  | .isPortReady name _ _ _ =>
    match b.delays.lookup name with
    | some (polls + 1) => (some false, b.apply (.delayPort name polls))
    | _ => (none, b)
  | _ => (none, b)

/-- The answer to a request that does not reach the engine: a raised error, or else what the bench
was told to answer. -/
def intercept (b : Bench) (r : Engine.Request) : Option (Engine.Reply r) × Bench :=
  match (label r).bind (nextRaised · b.raises) with
  | some (e, raises) => (failing e r, { b with raises })
  | none => b.override r

/-! ## Requests -/

/-- The context that bounds a request. -/
def contextOf? : Engine.Request → Option Context
  | .run ctx _ | .exec ctx _ _ | .createNetwork ctx _ => some ctx
  | _ => none

/-- The streams that were attached to before and are not any more have ended. -/
def finishDetached (before : List (String × StreamId)) (b : Bench) : Bench :=
  let lost := before.filter fun entry => !b.engine.attached.contains entry
  { b with host := lost.foldl (fun h entry => h.finish entry.2) b.host }

/-- Lets the engine answer a request. -/
def askEngine (r : Engine.Request) : StateM Bench (Engine.Reply r) := do
  let b ← get
  let done := (contextOf? r).bind b.host.causeOf
  let fresh := b.host.nextStream
  let (reply, engine) := (SimulatedEngine.answer done fresh r).run b.engine
  let opened := engine.attached.any (·.2 = fresh)
  let host := if opened then b.host.openStream [] false else b.host
  set (finishDetached b.engine.attached { b with engine, host })
  return reply

/-- Answers a request to the engine. -/
def answerEngine (r : Engine.Request) : StateM Bench (Engine.Reply r) := do
  let b := (label r).elim (← get) (← get).record
  let (reply, b) := b.intercept r
  set b
  match reply with
  | some reply => return reply
  | none => askEngine r

/-- Whoever follows a stream lets go of the container behind it. -/
def detach (b : Bench) (s : StreamId) : Bench :=
  finishDetached b.engine.attached (b.mapEngine (·.detach s))

/-- What a request to the system means for the engine. -/
def afterSystem (b : Bench) : System.Request → Bench
  | .unfollow s => b.detach s
  | _ => b

/-- Answers a request to the system. -/
def answerSystem (r : System.Request) : StateM Bench (System.Reply r) := do
  let b ← get
  let (reply, host) := (Host.answer r).run b.host
  set ({ b with host }.afterSystem r)
  return reply

/-- Answers a request. -/
def answer : (r : Engine.onSystem.Request) → StateM Bench (Engine.onSystem.Reply r)
  | .inl r => answerEngine r
  | .inr r => answerSystem r

/-- Runs an action on the bench; nothing comes of one that diverges. -/
def perform {α : Type} (action : Action α) : StateM Bench (Option α) :=
  action.run answer

/-- A container writes a line, if its output is attached to and somebody still reads it. -/
def writeLine (b : Bench) (container : String) (source : LogSource) (line : List UInt8) :
    Bool × Bench :=
  match b.engine.streamOf? container with
  | some s =>
    if b.host.accepts s then
      (true, { b with host := b.host.movePump s (.produce ⟨none, source, line⟩) })
    else (false, b)
  | none => (false, b)

end Bench

end Testbed.Simulation
