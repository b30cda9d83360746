import Testbed.Docker.Engine
import Testbed.Simulation.FileSystem
import Testbed.Simulation.Host
import Testbed.Simulation.HostName

/-!
# Simulated clients

A client that answers by rules: the first rule that fits its arguments decides what it writes and
how it ends. It runs on a simulated system without a network.
-/

namespace Testbed.Simulation

/-- What a client does when it is run. -/
structure ClientReply where
  stdout : List UInt8 := []
  stderr : List UInt8 := []
  status : Docker.ExitStatus := .exited 0
  /-- After writing, the client stays alive for a while. -/
  hangs : Bool := false
  deriving DecidableEq, Repr

structure ClientRule where
  /-- The arguments that the client's arguments begin with. -/
  leading : List String := []
  /-- A text that occurs in the arguments, joined by blanks. -/
  needle : String := ""
  /-- What the client does, run by run. The last reply is repeated. -/
  replies : List ClientReply := []
  deriving DecidableEq, Repr

namespace ClientRule

def fits (rule : ClientRule) (args : List String) : Bool :=
  rule.leading.isPrefixOf args && Text.contains (" ".intercalate args) rule.needle

/-- The next reply of a rule, and the rule after it. -/
def next (rule : ClientRule) : ClientReply × ClientRule :=
  match rule.replies with
  | [] => ({}, rule)
  | [reply] => (reply, rule)
  | reply :: replies => (reply, { rule with replies })

/-- The reply of the first rule that fits, and the rules after it. -/
def choose (args : List String) : List ClientRule → ClientReply × List ClientRule
  | [] => ({}, [])
  | rule :: rules =>
    if rule.fits args then
      let (reply, rule) := rule.next
      (reply, rule :: rules)
    else
      let (reply, rules) := choose args rules
      (reply, rule :: rules)

end ClientRule

/-- A client that has been started. -/
structure RunningClient where
  ends : Instant
  completion : Docker.Completion
  deriving DecidableEq, Repr

structure ClientBench where
  host : Host := {}
  context : Context
  config : Docker.Config := {}
  rules : List ClientRule := []
  /-- The clients that were started, by the numbers of their names. -/
  processes : List RunningClient := []
  /-- The argument lists the client was run with, in order. -/
  calls : List (List String) := []
  deriving DecidableEq, Repr

namespace ClientBench

/-- A bench whose context is fresh. -/
def new (seed : Nat) (config : Docker.Config) (rules : List ClientRule) : ClientBench where
  host := .start seed
  context := ⟨⟨0⟩, none⟩
  config := config
  rules := rules

def cancelContext (b : ClientBench) : ClientBench :=
  { b with host := b.host.cancel b.context.token }

def renewContext (b : ClientBench) : ClientBench :=
  { b with context := ⟨⟨b.host.flags⟩, none⟩, host := { b.host with flags := b.host.flags + 1 } }

/-! ## Running the client -/

/-- The clients that are installed. -/
def installed : List String := ["docker", "podman"]

/-- How many bytes an argument may have. -/
def longestArgument : Nat := 131071

/-- Why a program cannot be run that is not installed. A path is followed; anything else is looked
for in directories, where every directory itself goes by `.` and the one above it by `..`. -/
def lookupFailure (binary : String) : String :=
  if binary.toList.contains '/' then FileSystem.usual.runFailure binary
  else if FileSystem.longestName < binary.utf8ByteSize then FileSystem.PathError.tooLong.message
  else if binary = "." ∨ binary = ".." then FileSystem.usual.runFailure binary
  else FileSystem.PathError.missing.message

/-- Why the client cannot be run with these arguments, if it cannot. -/
def spawnFailure? (b : ClientBench) (args : List String) : Option String :=
  if (b.config.binary :: args).any (·.toList.contains '\x00') then
    some "nul byte found in provided data"
  else if !installed.contains b.config.binary then some (lookupFailure b.config.binary)
  else if args.any (longestArgument < ·.utf8ByteSize) then
    some "Argument list too long (os error 7)"
  else none

/-- How long a client runs that does not hang. -/
def promptRun : Duration := .ofMillis 5

/-- How long a client stays alive that hangs. -/
def hangingRun : Duration := .ofSecs 5

/-- Runs the client, and records it. -/
def invoke (args : List String) : StateM ClientBench (Except String ClientReply) := do
  let b ← get
  match b.spawnFailure? args with
  | some reason => return .error reason
  | none =>
    let (reply, rules) := ClientRule.choose args b.rules
    set { b with rules, calls := b.calls ++ [args] }
    return .ok reply

def completionOf (reply : ClientReply) : Docker.Completion :=
  ⟨reply.status, reply.stdout, reply.stderr⟩

def runTime (reply : ClientReply) : Duration :=
  if reply.hangs then hangingRun else promptRun

def execute (args : List String) : StateM ClientBench (Except String Docker.Completion) := do
  match ← invoke args with
  | .error reason => return .error reason
  | .ok reply =>
    modify fun b => { b with host := b.host.wait (runTime reply) }
    return .ok (completionOf reply)

def spawn (args : List String) : StateM ClientBench (Except String Docker.ProcessId) := do
  match ← invoke args with
  | .error reason => return .error reason
  | .ok reply =>
    let b ← get
    let running := ⟨b.host.clock + runTime reply, completionOf reply⟩
    set { b with processes := b.processes ++ [running] }
    return .ok ⟨b.processes.length⟩

/-- What is left of a running client that has ended by now. -/
def poll (b : ClientBench) (process : Docker.ProcessId) : Option Docker.Completion := do
  let running ← b.processes[process.id]?
  if running.ends ≤ b.host.clock then some running.completion else none

/-- Ends a client that is still running. -/
def kill (b : ClientBench) (process : Docker.ProcessId) : ClientBench :=
  { b with processes := b.processes.modify process.id fun running =>
      if running.ends ≤ b.host.clock then running
      else ⟨b.host.clock, { running.completion with status := .signalled 9 }⟩ }

def follow (args : List String) : StateM ClientBench (Except String StreamId) := do
  match ← invoke args with
  | .error reason => return .error reason
  | .ok reply =>
    let b ← get
    let records := recordsOf .stdout reply.stdout ++ recordsOf .stderr reply.stderr
    set { b with host := b.host.openStream records !reply.hangs }
    return .ok b.host.nextStream

/-! ## Requests -/

/-- A host has the address that it is, or the only one. -/
def resolve (host : String) (port : Port) : Except String (List Docker.Endpoint) :=
  match HostName.failure? host with
  | some reason => .error reason
  | none => .ok [⟨host, port⟩]

def answerClient : (r : Docker.Client.Request) → StateM ClientBench (Docker.Client.Reply r)
  | .execute args => execute args
  | .spawn args => spawn args
  | .poll process => return .ok ((← get).poll process)
  | .kill process => modify (·.kill process)
  | .follow args => follow args
  | .resolve host port => return resolve host port
  | .dial endpoint _ => return .error (HostName.dialFailure endpoint.host)

def answerSystem (r : System.Request) : StateM ClientBench (System.Reply r) := do
  let b ← get
  let (reply, host) := (Host.answer r).run b.host
  set { b with host }
  return reply

/-- Answers a request. -/
def answer :
    (r : Docker.Client.onSystem.Request) → StateM ClientBench (Docker.Client.onSystem.Reply r)
  | .inl r => answerClient r
  | .inr r => answerSystem r

/-- Runs an action on the engine behind the client; nothing comes of one that diverges. -/
def perform {α : Type} (action : Action α) : StateM ClientBench (Option α) := do
  ((← get).config.overClient action).run answer

end ClientBench

end Testbed.Simulation
