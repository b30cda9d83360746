import Testbed.CommandLine.Job
import Testbed.Simulation.Client
import Testbed.Simulation.FileSystem

/-!
# Simulated terminals

A place where invocations are carried out: files in memory, a client that answers by rules, an input
that is there from the start, and an output that is kept.
-/

namespace Testbed.Simulation

open CommandLine

structure Terminal where
  files : FileSystem
  /-- The home directory of the one who works here. -/
  home : String
  client : ClientBench
  /-- What is left of the input. -/
  input : List UInt8 := []
  output : String := ""
  deriving DecidableEq, Repr

namespace Terminal

/-- Takes the first line of the input, with its line feed. -/
def takeLine (t : Terminal) : List UInt8 × Terminal :=
  let line := t.input.takeWhile (· ≠ 10)
  let line := t.input.take (line.length + 1)
  (line, { t with input := t.input.drop line.length })

def answerConsole : (r : Console.Request) → StateM Terminal (Console.Reply r)
  | .print text => do
    modify fun t => { t with output := t.output ++ text }
    return .ok ()
  | .readLine => do
    let (line, t) := (← get).takeLine
    set t
    return .ok line

def answerClient (r : Docker.Client.onSystem.Request) :
    StateM Terminal (Docker.Client.onSystem.Reply r) := do
  let t ← get
  let (reply, client) := (ClientBench.answer r).run t.client
  set { t with client }
  return reply

/-- Answers a request. -/
def answer : (r : ClientDesk.Request) → StateM Terminal (ClientDesk.Reply r)
  | .inl r => answerClient r
  | .inr r => answerConsole r

/-- Does a job; nothing comes of one that diverges. -/
def perform (job : Job) : StateM Terminal (Option (Except Failure Unit)) := do
  modify fun t => { t with client.config.binary := job.binary }
  (job.overClient (← get).client.config).run answer

/-- Carries out an invocation. Its files have to be readable before anything else is done. -/
def carryOut (invocation : Invocation) : StateM Terminal (Option (Except Failure Unit)) := do
  let t ← get
  match t.files.perform (invocation.job t.home) with
  | none => return none
  | some (.error e) => return some (.error e)
  | some (.ok job) => perform job

end Terminal

end Testbed.Simulation
