import Testbed.Error
import Testbed.System

/-!
# Docker clients

The interface of a `docker` command line client, or one that is compatible: what it is run with, how
it ends, and what it has written by then. Connections to published ports are made next to it.
-/

namespace Testbed.Docker

/-- Names a running client. -/
structure ProcessId where
  id : Nat
  deriving DecidableEq, Repr

/-- How a client ended. -/
inductive ExitStatus where
  | exited (code : UInt8)
  | signalled (signal : Nat)
  deriving DecidableEq, Repr

namespace ExitStatus

def success : ExitStatus → Bool
  | exited code => code = 0
  | signalled _ => false

/-- The exit code. A client that was killed has none. -/
def code? : ExitStatus → Option Int
  | exited code => some code.toNat
  | signalled _ => none

/-- The names of the signals, by number. -/
def signalNames : List (Nat × String) :=
  [(1, "SIGHUP"), (2, "SIGINT"), (3, "SIGQUIT"), (4, "SIGILL"), (5, "SIGTRAP"), (6, "SIGABRT"),
   (7, "SIGBUS"), (8, "SIGFPE"), (9, "SIGKILL"), (10, "SIGUSR1"), (11, "SIGSEGV"),
   (12, "SIGUSR2"), (13, "SIGPIPE"), (14, "SIGALRM"), (15, "SIGTERM"), (16, "SIGSTKFLT"),
   (17, "SIGCHLD"), (18, "SIGCONT"), (19, "SIGSTOP"), (20, "SIGTSTP"), (21, "SIGTTIN"),
   (22, "SIGTTOU"), (23, "SIGURG"), (24, "SIGXCPU"), (25, "SIGXFSZ"), (26, "SIGVTALRM"),
   (27, "SIGPROF"), (28, "SIGWINCH"), (29, "SIGIO"), (30, "SIGPWR"), (31, "SIGSYS")]

def text : ExitStatus → String
  | exited code => s!"exit status: {code.toNat}"
  | signalled signal =>
    s!"signal: {signal}" ++ ((signalNames.lookup signal).map fun name => s!" ({name})").getD ""

end ExitStatus

/-- What is known of a client once it has ended. -/
structure Completion where
  status : ExitStatus
  stdout : List UInt8
  stderr : List UInt8
  deriving DecidableEq, Repr

/-- Where a connection is made to: a numeric address and a port. -/
structure Endpoint where
  host : String
  port : Port
  deriving DecidableEq, Repr

inductive Client.Request where
  /-- Runs the client until it ends. -/
  | execute (args : List String)
  /-- Starts the client. -/
  | spawn (args : List String)
  /-- Whether a started client has ended. -/
  | poll (process : ProcessId)
  | kill (process : ProcessId)
  /-- Starts the client and reads what it writes, line by line. -/
  | follow (args : List String)
  /-- The addresses a host goes by. -/
  | resolve (host : String) (port : Port)
  /-- Opens a connection. -/
  | dial (endpoint : Endpoint) (timeout : Duration)
  deriving DecidableEq, Repr

/-- The interface of a client. A failure to reply is described in words. -/
def Client : Interface where
  Request := Client.Request
  Reply
    | .execute _ => Except String Completion
    | .spawn _ => Except String ProcessId
    | .poll _ => Except String (Option Completion)
    | .kill _ => Unit
    | .follow _ => Except String StreamId
    | .resolve _ _ => Except String (List Endpoint)
    | .dial _ _ => Except String Unit

namespace Client

/-- Makes one request to the client. -/
def ask (r : Client.Request) : Prog Client.onSystem (Client.Reply r) :=
  Prog.request (I := Client.onSystem) (Sum.inl r)

/-- Makes one request to the client and puts `wrap` around the reason for a failure. -/
def attempt {α : Type} (wrap : String → Error) (p : Prog Client.onSystem (Except String α)) :
    Task Client.onSystem α :=
  .mk do return (← p).mapError wrap

def execute (args : List String) : Prog Client.onSystem (Except String Completion) :=
  ask (.execute args)

def spawn (args : List String) : Prog Client.onSystem (Except String ProcessId) :=
  ask (.spawn args)

def poll (process : ProcessId) : Prog Client.onSystem (Except String (Option Completion)) :=
  ask (.poll process)

def kill (process : ProcessId) : Prog Client.onSystem Unit := ask (.kill process)

def follow (args : List String) : Prog Client.onSystem (Except String StreamId) :=
  ask (.follow args)

def resolve (host : String) (port : Port) : Prog Client.onSystem (Except String (List Endpoint)) :=
  ask (.resolve host port)

def dial (endpoint : Endpoint) (timeout : Duration) : Prog Client.onSystem (Except String Unit) :=
  ask (.dial endpoint timeout)

end Client

end Testbed.Docker
