import Testbed.CommandLine.Job

/-!
# The command line

Carries out what the arguments ask for, on real files and the real console. Client processes cannot
be started from here: every client counts as missing, so a job ends when it finds its engine
unavailable.
-/

namespace Testbed.CommandLine

def usage : String :=
  "Usage: fixturebox [--runtime CLIENT] COMMAND\n\n" ++
  "  up -c FILE... [--fresh] [--no-wait]         provide the fixtures of fixture files\n" ++
  "  down [--container NAME]... [--network NAME]... remove containers and networks\n" ++
  "  status NAME...                              tell the states of containers\n" ++
  "  prune                                       remove the networks nobody uses\n"

def UsageError.text : UsageError → String
  | helpWanted | nothingSaid => usage
  | versionWanted => "fixturebox 0.1.0\n"
  | verbMissing => "a command is missing\n"
  | argumentMissing => "a required argument is missing\n"
  | valueInvalid => "a value is missing or empty\n"
  | verbUnknown => "there is no such command\n"
  | argumentUnknown => "there is no such argument\n"
  | givenTwice => "an argument is given twice\n"
  | valueUnwanted => "an argument takes no value\n"

/-- What the system keeps while a job is done. -/
structure Machine where
  flags : IO.Ref Nat
  cancelled : IO.Ref (List Token)

/-- Why no client can be started. -/
def noClient : String := "No such file or directory (os error 2)"

def answerClient : (r : Docker.Client.Request) → Docker.Client.Reply r
  | .execute _ | .spawn _ | .poll _ | .follow _ | .resolve _ _ | .dial _ _ => .error noClient
  | .kill _ => ()

def randomDigits : Nat → IO (List Char)
  | 0 => return []
  | n + 1 => return Nat.digitChar (← IO.rand 0 15) :: (← randomDigits n)

def Machine.answerSystem (machine : Machine) : (r : System.Request) → IO (System.Reply r)
  | .now => return ⟨← IO.monoNanosNow⟩
  | .sleep d => IO.sleep (UInt32.ofNat (d.nanos / 1000000))
  | .newToken => machine.flags.modifyGet fun n => (⟨n⟩, n + 1)
  | .cancel token => machine.cancelled.modify (token :: ·)
  | .isCancelled token => return (← machine.cancelled.get).contains token
  | .notify notice => IO.eprintln notice.text
  | .suffix => return .ofList (← randomDigits 12)
  | .freePort => return .error noClient
  | .follow _ | .forward _ _ | .unfollow _ => return ()

def answerConsole : (r : Console.Request) → IO (Console.Reply r)
  | .print text =>
    try return .ok (← IO.print text)
    catch e => return .error (toString e)
  | .readLine =>
    try return .ok (Text.Utf8.encode (← (← IO.getStdin).getLine))
    catch _ => return .error Config.notUtf8

def Machine.answer (machine : Machine) : (r : ClientDesk.Request) → IO (ClientDesk.Reply r)
  | .inl (.inl r) => return answerClient r
  | .inl (.inr r) => machine.answerSystem r
  | .inr r => answerConsole r

/-- Reads the file a path leads to. -/
def readFile (path : String) : IO Config.FileContent := do
  try return .bytes (← IO.FS.readBinFile path).toList
  catch
    | .noFileOrDirectory .. => return .missing
    | e => return .unreadable (toString e)

def carryOut (invocation : Invocation) : IO (Except Failure Unit) := do
  let home := Path.home ((← IO.getEnv "HOME").getD "") "~"
  match ← (invocation.job home).run readFile with
  | none => return .ok ()
  | some (.error e) => return .error e
  | some (.ok job) =>
    let machine : Machine := ⟨← IO.mkRef 0, ← IO.mkRef []⟩
    let config : Docker.Config := { engineAddress := ← IO.getEnv "DOCKER_HOST" }
    return ((← (job.overClient config).run machine.answer).getD (.ok ()))

end Testbed.CommandLine

open Testbed.CommandLine in
def main (args : List String) : IO UInt32 := do
  let vars : Variables := {
    client := ← IO.getEnv "FIXTUREBOX_RUNTIME"
    files := ← IO.getEnv "FIXTUREBOX_CONFIG" }
  match Invocation.ofArguments vars args with
  | .error e =>
    if e = .helpWanted ∨ e = .versionWanted then
      IO.print e.text
      return 0
    IO.eprint e.text
    return 2
  | .ok invocation =>
    match ← carryOut invocation with
    | .ok () => return 0
    | .error e =>
      IO.eprintln ("Error: " ++ e.text)
      return 1
