import Testbed.Container
import Testbed.Docker.Client
import Testbed.Text.Utf8

/-!
# Reading what a client wrote

A client that did not exit with 0 has failed, and what it wrote to standard error is the reason. If
that text says so, the reason is that something does not exist.
-/

namespace Testbed.Docker

/-- What a client writes when something it was told to use does not exist. -/
def saysNotFound (stderr : String) : Bool :=
  Text.contains stderr "No such" || Text.contains stderr "not found"

namespace Completion

def errorText (c : Completion) : String := Text.Utf8.decodeLossy c.stderr

def outputText (c : Completion) : String := Text.Utf8.decodeLossy c.stdout

/-- What a client that failed wrote to standard error, or else how it ended. -/
def failureReason (c : Completion) : String :=
  let stderr := Text.trim c.errorText
  if stderr = "" then s!"exited with {c.status.text}" else stderr

/-- Standard output, when the client succeeded; `command` names it in the error. -/
def result (command : String) (c : Completion) : Except Error String :=
  if c.status.success then .ok c.outputText
  else .error (.commandFailed command c.failureReason (saysNotFound c.errorText))

/-- What a command run inside a container has written, and how it ended. -/
def execResult (command : String) (c : Completion) : Except Error ExecOutput :=
  if saysNotFound c.errorText then
    .error (.commandFailed command (Text.trim c.errorText) true)
  else .ok ⟨c.status.code?.getD (-1), c.outputText ++ c.errorText⟩

/-- Whether a client that reports its version reached its engine. -/
def reportsVersion (c : Completion) : Bool :=
  c.status.success && Text.contains c.outputText "Version"

end Completion

/-- A decimal number up to 65535; a plus sign may stand before it. -/
def portOfDigits? (cs : List Char) : Option Port :=
  let digits := match cs with
    | '+' :: rest => rest
    | _ => cs
  if digits.isEmpty || !digits.all Char.isDigit then none
  else
    let n := digits.foldl (fun n c => n * 10 + (c.toNat - '0'.toNat)) 0
    if n ≤ 65535 then some (.ofNat n) else none

/-- The first line of a text that has one. -/
def firstLine? (s : String) : Option (List Char) :=
  if s = "" then none else some (s.toList.takeWhile (· ≠ '\n'))

/-- The host port in a port mapping such as `0.0.0.0:49153`: what stands after the last colon of
the first line. -/
def mappedPort? (output : String) : Option Port := do
  let line ← firstLine? output
  let address := Text.trimWhile Text.isBlankChar line
  portOfDigits? ((Text.splitOn ':' address).getLast?.getD [])

/-- The host in the address of an engine such as `tcp://10.0.0.5:2375`. An engine that is reached
in another way runs on this host. -/
def hostOf (address : Option String) : String :=
  let host := do
    let rest ← ("tcp://".toList).isPrefixOf? (← address).toList
    (Text.splitOn ':' rest).head?
  match host with
  | some (c :: cs) => .ofList (c :: cs)
  | _ => "localhost"

end Testbed.Docker
