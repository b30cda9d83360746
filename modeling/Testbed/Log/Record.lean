import Testbed.Text.Utf8
import Testbed.Time.Timestamp

/-!
# Log records

A record is one line of container output. The engine writes an RFC 3339 timestamp and a blank
before each line; `ofLine` takes them off again and keeps a line without them whole. What counts as
a timestamp is up to a reader.
-/

namespace Testbed

inductive LogSource where
  | stdout
  | stderr
  deriving DecidableEq, Repr

def LogSource.text : LogSource → String
  | .stdout => "stdout"
  | .stderr => "stderr"

structure LogRecord where
  /-- The time written before the line. A line without one counts from its arrival. -/
  timestamp : Option Timestamp
  source : LogSource
  content : List UInt8
  deriving DecidableEq, Repr

namespace LogRecord

def blank : UInt8 := 0x20

/-- The bytes before the first blank and those after it. -/
def splitAtBlank : List UInt8 → Option (List UInt8 × List UInt8)
  | [] => none
  | b :: bytes => if b = blank then some ([], bytes)
    else (splitAtBlank bytes).map fun (before, after) => (b :: before, after)

/-- The timestamp at the beginning of a line, and what follows it. -/
def timestamped? (reader : Timestamp.Reader) (line : List UInt8) :
    Option (Timestamp × List UInt8) := do
  let (stamp, content) ← splitAtBlank line
  let text ← Text.Utf8.decode stamp
  let t ← reader text.toList
  return (t, content)

def ofLineBy (reader : Timestamp.Reader) (source : LogSource) (line : List UInt8) : LogRecord :=
  match timestamped? reader line with
  | some (t, content) => ⟨some t, source, content⟩
  | none => ⟨none, source, line⟩

def ofLine : LogSource → List UInt8 → LogRecord :=
  ofLineBy Timestamp.parse

def text (r : LogRecord) : String :=
  Text.Utf8.decodeLossy r.content

end LogRecord

/-- The lines of `bytes`: what ends at a line feed, or at the end if something is left there. -/
def linesOf : List UInt8 → List (List UInt8)
  | [] => []
  | b :: bytes =>
    if b = 0x0A then [] :: linesOf bytes
    else match linesOf bytes with
      | [] => [[b]]
      | line :: lines => (b :: line) :: lines

/-- `line` without one carriage return at its end. -/
def withoutReturn (line : List UInt8) : List UInt8 :=
  if line.getLast? = some 0x0D then line.dropLast else line

def recordsBy (reader : Timestamp.Reader) (source : LogSource) (bytes : List UInt8) :
    List LogRecord :=
  (linesOf bytes).map fun line => .ofLineBy reader source (withoutReturn line)

/-- The records of a stream of container output. -/
def recordsOf : LogSource → List UInt8 → List LogRecord :=
  recordsBy Timestamp.parse

end Testbed
