import Testbed.Text.Blank
import Testbed.Text.Digit

/-!
# Hosts without a network

Where there is no network, a host has an address only if it is written as one, or is called
`localhost`. Nothing can be reached at any address.
-/

namespace Testbed.Simulation.HostName

/-! ## Addresses -/

/-- A number with the prefix of its base, `0x` for sixteen and `0` for eight; ten without one. -/
def prefixedNumber? (cs : List Char) : Option Nat :=
  match cs with
  | '0' :: 'x' :: digits | '0' :: 'X' :: digits => Text.number? 16 digits
  | '0' :: _ => Text.number? 8 cs
  | _ => Text.number? 10 cs

/-- An address of four bytes, each a number of its own; the last bytes may be written as a single
number. -/
def isBytes (cs : List Char) : Bool :=
  match (Text.splitOn '.' cs).mapM prefixedNumber? with
  | some [a] => a < 0x100000000
  | some [a, b] => a < 0x100 && b < 0x1000000
  | some [a, b, c] => a < 0x100 && b < 0x100 && c < 0x10000
  | some [a, b, c, d] => [a, b, c, d].all (· < 0x100)
  | _ => false

/-- A byte in decimal, without a superfluous zero. -/
def byte? (cs : List Char) : Option Nat := do
  let n ← Text.number? 10 cs
  if n < 0x100 ∧ (Nat.toDigits 10 n).length = cs.length then some n else none

/-- A group of an address: up to four hexadecimal digits. -/
def group? (cs : List Char) : Option Nat :=
  if cs.length ≤ 4 then Text.number? 16 cs else none

/-- Groups of which the last two may be written as four bytes with points between them. -/
def groupsOf? : List (List Char) → Option (List Nat)
  | [] => some []
  | [part] =>
    if part.contains '.' then
      match (Text.splitOn '.' part).mapM byte? with
      | some [a, b, c, d] => some [a * 0x100 + b, c * 0x100 + d]
      | _ => none
    else (group? part).map ([·])
  | part :: parts => do return (← group? part) :: (← groupsOf? parts)

/-- The parts of `cs` between colons; none where there is nothing. -/
def colonParts (cs : List Char) : List (List Char) :=
  if cs.isEmpty then [] else Text.splitOn ':' cs

/-- What stands before the first two colons in a row, and what after them. -/
def cutAtGap? : List Char → Option (List Char × List Char)
  | ':' :: ':' :: rest => some ([], rest)
  | c :: rest => (cutAtGap? rest).map fun (before, after) => (c :: before, after)
  | [] => none

/-- The groups of an address with eight of them. Two colons in a row stand for one or more groups
that are zero. -/
def groups? (cs : List Char) : Option (List Nat) := do
  match cutAtGap? cs with
  | none =>
    let groups ← groupsOf? (colonParts cs)
    if groups.length = 8 then some groups else none
  | some (before, after) =>
    let before ← (colonParts before).mapM group?
    let after ← groupsOf? (colonParts after)
    let given := before.length + after.length
    if given < 8 then some (before ++ List.replicate (8 - given) 0 ++ after) else none

/-- An address on a link: it means something only together with the link. -/
def isOnLink (groups : List Nat) : Bool :=
  let first := groups.headD 0
  (0xFE80 ≤ first && first < 0xFEC0) || (0xFF00 ≤ first && first % 0x10 = 2)

/-- The number of a link. Only for an address on a link may it be given by name, and the only link
there is goes by `lo`. -/
def link? (groups : List Nat) (cs : List Char) : Option Nat :=
  if isOnLink groups && cs = ['l', 'o'] then some 1
  else do
    let n ← Text.number? 10 cs
    if n < 0x100000000 then some n else none

/-- The groups of an address, and the number of the link that may stand behind it after a percent
sign; zero when none does. -/
def linked? (cs : List Char) : Option (List Nat × Nat) := do
  let groups ← groups? (cs.takeWhile (· ≠ '%'))
  match cs.dropWhile (· ≠ '%') with
  | [] => return (groups, 0)
  | _ :: link => return (groups, ← link? groups link)

/-! ## Names -/

def isLabel (cs : List Char) : Bool :=
  !cs.isEmpty && cs.length ≤ 63 && cs.all fun c => c.isAlphanum || c = '-' || c = '_'

/-- A host can be called this: labels with points between them and perhaps one after them, which do
not begin with a hyphen and are not too long together. -/
def isName (cs : List Char) : Bool :=
  let cs' := if cs.getLast? = some '.' then cs.dropLast else cs
  cs = ['.'] ||
    (cs.head? ≠ some '-' && cs'.length ≤ 253 && (Text.splitOn '.' cs').all isLabel)

/-! ## Failures -/

/-- Why a host has no address, if it has none. -/
def failure? (host : String) : Option String :=
  let cs := host.toList
  if cs.contains '\x00' then some "file name contained an unexpected NUL byte"
  else if isBytes cs || (linked? cs).isSome || host.toLower = "localhost" then none
  else if isName cs then
    some "failed to lookup address information: Temporary failure in name resolution"
  else some "failed to lookup address information: Name or service not known"

/-- Why no connection can be made to an address. Those of eight groups are looked for on the host
itself, unless they belong to four bytes or to many hosts; where the link is missing, nothing is
looked for. -/
def dialFailure (address : String) : String :=
  match linked? address.toList with
  | none | some ([0, 0, 0, 0, 0, 0xFFFF, _, _], _) => "Network is unreachable (os error 101)"
  | some (groups, link) =>
    if 0xFF00 ≤ groups.headD 0 then "Network is unreachable (os error 101)"
    else if isOnLink groups ∧ link = 0 then "Invalid argument (os error 22)"
    else "Cannot assign requested address (os error 99)"

end Testbed.Simulation.HostName
