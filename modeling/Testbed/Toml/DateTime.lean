import Testbed.Time.Timestamp

/-!
# Dates and times of TOML

A date, a time of day, or both; both together may come with the distance of a zone from UTC. Seconds
may be left out, and second 60 may stand in any minute. `text` writes the seconds always, a fraction
without the zeros at its end, and `T` between date and time.
-/

namespace Testbed.Toml

open Timestamp (digits literal daysInMonth secondFraction)

structure Date where
  year : Nat
  month : Nat
  day : Nat
  deriving DecidableEq, Repr

structure TimeOfDay where
  hour : Nat
  minute : Nat
  second : Nat
  nano : Nat
  deriving DecidableEq, Repr

inductive Zone where
  | utc
  /-- So many minutes ahead of UTC. -/
  | ahead (minutes : Int)
  deriving DecidableEq, Repr

inductive DateTime where
  | date (date : Date)
  | time (time : TimeOfDay)
  | dateTime (date : Date) (time : TimeOfDay) (zone : Option Zone)
  deriving DecidableEq, Repr

/-! ## Printing -/

def Date.text (d : Date) : String :=
  Text.padZero 4 d.year ++ "-" ++ Text.padZero 2 d.month ++ "-" ++ Text.padZero 2 d.day

/-- A point and the digits of a fraction of a second; nothing for a whole second. -/
def fractionText (nano : Nat) : String :=
  if nano = 0 then ""
  else "." ++ .ofList (Text.dropEndWhile (· == '0') (Text.padZero 9 nano).toList)

def TimeOfDay.text (t : TimeOfDay) : String :=
  Text.padZero 2 t.hour ++ ":" ++ Text.padZero 2 t.minute ++ ":" ++ Text.padZero 2 t.second ++
    fractionText t.nano

/-- No distance has a plus before it. -/
def Zone.text : Zone → String
  | utc => "Z"
  | ahead minutes =>
    (if minutes < 0 then "-" else "+") ++ Text.padZero 2 (minutes.natAbs / 60) ++ ":" ++
      Text.padZero 2 (minutes.natAbs % 60)

def DateTime.text : DateTime → String
  | date d => d.text
  | time t => t.text
  | dateTime d t zone => d.text ++ "T" ++ t.text ++ (zone.map Zone.text).getD ""

/-! ## Reading -/

/-- The date of the calendar at the beginning of `cs`, and what follows it. -/
def date? (cs : List Char) : Option (Date × List Char) := do
  let (year, cs) ← digits 4 cs
  let cs ← literal '-' cs
  let (month, cs) ← digits 2 cs
  let cs ← literal '-' cs
  let (day, cs) ← digits 2 cs
  if 1 ≤ month ∧ month ≤ 12 ∧ 1 ≤ day ∧ day ≤ daysInMonth year month then
    some (⟨year, month, day⟩, cs)
  else none

/-- The seconds of a time of day with their fraction in nanoseconds, and what follows them. -/
def seconds? : List Char → Option (Nat × Nat × List Char)
  | ':' :: cs => do
    let (second, cs) ← digits 2 cs
    let (nano, cs) ← secondFraction cs
    if second ≤ 60 then some (second, nano, cs) else none
  | cs => some (0, 0, cs)

/-- The time of day at the beginning of `cs`, and what follows it. -/
def time? (cs : List Char) : Option (TimeOfDay × List Char) := do
  let (hour, cs) ← digits 2 cs
  let cs ← literal ':' cs
  let (minute, cs) ← digits 2 cs
  if 23 < hour ∨ 59 < minute then none
  else do
    let (second, nano, cs) ← seconds? cs
    return (⟨hour, minute, second, nano⟩, cs)

/-- The zone that `cs` is. -/
def zone? : List Char → Option Zone
  | ['Z'] | ['z'] => some .utc
  | sign :: cs => do
    let (hours, cs) ← digits 2 cs
    let cs ← literal ':' cs
    let (minutes, cs) ← digits 2 cs
    let distance : Int := (hours * 60 + minutes : Nat)
    if 23 < hours ∨ 59 < minutes ∨ !cs.isEmpty then none
    else if sign = '+' then some (.ahead distance)
    else if sign = '-' then some (.ahead (-distance))
    else none
  | [] => none

/-- May stand between a date and a time of day. -/
def joinsTime (c : Char) : Bool := c = 'T' || c = 't' || c = ' '

/-- The date, time of day or both that `cs` is. -/
def dateTime? (cs : List Char) : Option DateTime :=
  match time? cs, date? cs with
  | some (time, []), _ => some (.time time)
  | _, some (date, []) => some (.date date)
  | _, some (date, c :: rest) =>
    if joinsTime c then
      match time? rest with
      | none => none
      | some (time, []) => some (.dateTime date time none)
      | some (time, rest) => (zone? rest).map fun zone => .dateTime date time (some zone)
    else none
  | _, none => none

end Testbed.Toml
