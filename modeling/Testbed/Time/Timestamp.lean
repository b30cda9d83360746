import Testbed.Text.Blank

/-!
# Timestamps

A timestamp is a UTC calendar date and time of day with nanoseconds. `parse` reads RFC 3339:
`T` may be lower case or a blank, any number of fraction digits is read and those after the ninth
are dropped, the zone is `Z`, `z` or a signed `hh:mm`, whose minus may be U+2212. Second 60 is a
leap second and may stand in any minute. `text` prints nine fraction digits and `Z`.
-/

namespace Testbed

/-- A UTC date and time of day. -/
structure Timestamp where
  year : Int
  month : Nat
  day : Nat
  hour : Nat
  minute : Nat
  second : Nat
  nano : Nat
  deriving DecidableEq, Repr

namespace Timestamp

/-- Years divisible by 4, except the centuries not divisible by 400. -/
def isLeapYear (year : Int) : Bool :=
  year % 4 == 0 && (year % 100 != 0 || year % 400 == 0)

def daysInMonth (year : Int) (month : Nat) : Nat :=
  if month = 2 then (if isLeapYear year then 29 else 28)
  else if month = 4 ∨ month = 6 ∨ month = 9 ∨ month = 11 then 30 else 31

/-- The fields name a day of the calendar and a time on it. -/
def Valid (t : Timestamp) : Prop :=
  1 ≤ t.month ∧ t.month ≤ 12 ∧ 1 ≤ t.day ∧ t.day ≤ daysInMonth t.year t.month ∧
    t.hour ≤ 23 ∧ t.minute ≤ 59 ∧ t.second ≤ 60 ∧ t.nano ≤ 999999999

instance (t : Timestamp) : Decidable t.Valid := by
  unfold Valid; infer_instance

/-- The same time on the day before. -/
def dayBefore (t : Timestamp) : Timestamp :=
  if 1 < t.day then { t with day := t.day - 1 }
  else if 1 < t.month then
    { t with month := t.month - 1, day := daysInMonth t.year (t.month - 1) }
  else { t with year := t.year - 1, month := 12, day := 31 }

/-- The same time on the day after. -/
def dayAfter (t : Timestamp) : Timestamp :=
  if t.day < daysInMonth t.year t.month then { t with day := t.day + 1 }
  else if t.month < 12 then { t with month := t.month + 1, day := 1 }
  else { t with year := t.year + 1, month := 1, day := 1 }

/-- The time `minutes` earlier, for less than a day either way. -/
def earlierBy (t : Timestamp) (minutes : Int) : Timestamp :=
  let m := (t.hour * 60 + t.minute : Int) - minutes
  let sameDay := { t with hour := (m % 1440 / 60).toNat, minute := (m % 60).toNat }
  if m < 0 then sameDay.dayBefore else if 1440 ≤ m then sameDay.dayAfter else sameDay

/-! ## Printing -/

/-- Four digits; a sign for years outside 0 to 9999. -/
def yearText (year : Int) : String :=
  (if year < 0 then "-" else if 9999 < year then "+" else "") ++ Text.padZero 4 year.natAbs

/-- `YYYY-MM-DDThh:mm:ss.nnnnnnnnnZ`. -/
def text (t : Timestamp) : String :=
  yearText t.year ++ "-" ++ Text.padZero 2 t.month ++ "-" ++ Text.padZero 2 t.day ++ "T" ++
    Text.padZero 2 t.hour ++ ":" ++ Text.padZero 2 t.minute ++ ":" ++ Text.padZero 2 t.second ++
    "." ++ Text.padZero 9 t.nano ++ "Z"

/-! ## Reading -/

/-- A way to read timestamps. -/
abbrev Reader := List Char → Option Timestamp

def digitValue (c : Char) : Option Nat :=
  if '0' ≤ c ∧ c ≤ '9' then some (c.toNat - '0'.toNat) else none

/-- Exactly `width` decimal digits, and what follows them. -/
def digits : Nat → List Char → Option (Nat × List Char)
  | width, cs => go width 0 cs
where
  go : Nat → Nat → List Char → Option (Nat × List Char)
    | 0, value, cs => some (value, cs)
    | _ + 1, _, [] => none
    | width + 1, value, c :: cs => do go width (value * 10 + (← digitValue c)) cs

def literal (c : Char) : List Char → Option (List Char)
  | [] => none
  | d :: cs => if d = c then some cs else none

/-- Nanoseconds from the digits after the point; digits after the ninth do not count. -/
def fraction (ds : List Char) : Nat :=
  ((ds ++ List.replicate 9 '0').take 9).foldl (fun n c => n * 10 + (c.toNat - '0'.toNat)) 0

/-- An optional point with at least one digit after it. -/
def secondFraction : List Char → Option (Nat × List Char)
  | '.' :: cs =>
    match cs.takeWhile fun c => (digitValue c).isSome with
    | [] => none
    | ds => some (fraction ds, cs.dropWhile fun c => (digitValue c).isSome)
  | cs => some (0, cs)

/-- The minutes by which the zone is ahead of UTC. -/
def zone : List Char → Option (Int × List Char)
  | 'Z' :: cs | 'z' :: cs => some (0, cs)
  | '+' :: cs => hoursAndMinutes 1 cs
  | '-' :: cs | '\u2212' :: cs => hoursAndMinutes (-1) cs
  | _ => none
where
  hoursAndMinutes (sign : Int) (cs : List Char) : Option (Int × List Char) := do
    let (hours, cs) ← digits 2 cs
    let cs ← literal ':' cs
    let (minutes, cs) ← digits 2 cs
    if hours ≤ 23 ∧ minutes ≤ 59 then some (sign * (hours * 60 + minutes : Nat), cs) else none

/-- Reads an RFC 3339 timestamp that takes up all of `cs`. -/
def parse (cs : List Char) : Option Timestamp := do
  let (year, cs) ← digits 4 cs
  let cs ← literal '-' cs
  let (month, cs) ← digits 2 cs
  let cs ← literal '-' cs
  let (day, cs) ← digits 2 cs
  let cs ← literal 'T' cs <|> literal 't' cs <|> literal ' ' cs
  let (hour, cs) ← digits 2 cs
  let cs ← literal ':' cs
  let (minute, cs) ← digits 2 cs
  let cs ← literal ':' cs
  let (second, cs) ← digits 2 cs
  let (nano, cs) ← secondFraction cs
  let (ahead, cs) ← zone cs
  let t : Timestamp := ⟨year, month, day, hour, minute, second, nano⟩
  if cs.isEmpty ∧ t.Valid then some (t.earlierBy ahead) else none

end Timestamp

end Testbed
