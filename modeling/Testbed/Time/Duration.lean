import Testbed.Text.Blank

/-!
# Durations and instants

Both count nanoseconds. A duration prints as a decimal of the largest of `s`, `ms`, `µs` and `ns`
that it reaches, without trailing zeros: `1.5s`, `33.5ms`, `20µs`, `0ns`.

There is no longest duration here and no last instant. A machine has both, and a program that adds
to an instant more than is left to the last one is aborted there. This is not modelled: what is said
here of a deadline is said of one that the clock of the machine can represent.
-/

namespace Testbed

/-- A length of time, however long. -/
structure Duration where
  nanos : Nat
  deriving DecidableEq, Repr

/-- A reading of a clock that never goes back and never comes to an end. -/
structure Instant where
  nanos : Nat
  deriving DecidableEq, Repr

namespace Duration

def ofMicros (n : Nat) : Duration := ⟨n * 1000⟩

def ofMillis (n : Nat) : Duration := ⟨n * 1000000⟩

def ofSecs (n : Nat) : Duration := ⟨n * 1000000000⟩

def zero : Duration := ⟨0⟩

instance : LE Duration := ⟨fun a b => a.nanos ≤ b.nanos⟩

instance (a b : Duration) : Decidable (a ≤ b) := inferInstanceAs (Decidable (a.nanos ≤ b.nanos))

instance : Min Duration := ⟨fun a b => ⟨min a.nanos b.nanos⟩⟩

/-- What is left of `a` once `b` has passed; nothing when `b` is longer. -/
instance : Sub Duration := ⟨fun a b => ⟨a.nanos - b.nanos⟩⟩

theorem le_iff {a b : Duration} : a ≤ b ↔ a.nanos ≤ b.nanos := Iff.rfl

@[simp] theorem nanos_min (a b : Duration) : (min a b).nanos = min a.nanos b.nanos := rfl

@[simp] theorem nanos_sub (a b : Duration) : (a - b).nanos = a.nanos - b.nanos := rfl

/-- A decimal with `places` digits after the point, less the trailing zeros; no point when none
are left. -/
def decimal (whole places fraction : Nat) : String :=
  let digits := Text.dropEndWhile (· == '0') (Text.padZero places fraction).toList
  if digits.isEmpty then toString whole else s!"{whole}." ++ String.ofList digits

/-- The duration as a decimal of its largest unit. -/
def text (d : Duration) : String :=
  let n := d.nanos
  if 1000000000 ≤ n then decimal (n / 1000000000) 9 (n % 1000000000) ++ "s"
  else if 1000000 ≤ n then decimal (n / 1000000) 6 (n % 1000000) ++ "ms"
  else if 1000 ≤ n then decimal (n / 1000) 3 (n % 1000) ++ "µs"
  else toString n ++ "ns"

end Duration

namespace Instant

instance : LE Instant := ⟨fun a b => a.nanos ≤ b.nanos⟩

instance (a b : Instant) : Decidable (a ≤ b) := inferInstanceAs (Decidable (a.nanos ≤ b.nanos))

instance : Min Instant := ⟨fun a b => ⟨min a.nanos b.nanos⟩⟩

/-- The time `d` after `t`, which always is one. -/
instance : HAdd Instant Duration Instant := ⟨fun t d => ⟨t.nanos + d.nanos⟩⟩

/-- The time from `b` to `a`; nothing when `a` is the earlier one. -/
instance : HSub Instant Instant Duration := ⟨fun a b => ⟨a.nanos - b.nanos⟩⟩

theorem le_iff {a b : Instant} : a ≤ b ↔ a.nanos ≤ b.nanos := Iff.rfl

@[simp] theorem nanos_add (t : Instant) (d : Duration) : (t + d).nanos = t.nanos + d.nanos := rfl

@[simp] theorem nanos_min (a b : Instant) : (min a b).nanos = min a.nanos b.nanos := rfl

@[simp] theorem nanos_sub (a b : Instant) : (a - b).nanos = a.nanos - b.nanos := rfl

end Instant

end Testbed
