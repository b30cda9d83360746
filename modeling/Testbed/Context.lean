import Testbed.System

/-!
# Contexts

A context bounds an operation: it has a cancellation flag, which it shares with every context it was
copied or derived from, and perhaps a deadline of its own. A context is done once the flag is set or
the deadline has passed. Releasing what was started never asks a context.
-/

namespace Testbed

structure Context where
  token : Token
  deadline : Option Instant
  deriving DecidableEq, Repr

namespace Context

/-- Why a context is done. -/
inductive Cause where
  | cancelled
  | deadline
  deriving DecidableEq, Repr

def Cause.reason : Cause → String
  | .cancelled => "context cancelled"
  | .deadline => "deadline exceeded"

def Cause.error (c : Cause) : Error := .cancelled c.reason

/-- The context with a deadline `timeout` after `now`, or its own when that comes first. -/
def expiringAt (ctx : Context) (now : Instant) (timeout : Duration) : Context :=
  let candidate := now + timeout
  { ctx with deadline := some (match ctx.deadline with
      | some existing => min existing candidate
      | none => candidate) }

/-- Whether and why the context is done at `now`; a set flag is reported before the deadline. -/
def cause? (ctx : Context) (flagSet : Bool) (now : Instant) : Option Cause :=
  if flagSet then some .cancelled
  else if ctx.deadline.any (· ≤ now) then some .deadline
  else none

/-- The time left before the deadline. -/
def remaining? (ctx : Context) (now : Instant) : Option Duration :=
  ctx.deadline.map (· - now)

variable {A : Interface}

/-- A context of its own: no deadline, and a flag that no other context shares. -/
def background : Prog A.onSystem Context := do
  return ⟨← System.newToken, none⟩

def withTimeout (ctx : Context) (timeout : Duration) : Prog A.onSystem Context := do
  return ctx.expiringAt (← System.now) timeout

def cancel (ctx : Context) : Prog A.onSystem Unit :=
  System.cancel ctx.token

/-- Whether and why the context is done. The clock is read only for a deadline. -/
def status (ctx : Context) : Prog A.onSystem (Option Cause) := do
  if ← System.isCancelled ctx.token then return some .cancelled
  match ctx.deadline with
  | none => return none
  | some deadline => return if deadline ≤ (← System.now) then some .deadline else none

/-- Fails once the context is done. -/
def check (ctx : Context) : Task A.onSystem Unit := do
  match ← (ctx.status : Prog A.onSystem _) with
  | some cause => throw cause.error
  | none => return ()

def isDone (ctx : Context) : Prog A.onSystem Bool := do
  return (← ctx.status).isSome

def remaining (ctx : Context) : Prog A.onSystem (Option Duration) := do
  match ctx.deadline with
  | none => return none
  | some _ => return ctx.remaining? (← System.now)

/-- The longest sleep between two looks at a context. -/
def sleepSlice : Duration := .ofMillis 50

/-- Sleeps in slices until the clock reaches `wake`, looking at the context before each slice. -/
def sleepUntil (ctx : Context) (wake : Instant) : Nat → Task A.onSystem Unit
  | 0 => .mk .diverge
  | rounds + 1 => do
    ctx.check
    let now ← (System.now : Prog A.onSystem _)
    if wake ≤ now then return ()
    System.sleep (A := A) (min sleepSlice (wake - now))
    ctx.sleepUntil wake rounds

/-- Sleeps for `duration` unless the context is done before. `rounds` bounds the number of slices.
-/
def sleep (ctx : Context) (duration : Duration) (rounds : Nat) : Task A.onSystem Unit := do
  let start ← (System.now : Prog A.onSystem _)
  ctx.sleepUntil (start + duration) rounds

end Context

end Testbed
