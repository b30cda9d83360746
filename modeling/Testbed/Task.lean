import Testbed.Prog
import Testbed.Error

/-!
# Tasks

A task is a program that may fail with an `Error`. The first error ends it; `onFailure` names what
is to be released before the error is passed on.
-/

namespace Testbed

/-- A program over `I` that may fail. -/
abbrev Task (I : Interface) (α : Type) := ExceptT Error (Prog I) α

namespace Task

variable {I : Interface} {α : Type}

/-- Runs `task`. If it fails, runs `cleanup` and fails with the same error. -/
def onFailure (task : Task I α) (cleanup : Error → Prog I Unit) : Task I α :=
  ExceptT.mk do
    match ← task.run with
    | .ok a => pure (.ok a)
    | .error e => do
      cleanup e
      pure (.error e)

/-- Runs `task` and goes on with its outcome, whether it failed or not. -/
def outcome (task : Task I α) : Task I (Except Error α) :=
  ExceptT.mk (Except.ok <$> task.run)

/-- Runs `task` and puts `wrap` around its error. -/
def mapError (wrap : Error → Error) (task : Task I α) : Task I α :=
  ExceptT.mk do
    match ← task.run with
    | .ok a => pure (.ok a)
    | .error e => pure (.error (wrap e))

end Task

end Testbed
