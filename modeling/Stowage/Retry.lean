import Stowage.Gateway
import Stowage.Timescale

/-! # Trying again

An attempt that fails for a passing reason is repeated until it succeeds, fails for good, or the
deadline is reached.  There is always a first attempt.  The waits between attempts double up to a
ceiling and never go past the deadline.
-/

namespace Stowage

structure Schedule (τ : Type) where
  timeout : τ
  /-- The wait after the first attempt. -/
  backoff : τ
  ceiling : τ

inductive Attempted (τ : Type) where
  | ok
  | fatal (reason : String)
  /-- The last attempt failed for a passing reason, at the deadline or behind it. -/
  | timedOut (timeout : τ) (attempts : Nat) (lastReason : String)
deriving DecidableEq, Repr

namespace Schedule

/-- Two minutes, with waits from half a second to ten seconds. -/
def standard : Schedule Float :=
  ⟨120, 0.5, 10⟩

/-- The most doublings that a wait goes through; from there on it is the ceiling itself. -/
def maxDoublings : Nat := 1023

variable {τ : Type} [Timescale τ]

/-- The wait after an attempt, before it is cut at the deadline.  Attempts are counted from
one. -/
def wait (schedule : Schedule τ) (attempt : Nat) : τ :=
  let doublings := attempt - 1
  if Timescale.exceeds schedule.backoff schedule.ceiling doublings then schedule.ceiling
  else if maxDoublings < doublings then schedule.ceiling
  else Timescale.max Timescale.zero
    (Timescale.min (Timescale.doubled schedule.backoff doublings) schedule.ceiling)

def waitBefore (schedule : Schedule τ) (deadline now : τ) (attempt : Nat) : τ :=
  Timescale.max Timescale.zero
    (Timescale.min (schedule.wait attempt) (Timescale.sub deadline now))

end Schedule

namespace Retry

variable {I : Interface} {τ ε : Type} [Timescale τ]

/-- The attempt of the given number.  When it failed for a passing reason before the deadline, the
program waits and goes on with `again`. -/
def attemptThen (schedule : Schedule τ) (description : String) (deadline : τ)
    (attempt : Program I τ ε CallResult) (number : Nat) (again : Program I τ ε (Attempted τ)) :
    Program I τ ε (Attempted τ) := do
  match ← attempt with
  | .ok => pure .ok
  | .fatal reason => pure (.fatal reason)
  | .transient reason =>
    let now ← Program.now
    if Timescale.le deadline now then
      Program.report (.gaveUp description number (Timescale.general schedule.timeout))
      pure (.timedOut schedule.timeout number reason)
    else
      let span := schedule.waitBefore deadline now number
      Program.report (.retrying number description reason (Timescale.tenths span))
      Program.wait span
      again

/-- The attempt of the given number and at most `limit` repetitions of it. -/
def attempts (schedule : Schedule τ) (description : String) (deadline : τ)
    (attempt : Program I τ ε CallResult) : (limit number : Nat) → Program I τ ε (Attempted τ)
  | 0, number => attemptThen schedule description deadline attempt number .unfinished
  | limit + 1, number =>
    attemptThen schedule description deadline attempt number
      (attempts schedule description deadline attempt limit (number + 1))

def run (schedule : Schedule τ) (limit : Nat) (description : String)
    (attempt : Program I τ ε CallResult) : Program I τ ε (Attempted τ) := do
  let start ← Program.now
  attempts schedule description (Timescale.add start schedule.timeout) attempt limit 1

end Retry

end Stowage
