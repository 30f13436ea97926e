import Stowage.Retry

/-! # Trials

An operation that can be tried again and again is known by its reply to each trial and by the time
that passes before the reply comes.  A series tries it under a schedule.
-/

namespace Stowage

structure Trial (τ : Type) where
  delay : τ
  reply : Except String CallResult

namespace Trial

abbrev interface : Interface :=
  ⟨Unit, fun _ => CallResult⟩

structure Progress (τ : Type) where
  clock : τ
  count : Nat

def world {τ : Type} [Timescale τ] (trials : Nat → Trial τ) : World interface τ (Progress τ) where
  now progress := progress.clock
  pause span progress := { progress with clock := Timescale.add progress.clock span }
  answer _ progress :=
    let trial := trials progress.count
    (trial.reply, ⟨Timescale.add progress.clock trial.delay, progress.count + 1⟩)

@[simp] theorem now_world {τ : Type} [Timescale τ] (trials : Nat → Trial τ)
    (progress : Progress τ) : (world trials).now progress = progress.clock := rfl

def attempt {τ ε : Type} : Program interface τ ε CallResult :=
  Program.send (I := interface) ()

end Trial

/-- Attempts at an operation under a schedule.  There is a trial for each of them, however many are
made. -/
structure Series (τ : Type) where
  schedule : Schedule τ
  description : String
  start : τ
  trials : Nat → Trial τ

/-- The series with at most `limit` repetitions of the first attempt. -/
def Series.run {τ : Type} [Timescale τ] (series : Series τ) (limit : Nat) :
    Run Trial.interface τ (Trial.Progress τ) Empty (Attempted τ) :=
  (Retry.run series.schedule limit series.description Trial.attempt).run (Trial.world series.trials)
    ⟨series.start, 0⟩

end Stowage
