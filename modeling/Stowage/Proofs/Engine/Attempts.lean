import Stowage.Engine
import Stowage.Proofs.Runs

/-! # The attempts of a repeated request

A run that repeats a request sends it a number of times.  Every attempt but the last failed for a
passing reason before the deadline, and the last one alone says how the run ends.
-/

namespace Stowage.Engine

variable {Handle τ σ ε α : Type} {world : World (Gateway.interface Handle) τ σ}
  {request : Gateway.Request Handle} {before after : σ}

theorem run_ask_of_ok {reply : Gateway.Reply request}
    (answered : world.answer request before = (.ok reply, after))
    (next : Gateway.Reply request → Program (Gateway.interface Handle) τ (Failure τ) α) :
    (ask request >>= next).run world before =
      ((next reply).run world after).after (.called ⟨request, .ok reply, world.now after⟩) :=
  Program.run_call_of_ok answered next

theorem run_ask_of_error {text : String}
    (answered : world.answer request before = (.error text, after))
    (next : Gateway.Reply request → Program (Gateway.interface Handle) τ (Failure τ) α) :
    (ask request >>= next).run world before =
      ⟨[.called ⟨request, .error text, world.now after⟩], .raised text, after⟩ :=
  Program.run_call_of_error answered next

end Stowage.Engine

namespace Stowage.Retry

variable {Handle τ σ ε : Type} [Timescale τ]

/-- What came of one attempt, and when. -/
structure Try (τ : Type) where
  reply : Except String CallResult
  time : τ

namespace Try

def exchange (handle : Handle) (name : String) (attempt : Try τ) :
    Exchange (Gateway.interface Handle) τ :=
  ⟨.createIfMissing handle name, attempt.reply, attempt.time⟩

/-- An attempt after which there is time for another one. -/
def IsPassing (deadline : τ) (attempt : Try τ) : Prop :=
  (∃ reason, attempt.reply = .ok (.transient reason)) ∧ Timescale.le deadline attempt.time = false

/-- How a series of attempts ends whose last one has this number. -/
def ending (timeout deadline : τ) (number : Nat) (attempt : Try τ) : Ending ε (Attempted τ) :=
  match attempt.reply with
  | .error text => .raised text
  | .ok .ok => .returned .ok
  | .ok (.fatal reason) => .returned (.fatal reason)
  | .ok (.transient reason) =>
    if Timescale.le deadline attempt.time then .returned (.timedOut timeout number reason)
    else .unfinished

theorem ending_of_isPassing {timeout deadline : τ} {number : Nat} {attempt : Try τ}
    (passing : attempt.IsPassing deadline) :
    attempt.ending timeout deadline number = (.unfinished : Ending ε (Attempted τ)) := by
  obtain ⟨⟨reason, reply⟩, early⟩ := passing
  simp [ending, reply, early]

end Try

variable (world : World (Gateway.interface Handle) τ σ) (schedule : Schedule τ)
  (description : String) (deadline : τ) (handle : Handle) (name : String)

/-- An attempt either decides how the run ends or is passing and followed by what comes next. -/
theorem run_attemptThen (number : Nat) (again : Operation Handle τ (Attempted τ)) (state : σ) :
    let run := (attemptThen schedule description deadline
      (Engine.ask (.createIfMissing handle name)) number again).run world state
    ∃ attempt : Try τ,
      (run.exchanges = [attempt.exchange handle name] ∧
        run.ending = attempt.ending schedule.timeout deadline number ∧
        run.ending ≠ .unfinished) ∨
      (attempt.IsPassing deadline ∧ ∃ after,
        run.exchanges = attempt.exchange handle name :: (again.run world after).exchanges ∧
        run.ending = (again.run world after).ending) := by
  intro run
  rcases answered : world.answer (.createIfMissing handle name) state with ⟨reply, after⟩
  refine ⟨⟨reply, world.now after⟩, ?_⟩
  cases reply with
  | error text =>
      have stopped : run = _ := Engine.run_ask_of_error answered _
      rw [stopped]
      exact .inl ⟨rfl, rfl, nofun⟩
  | ok reply =>
      have answeredRun : run = _ := Engine.run_ask_of_ok answered _
      rw [answeredRun]
      cases reply with
      | ok => exact .inl ⟨rfl, rfl, nofun⟩
      | fatal reason => exact .inl ⟨rfl, rfl, nofun⟩
      | transient reason =>
          rw [Program.run_now_bind]
          cases late : Timescale.le deadline (world.now after) with
          | true =>
              refine .inl ?_
              rw [if_pos rfl]
              exact ⟨rfl, (if_pos late).symm, nofun⟩
          | false =>
              refine .inr ⟨⟨⟨reason, rfl⟩, late⟩, ?_⟩
              rw [if_neg Bool.false_ne_true]
              exact ⟨_, rfl, rfl⟩

/-- A run of attempts sends the request once, and again as long as the attempts are passing. -/
theorem run_attempts (limit number : Nat) (state : σ) :
    let run := (attempts schedule description deadline
      (Engine.ask (.createIfMissing handle name)) limit number).run world state
    ∃ (earlier : List (Try τ)) (last : Try τ),
      run.exchanges = (earlier ++ [last]).map (Try.exchange handle name) ∧
      (∀ attempt ∈ earlier, attempt.IsPassing deadline) ∧
      earlier.length ≤ limit ∧
      run.ending = last.ending schedule.timeout deadline (number + earlier.length) ∧
      (run.ending = .unfinished → earlier.length = limit) := by
  induction limit generalizing number state with
  | zero =>
      obtain ⟨attempt, stopped | ⟨passing, after, exchanges, ending⟩⟩ :=
        run_attemptThen world schedule description deadline handle name number .unfinished state
      · obtain ⟨exchanges, ending, finished⟩ := stopped
        exact ⟨[], attempt, exchanges, by simp, Nat.le_refl 0, ending, fun _ => rfl⟩
      · exact ⟨[], attempt, exchanges, by simp, Nat.le_refl 0,
          ending.trans (Try.ending_of_isPassing passing).symm, fun _ => rfl⟩
  | succ limit ih =>
      obtain ⟨attempt, stopped | ⟨passing, after, exchanges, ending⟩⟩ :=
        run_attemptThen world schedule description deadline handle name number
          (attempts schedule description deadline (Engine.ask (.createIfMissing handle name)) limit
            (number + 1)) state
      · obtain ⟨exchanges, ending, finished⟩ := stopped
        exact ⟨[], attempt, exchanges, by simp, Nat.zero_le _, ending,
          fun cutOff => absurd cutOff finished⟩
      · obtain ⟨earlier, last, laterExchanges, passingLater, bounded, laterEnding, cutOff⟩ :=
          ih (number + 1) after
        -- The series began one number later, with one attempt fewer before the last.
        refine ⟨attempt :: earlier, last, ?_, ?_, ?_, ?_, ?_⟩
        · exact exchanges.trans (by rw [laterExchanges]; rfl)
        · intro other member
          rcases List.mem_cons.mp member with rfl | member
          · exact passing
          · exact passingLater other member
        · exact Nat.succ_le_succ bounded
        · have counted : number + (attempt :: earlier).length = number + 1 + earlier.length := by
            rw [List.length_cons]
            omega
          rw [counted]
          exact ending.trans laterEnding
        · intro unfinished
          rw [List.length_cons, cutOff (ending.symm.trans unfinished)]

/-- A repeated request is sent until the deadline, counted from the time at which the run begins. -/
theorem run_run (limit : Nat) (state : σ) :
    let deadline := Timescale.add (world.now state) schedule.timeout
    let run := (Retry.run schedule limit description
      (Engine.ask (.createIfMissing handle name))).run world state
    ∃ (earlier : List (Try τ)) (last : Try τ),
      run.exchanges = (earlier ++ [last]).map (Try.exchange handle name) ∧
      (∀ attempt ∈ earlier, attempt.IsPassing deadline) ∧
      run.ending = last.ending schedule.timeout deadline (earlier.length + 1) ∧
      (run.ending = .unfinished → earlier.length = limit) := by
  obtain ⟨earlier, last, exchanges, passing, _, ending, cutOff⟩ :=
    run_attempts world schedule description (Timescale.add (world.now state) schedule.timeout)
      handle name limit 1 state
  rw [Nat.add_comm] at ending
  exact ⟨earlier, last, exchanges, passing, ending, cutOff⟩

end Stowage.Retry
