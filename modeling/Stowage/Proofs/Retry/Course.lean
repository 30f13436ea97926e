import Stowage.Proofs.Runs
import Stowage.Trial

/-! # The course of a series

A series stops at its first decisive attempt: the reply to it is no passing failure, or it comes at
the deadline or behind it.  Each attempt before that one is a round of a reply, a warning and a
wait.
-/

namespace Stowage.Series

open Program

variable {τ : Type} [Timescale τ] (series : Series τ)

def deadline : τ :=
  Timescale.add series.start series.schedule.timeout

/-- When the attempt of an index begins, if none before it was decisive. -/
def begins : Nat → τ
  | 0 => series.start
  | index + 1 =>
    let replied := Timescale.add (begins index) (series.trials index).delay
    Timescale.add replied (series.schedule.waitBefore series.deadline replied (index + 1))

def replied (index : Nat) : τ :=
  Timescale.add (series.begins index) (series.trials index).delay

/-- The wait that follows if that attempt is not decisive. -/
def span (index : Nat) : τ :=
  series.schedule.waitBefore series.deadline (series.replied index) (index + 1)

theorem begins_succ (index : Nat) :
    series.begins (index + 1) = Timescale.add (series.replied index) (series.span index) := rfl

def IsDecisive (index : Nat) : Prop :=
  (∀ reason, (series.trials index).reply ≠ .ok (.transient reason)) ∨
    Timescale.le series.deadline (series.replied index) = true

structure IsFirstDecisive (index : Nat) : Prop where
  decisive : series.IsDecisive index
  earlier : ∀ other < index, ¬series.IsDecisive other

/-- How the series ends if the attempt of an index is decisive.  Attempts are counted from one. -/
def ending (index : Nat) : Ending Empty (Attempted τ) :=
  match (series.trials index).reply with
  | .error text => .raised text
  | .ok .ok => .returned .ok
  | .ok (.fatal reason) => .returned (.fatal reason)
  | .ok (.transient reason) =>
    .returned (.timedOut series.schedule.timeout (index + 1) reason)

omit [Timescale τ] in
theorem ending_cases (index : Nat) :
    (∃ result, series.ending index = .returned result) ∨
      ∃ text, series.ending index = .raised text := by
  unfold ending
  split
  · exact .inr ⟨_, rfl⟩
  all_goals exact .inl ⟨_, rfl⟩

def reason (index : Nat) : String :=
  match (series.trials index).reply with
  | .ok (.transient reason) | .ok (.fatal reason) => reason
  | _ => ""

def exchange (index : Nat) : Exchange Trial.interface τ :=
  ⟨(), (series.trials index).reply, series.replied index⟩

/-- An attempt that another one follows. -/
def round (index : Nat) : List (Action Trial.interface τ) := [
  .called (series.exchange index),
  .noted (.retrying (index + 1) series.description (series.reason index)
    (Timescale.tenths (series.span index))),
  .paused (series.span index)]

/-- What is reported at the end: that the series gives up, if it has timed out. -/
def closing : Ending Empty (Attempted τ) → List (Action Trial.interface τ)
  | .returned (.timedOut timeout attempts _) =>
    [.noted (.gaveUp series.description attempts (Timescale.general timeout))]
  | _ => []

def rounds (count : Nat) : List (Action Trial.interface τ) :=
  (List.range count).flatMap series.round

theorem rounds_succ (count : Nat) :
    series.rounds (count + 1) = series.rounds count ++ series.round count := by
  simp [rounds, List.range_succ]

section Words

variable (rest : List (Action Trial.interface τ)) (ended : Ending Empty (Attempted τ))
  (progress : Trial.Progress τ)

theorem exchanges_rounds (count : Nat) :
    Run.exchanges ⟨series.rounds count ++ rest, ended, progress⟩ =
      (List.range count).map series.exchange ++ Run.exchanges ⟨rest, ended, progress⟩ := by
  induction count generalizing rest with
  | zero => rfl
  | succ count ih =>
      rw [rounds_succ, List.append_assoc, ih, List.range_succ]
      simp [round, Run.exchanges]

theorem pauses_rounds (count : Nat) :
    Run.pauses ⟨series.rounds count ++ rest, ended, progress⟩ =
      (List.range count).map series.span ++ Run.pauses ⟨rest, ended, progress⟩ := by
  induction count generalizing rest with
  | zero => rfl
  | succ count ih =>
      rw [rounds_succ, List.append_assoc, ih, List.range_succ]
      simp [round, Run.pauses]

theorem words_closing (index : Nat) :
    Run.exchanges ⟨.called (series.exchange index) :: series.closing ended, ended, progress⟩ =
        [series.exchange index] ∧
      Run.pauses ⟨.called (series.exchange index) :: series.closing ended, ended, progress⟩ = [] := by
  unfold closing
  split <;> exact ⟨rfl, rfl⟩

end Words

variable {series} {index : Nat}

theorem not_isDecisive_iff : ¬series.IsDecisive index ↔
    (∃ reason, (series.trials index).reply = .ok (.transient reason)) ∧
      Timescale.le series.deadline (series.replied index) = false := by
  simp [IsDecisive]

theorem late_of_timedOut {timeout : τ} {attempts : Nat} {reason : String}
    (decisive : series.IsDecisive index)
    (timedOut : series.ending index = .returned (.timedOut timeout attempts reason)) :
    Timescale.le series.deadline (series.replied index) = true := by
  unfold ending at timedOut
  split at timedOut
  · cases timedOut
  · cases timedOut
  · cases timedOut
  · next transient => exact decisive.resolve_left fun lasting => lasting _ transient

theorem run_attempt_of_ok {α : Type} {result : CallResult}
    (reply : (series.trials index).reply = .ok result)
    (next : CallResult → Program Trial.interface τ Empty α) :
    (Trial.attempt >>= next).run (Trial.world series.trials) ⟨series.begins index, index⟩ =
      ((next result).run (Trial.world series.trials) ⟨series.replied index, index + 1⟩).after
        (.called (series.exchange index)) := by
  have answered : (Trial.world series.trials).answer () ⟨series.begins index, index⟩ =
      (.ok result, ⟨series.replied index, index + 1⟩) := by
    rw [← reply]
    rfl
  rw [exchange, reply]
  exact run_call_of_ok answered next

theorem run_attempt_of_error {α : Type} {text : String}
    (reply : (series.trials index).reply = .error text)
    (next : CallResult → Program Trial.interface τ Empty α) :
    (Trial.attempt >>= next).run (Trial.world series.trials) ⟨series.begins index, index⟩ =
      ⟨[.called (series.exchange index)], .raised text, ⟨series.replied index, index + 1⟩⟩ := by
  have answered : (Trial.world series.trials).answer () ⟨series.begins index, index⟩ =
      (.error text, ⟨series.replied index, index + 1⟩) := by
    rw [← reply]
    rfl
  rw [exchange, reply]
  exact run_call_of_error answered next

variable (again : Program Trial.interface τ Empty (Attempted τ))

theorem run_attemptThen_of_passing (passing : ¬series.IsDecisive index) :
    (Retry.attemptThen series.schedule series.description series.deadline Trial.attempt (index + 1)
        again).run (Trial.world series.trials) ⟨series.begins index, index⟩ =
      let rest := again.run (Trial.world series.trials) ⟨series.begins (index + 1), index + 1⟩
      ⟨series.round index ++ rest.actions, rest.ending, rest.state⟩ := by
  obtain ⟨⟨reason, reply⟩, early⟩ := not_isDecisive_iff.mp passing
  unfold Retry.attemptThen
  rw [run_attempt_of_ok reply]
  dsimp only
  rw [run_now_bind, Trial.now_world, if_neg (ne_true_of_eq_false early), round, Series.reason,
    reply]
  rfl

theorem run_attemptThen_of_isDecisive (decisive : series.IsDecisive index) :
    (Retry.attemptThen series.schedule series.description series.deadline Trial.attempt (index + 1)
        again).run (Trial.world series.trials) ⟨series.begins index, index⟩ =
      ⟨.called (series.exchange index) :: series.closing (series.ending index),
        series.ending index, ⟨series.replied index, index + 1⟩⟩ := by
  unfold Retry.attemptThen ending
  cases reply : (series.trials index).reply with
  | error text => exact run_attempt_of_error reply _
  | ok result =>
      rw [run_attempt_of_ok reply]
      cases result with
      | ok => rfl
      | fatal reason => rfl
      | transient reason =>
          have late : Timescale.le series.deadline (series.replied index) = true :=
            decisive.resolve_left fun lasting => lasting reason reply
          dsimp only
          rw [run_now_bind, Trial.now_world, if_pos late]
          rfl

variable (series) in
/-- The series from the attempt of an index on, with at most `limit` repetitions of that attempt. -/
def onward (limit index : Nat) : Run Trial.interface τ (Trial.Progress τ) Empty (Attempted τ) :=
  (Retry.attempts series.schedule series.description series.deadline Trial.attempt limit
    (index + 1)).run (Trial.world series.trials) ⟨series.begins index, index⟩

theorem onward_zero_of_passing (passing : ¬series.IsDecisive index) :
    series.onward 0 index =
      ⟨series.round index, .unfinished, ⟨series.begins (index + 1), index + 1⟩⟩ := by
  refine (run_attemptThen_of_passing .unfinished passing).trans ?_
  simp

theorem onward_succ_of_passing (limit : Nat) (passing : ¬series.IsDecisive index) :
    series.onward (limit + 1) index =
      let rest := series.onward limit (index + 1)
      ⟨series.round index ++ rest.actions, rest.ending, rest.state⟩ :=
  run_attemptThen_of_passing _ passing

theorem onward_of_isDecisive (limit : Nat) (decisive : series.IsDecisive index) :
    series.onward limit index =
      ⟨.called (series.exchange index) :: series.closing (series.ending index),
        series.ending index, ⟨series.replied index, index + 1⟩⟩ := by
  cases limit with
  | zero => exact run_attemptThen_of_isDecisive _ decisive
  | succ limit => exact run_attemptThen_of_isDecisive _ decisive

/-- Behind attempts that are not decisive, the series goes on with as many repetitions fewer. -/
theorem run_eq_rounds {count : Nat} (limit : Nat)
    (passing : ∀ index < count, ¬series.IsDecisive index) :
    series.run (limit + count) =
      let rest := series.onward limit count
      ⟨series.rounds count ++ rest.actions, rest.ending, rest.state⟩ := by
  induction count generalizing limit with
  | zero => rfl
  | succ count ih =>
      have before := ih (limit + 1) fun index less => passing index (Nat.lt_succ_of_lt less)
      rw [onward_succ_of_passing limit (passing count (Nat.lt_succ_self count))] at before
      rw [Nat.add_right_comm] at before
      refine before.trans ?_
      simp [rounds_succ]

/-- A series that comes to its first decisive attempt ends there, however many repetitions would be
left. -/
theorem run_of_isFirstDecisive {limit : Nat} (first : series.IsFirstDecisive index)
    (enough : index ≤ limit) :
    series.run limit =
      ⟨series.rounds index ++ .called (series.exchange index) :: series.closing (series.ending index),
        series.ending index, ⟨series.replied index, index + 1⟩⟩ := by
  obtain ⟨rest, rfl⟩ := Nat.exists_eq_add_of_le' enough
  rw [run_eq_rounds rest first.earlier, onward_of_isDecisive rest first.decisive]

theorem run_of_passing {limit : Nat} (passing : ∀ index ≤ limit, ¬series.IsDecisive index) :
    series.run limit =
      ⟨series.rounds (limit + 1), .unfinished, ⟨series.begins (limit + 1), limit + 1⟩⟩ := by
  have before := run_eq_rounds 0 fun index less => passing index (Nat.le_of_lt less)
  rw [Nat.zero_add, onward_zero_of_passing (passing limit (Nat.le_refl limit))] at before
  simpa [rounds_succ] using before

theorem words_of_isFirstDecisive {limit : Nat} (first : series.IsFirstDecisive index)
    (enough : index ≤ limit) :
    (series.run limit).exchanges = (List.range (index + 1)).map series.exchange ∧
      (series.run limit).pauses = (List.range index).map series.span := by
  obtain ⟨exchanges, pauses⟩ := series.words_closing (series.ending index)
    ⟨series.replied index, index + 1⟩ index
  rw [run_of_isFirstDecisive first enough, exchanges_rounds, pauses_rounds, exchanges, pauses]
  simp [List.range_succ]

theorem words_of_passing {limit : Nat} (passing : ∀ index ≤ limit, ¬series.IsDecisive index) :
    (series.run limit).exchanges = (List.range (limit + 1)).map series.exchange ∧
      (series.run limit).pauses = (List.range (limit + 1)).map series.span := by
  rw [run_of_passing passing, ← List.append_nil (series.rounds (limit + 1)), exchanges_rounds,
    pauses_rounds]
  simp [Run.exchanges, Run.pauses]

theorem exists_isFirstDecisive_or_passing (series : Series τ) (limit : Nat) :
    (∃ index ≤ limit, series.IsFirstDecisive index) ∨
      ∀ index ≤ limit, ¬series.IsDecisive index := by
  induction limit with
  | zero =>
      by_cases decisive : series.IsDecisive 0
      · exact .inl ⟨0, Nat.le_refl 0, decisive, nofun⟩
      · refine .inr fun index bounded => ?_
        rwa [Nat.le_zero.mp bounded]
  | succ limit ih =>
      rcases ih with ⟨index, bounded, first⟩ | passing
      · exact .inl ⟨index, Nat.le_succ_of_le bounded, first⟩
      by_cases decisive : series.IsDecisive (limit + 1)
      · exact .inl ⟨limit + 1, Nat.le_refl _, decisive, fun index less =>
          passing index (Nat.le_of_lt_succ less)⟩
      · refine .inr fun index bounded => ?_
        rcases Nat.le_succ_iff.mp bounded with earlier | rfl
        · exact passing index earlier
        · exact decisive

/-- A run makes its attempts in order, and all but perhaps the last one are not decisive. -/
theorem exists_words (series : Series τ) (limit : Nat) :
    ∃ count calls, (∀ index < count, ¬series.IsDecisive index) ∧ count ≤ calls ∧
      calls ≤ count + 1 ∧
      (series.run limit).pauses = (List.range count).map series.span ∧
      (series.run limit).exchanges = (List.range calls).map series.exchange := by
  rcases series.exists_isFirstDecisive_or_passing limit with ⟨index, enough, first⟩ | passing
  · obtain ⟨exchanges, pauses⟩ := words_of_isFirstDecisive first enough
    exact ⟨index, index + 1, first.earlier, Nat.le_succ index, Nat.le_refl _, pauses, exchanges⟩
  · obtain ⟨exchanges, pauses⟩ := words_of_passing passing
    exact ⟨limit + 1, limit + 1, fun index less => passing index (Nat.le_of_lt_succ less),
      Nat.le_refl _, Nat.le_succ _, pauses, exchanges⟩

/-- The series makes its attempts up to the first decisive one and ends as the reply to that one
says.  Before each wait it warns once, and it reports that it gives up if it has timed out. -/
theorem run_stops_at_first_decisive {limit : Nat} (first : series.IsFirstDecisive index)
    (enough : index ≤ limit) :
    let run := series.run limit
    run.requests.length = index + 1 ∧ run.pauses.length = index ∧
      run.ending = series.ending index ∧
      run.actions = (List.range index).flatMap series.round ++
        .called (series.exchange index) :: series.closing run.ending := by
  intro run
  have whole : run = _ := run_of_isFirstDecisive first enough
  obtain ⟨exchanges, pauses⟩ := words_of_isFirstDecisive first enough
  refine ⟨?_, ?_, ?_, ?_⟩
  · simp [run, Run.requests, exchanges]
  · simp [run, pauses]
  · rw [whole]
  · rw [whole]
    rfl

/-- A refusal that comes behind the deadline, after a wait up to it. -/
theorem run_stops_at_first_decisive_refused :
    let lag : Trial Rat := ⟨1, .ok (.transient "lag")⟩
    let refusal : Trial Rat := ⟨4, .ok (.fatal "denied")⟩
    let series : Series Rat :=
      ⟨⟨3, 2, 10⟩, "operation", 5, fun index => if index = 0 then lag else refusal⟩
    series.IsFirstDecisive 1 ∧ (series.run 9).requests.length = 2 ∧
      (series.run 9).pauses.length = 1 ∧
      (series.run 9).ending = .returned (.fatal "denied") := by
  intro lag refusal series
  have first : series.IsFirstDecisive 1 := by
    refine ⟨.inl nofun, fun other less => not_isDecisive_iff.mpr ?_⟩
    obtain rfl : other = 0 := Nat.lt_one_iff.mp less
    exact ⟨⟨"lag", rfl⟩, by decide +kernel⟩
  obtain ⟨requests, pauses, ended, _⟩ := run_stops_at_first_decisive first (show 1 ≤ 9 by decide)
  exact ⟨first, requests, pauses, ended⟩

end Stowage.Series
