import Mathlib.Algebra.Order.Field.Rat
import Mathlib.Tactic.Linarith
import Stowage.Proofs.Retry.Course

/-! # The pace of a series

In exact numbers the waits of a series double up to the ceiling.  Only the last one can be cut short
by the deadline, for the attempt behind a wait that was cut short begins at the deadline.
-/

namespace Stowage

namespace Timescale

variable (a b : Rat)

@[simp] theorem add_rat : add a b = a + b := rfl

@[simp] theorem sub_rat : sub a b = a - b := rfl

@[simp] theorem zero_rat : (zero : Rat) = 0 := rfl

@[simp] theorem le_rat : le a b = decide (a ≤ b) := rfl

@[simp] theorem max_rat : Timescale.max a b = Max.max a b := by
  rw [max_def_lt]
  simp [Timescale.max, lt]

@[simp] theorem min_rat : Timescale.min a b = Min.min a b := by
  rw [min_comm, min_def_lt]
  simp [Timescale.min, lt]

end Timescale

namespace Schedule

variable (schedule : Schedule Rat)

/-- The wait after an attempt that is far from the deadline. -/
def unclipped (attempt : Nat) : Rat :=
  if attempt ≤ 1024 then max 0 (min (schedule.backoff * 2 ^ (attempt - 1)) schedule.ceiling)
  else max 0 schedule.ceiling

theorem max_wait (attempt : Nat) : max 0 (schedule.wait attempt) = schedule.unclipped attempt := by
  have unknown (doublings : Nat) :
      Timescale.exceeds schedule.backoff schedule.ceiling doublings = false := rfl
  have doubled (doublings : Nat) :
      Timescale.doubled schedule.backoff doublings = schedule.backoff * 2 ^ doublings := rfl
  by_cases few : attempt ≤ 1024
  · have within : ¬maxDoublings < attempt - 1 := by unfold maxDoublings; omega
    simp [wait, unclipped, unknown, doubled, few, within]
  · have beyond : maxDoublings < attempt - 1 := by unfold maxDoublings; omega
    simp [wait, unclipped, unknown, few, beyond]

/-- Before the deadline a wait is cut at the deadline and not otherwise. -/
theorem waitBefore_eq {deadline now : Rat} (early : now ≤ deadline) (attempt : Nat) :
    schedule.waitBefore deadline now attempt =
      min (schedule.unclipped attempt) (deadline - now) := by
  have left : max 0 (deadline - now) = deadline - now := max_eq_right (sub_nonneg.mpr early)
  rw [← schedule.max_wait attempt, waitBefore, Timescale.max_rat, Timescale.min_rat,
    Timescale.zero_rat, Timescale.sub_rat, max_min_distrib_left, left]

theorem unclipped_nonneg (attempt : Nat) : 0 ≤ schedule.unclipped attempt := by
  unfold unclipped
  split <;> exact le_max_left 0 _

theorem unclipped_le (attempt : Nat) : schedule.unclipped attempt ≤ max 0 schedule.ceiling := by
  unfold unclipped
  split
  · exact max_le_max_left 0 (min_le_right _ _)
  · exact le_refl _

theorem unclipped_mono : Monotone schedule.unclipped := by
  intro attempt later behind
  by_cases few : later ≤ 1024
  · have fewToo : attempt ≤ 1024 := le_trans behind few
    simp only [unclipped, few, fewToo, if_true]
    rcases le_total 0 schedule.backoff with growing | negative
    · gcongr
      exact one_le_two
    · have nothing : schedule.backoff * 2 ^ (attempt - 1) ≤ 0 :=
        mul_nonpos_of_nonpos_of_nonneg negative (by positivity)
      rw [max_eq_left ((min_le_left _ _).trans nothing)]
      exact le_max_left 0 _
  · calc schedule.unclipped attempt ≤ max 0 schedule.ceiling := schedule.unclipped_le attempt
      _ = schedule.unclipped later := by rw [unclipped, if_neg few]

end Schedule

namespace Series

variable {series : Series Rat} {index : Nat}

theorem early_of_passing (passing : ¬series.IsDecisive index) :
    series.replied index < series.deadline := by
  simpa using (not_isDecisive_iff.mp passing).2

theorem isDecisive_of_late (late : series.deadline ≤ series.replied index) :
    series.IsDecisive index :=
  .inr (decide_eq_true late)

theorem span_eq (passing : ¬series.IsDecisive index) :
    series.span index = min (series.schedule.unclipped (index + 1))
      (series.deadline - series.replied index) :=
  series.schedule.waitBefore_eq (early_of_passing passing).le (index + 1)

theorem span_nonneg (passing : ¬series.IsDecisive index) : 0 ≤ series.span index := by
  rw [span_eq passing]
  exact le_min (series.schedule.unclipped_nonneg _) (sub_nonneg.mpr (early_of_passing passing).le)

theorem begins_succ_le_deadline (passing : ¬series.IsDecisive index) :
    series.begins (index + 1) ≤ series.deadline := by
  have clipped : series.span index ≤ series.deadline - series.replied index := by
    rw [span_eq passing]
    exact min_le_right _ _
  rw [begins_succ, Timescale.add_rat]
  linarith

section Advancing

variable (advancing : ∀ index, 0 ≤ (series.trials index).delay)

include advancing

theorem begins_le_replied : series.begins index ≤ series.replied index :=
  le_add_of_nonneg_right (advancing index)

/-- A wait before an attempt that is not decisive was not cut short. -/
theorem span_eq_unclipped (passing : ¬series.IsDecisive index)
    (passingLater : ¬series.IsDecisive (index + 1)) :
    series.span index = series.schedule.unclipped (index + 1) := by
  rw [span_eq passing]
  refine min_eq_left (le_of_not_gt fun clipped => passingLater (isDecisive_of_late ?_))
  -- A wait that was cut short ends at the deadline, and the next reply does not come before.
  calc series.deadline = series.replied index + series.span index := by
        rw [span_eq passing, min_eq_right clipped.le, add_sub_cancel]
    _ = series.begins (index + 1) := rfl
    _ ≤ series.replied (index + 1) := begins_le_replied advancing

end Advancing

/-- If only the waits take time, no attempt begins behind the deadline. -/
theorem begins_le_deadline (patient : 0 ≤ series.schedule.timeout)
    (passing : ∀ other < index, ¬series.IsDecisive other) :
    series.begins index ≤ series.deadline := by
  cases index with
  | zero => exact le_add_of_nonneg_right patient
  | succ index => exact begins_succ_le_deadline (passing index (Nat.lt_succ_self index))

/-- How a run of a series waits.  Waits and replies are numbered from 0. -/
structure IsPaced (series : Series Rat)
    (run : Run Trial.interface Rat (Trial.Progress Rat) Empty (Attempted Rat)) : Prop where
  /-- There is a wait before every attempt but the first. -/
  parted : run.exchanges.length ≤ run.pauses.length + 1
  clipped {index : Nat} {span : Rat} (paused : run.pauses[index]? = some span) :
    ∃ exchange, run.exchanges[index]? = some exchange ∧
      span = min (series.schedule.unclipped (index + 1)) (series.deadline - exchange.time) ∧
      0 ≤ span ∧ exchange.time + span ≤ series.deadline
  /-- Only the first attempt can begin behind the deadline. -/
  punctual {index : Nat} {exchange : Exchange Trial.interface Rat}
    (called : run.exchanges[index + 1]? = some exchange) :
    exchange.time - (series.trials (index + 1)).delay ≤ series.deadline
  /-- Only the last wait can be cut short. -/
  unclipped {index : Nat} (later : index + 1 < run.pauses.length) :
    run.pauses[index]? = some (series.schedule.unclipped (index + 1))
  sorted : run.pauses.dropLast.Pairwise (· ≤ ·)
  bounded : ∀ span ∈ run.pauses, span ≤ max 0 series.schedule.ceiling

theorem getElem?_map_range {α : Type} {f : Nat → α} {count index : Nat} {value : α} :
    ((List.range count).map f)[index]? = some value ↔ index < count ∧ f index = value := by
  simp [List.getElem?_eq_some_iff]

theorem sorted_spans (advancing : ∀ index, 0 ≤ (series.trials index).delay) {count : Nat}
    (passing : ∀ index < count, ¬series.IsDecisive index) :
    ((List.range count).map series.span).dropLast.Pairwise (· ≤ ·) := by
  cases count with
  | zero => simp
  | succ count =>
      have uncut {index : Nat} (less : index < count) :
          series.span index = series.schedule.unclipped (index + 1) :=
        span_eq_unclipped advancing (passing index (by omega)) (passing (index + 1) (by omega))
      simp only [List.range_succ, List.map_append, List.map_singleton, List.dropLast_concat,
        List.pairwise_map]
      refine List.pairwise_lt_range.imp_of_mem fun {earlier later} _ member less => ?_
      have bounded : later < count := List.mem_range.mp member
      rw [uncut (less.trans bounded), uncut bounded]
      exact series.schedule.unclipped_mono (by omega)

theorem isPaced_of_words (advancing : ∀ index, 0 ≤ (series.trials index).delay)
    {run : Run Trial.interface Rat (Trial.Progress Rat) Empty (Attempted Rat)} {count calls : Nat}
    (passing : ∀ index < count, ¬series.IsDecisive index) (enough : count ≤ calls)
    (few : calls ≤ count + 1) (pauses : run.pauses = (List.range count).map series.span)
    (exchanges : run.exchanges = (List.range calls).map series.exchange) :
    series.IsPaced run where
  parted := by simpa [exchanges, pauses] using few
  clipped {index span} paused := by
    obtain ⟨less, rfl⟩ := getElem?_map_range.mp (pauses ▸ paused)
    have called : run.exchanges[index]? = some (series.exchange index) :=
      exchanges ▸ getElem?_map_range.mpr ⟨Nat.lt_of_lt_of_le less enough, rfl⟩
    exact ⟨_, called, span_eq (passing index less), span_nonneg (passing index less),
      begins_succ_le_deadline (passing index less)⟩
  punctual {index exchange} called := by
    obtain ⟨less, rfl⟩ := getElem?_map_range.mp (exchanges ▸ called)
    have begun := begins_succ_le_deadline (passing index (by omega))
    simpa [Series.exchange, replied] using begun
  unclipped {index} later := by
    rw [pauses, List.length_map, List.length_range] at later
    exact pauses ▸ getElem?_map_range.mpr ⟨Nat.lt_of_succ_lt later,
      span_eq_unclipped advancing (passing index (Nat.lt_of_succ_lt later)) (passing _ later)⟩
  sorted := pauses ▸ sorted_spans advancing passing
  bounded span member := by
    rw [pauses] at member
    obtain ⟨index, less, rfl⟩ := List.mem_map.mp member
    rw [span_eq (passing index (List.mem_range.mp less))]
    exact (min_le_left _ _).trans (series.schedule.unclipped_le _)

/-- A run waits as long as the schedule says, cut at the deadline.  Where only the waits take time,
it ends at the deadline or before it, and exactly there if it has timed out. -/
theorem run_isPaced (advancing : ∀ index, 0 ≤ (series.trials index).delay) (limit : Nat) :
    let run := series.run limit
    series.IsPaced run ∧
      ((∀ index, (series.trials index).delay = 0) → 0 ≤ series.schedule.timeout →
        run.state.clock ≤ series.deadline ∧
          ∀ timeout attempts reason, run.ending = .returned (.timedOut timeout attempts reason) →
            run.state.clock = series.deadline) := by
  intro run
  obtain ⟨count, calls, passing, enough, few, pauses, exchanges⟩ := series.exists_words limit
  refine ⟨isPaced_of_words advancing passing enough few pauses exchanges,
    fun still patient => ?_⟩
  rcases series.exists_isFirstDecisive_or_passing limit with ⟨index, enough, first⟩ | passing
  · have whole : run = _ := run_of_isFirstDecisive first enough
    have punctual : series.replied index ≤ series.deadline := by
      rw [replied, still index, Timescale.add_rat, add_zero]
      exact begins_le_deadline patient first.earlier
    rw [whole]
    refine ⟨punctual, fun timeout attempts reason timedOut => le_antisymm punctual ?_⟩
    exact of_decide_eq_true (late_of_timedOut first.decisive timedOut)
  · have whole : run = _ := run_of_passing passing
    rw [whole]
    exact ⟨begins_succ_le_deadline (passing limit (Nat.le_refl limit)), nofun⟩

/-- A wait as the schedule says, another that is cut short, and the attempt at the deadline. -/
theorem run_isPaced_lagging :
    let series : Series Rat := ⟨⟨3, 2, 10⟩, "operation", 0, fun _ => ⟨0, .ok (.transient "lag")⟩⟩
    let run := series.run 9
    (∀ index, 0 ≤ (series.trials index).delay) ∧ run.pauses.length = 2 ∧
      run.pauses[0]? = some 2 ∧ run.state.clock = 3 := by
  intro series run
  have early : ∀ other < 2, Timescale.le series.deadline (series.replied other) = false := by
    decide +kernel
  have first : series.IsFirstDecisive 2 := ⟨.inr (by decide +kernel), fun other less =>
    not_isDecisive_iff.mpr ⟨⟨"lag", rfl⟩, early other less⟩⟩
  have pauses : run.pauses.length = 2 := by
    simp [run, (words_of_isFirstDecisive first (show 2 ≤ 9 by decide)).2]
  have ended : run.ending = .returned (.timedOut 3 3 "lag") :=
    congrArg Run.ending (run_of_isFirstDecisive first (show 2 ≤ 9 by decide))
  have advancing : ∀ index, 0 ≤ (series.trials index).delay := fun _ => le_refl 0
  obtain ⟨paced, still⟩ := run_isPaced advancing 9
  have uncut : run.pauses[0]? = some (series.schedule.unclipped 1) :=
    paced.unclipped (by rw [pauses]; decide)
  have doubled : series.schedule.unclipped 1 = 2 := by decide +kernel
  have due : series.deadline = 3 := by decide +kernel
  refine ⟨advancing, pauses, uncut.trans (congrArg some doubled), ?_⟩
  exact ((still (fun _ => rfl) (by decide +kernel)).2 _ _ _ ended).trans due

end Series

end Stowage
