import Mathlib.Data.Rat.Floor
import Stowage.Proofs.Retry.Pace

/-! # The number of attempts

Where the waits of a schedule are positive, every wait that is not cut short brings a series nearer
to its deadline by a fixed span.  So the number of its attempts is bounded, even if no reply is ever
anything but a passing failure.
-/

namespace Stowage

namespace Schedule

variable (schedule : Schedule Rat)

/-- The shortest wait that is not cut short, where both spans are positive. -/
def shortest : Rat :=
  min schedule.backoff schedule.ceiling

/-- The most repetitions for which the timeout leaves time. -/
def maxRepetitions : Nat :=
  ⌈max 0 schedule.timeout / schedule.shortest⌉₊

variable {schedule} (backoff_pos : 0 < schedule.backoff) (ceiling_pos : 0 < schedule.ceiling)

include backoff_pos

theorem shortest_le_unclipped (attempt : Nat) :
    schedule.shortest ≤ schedule.unclipped attempt := by
  unfold unclipped
  split
  · have doubled : schedule.backoff ≤ schedule.backoff * 2 ^ (attempt - 1) :=
      le_mul_of_one_le_right backoff_pos.le (one_le_pow₀ one_le_two)
    exact (min_le_min_right _ doubled).trans (le_max_right _ _)
  · exact (min_le_right _ _).trans (le_max_right _ _)

include ceiling_pos

theorem shortest_pos : 0 < schedule.shortest :=
  lt_min backoff_pos ceiling_pos

theorem timeout_le_maxRepetitions :
    schedule.timeout ≤ schedule.maxRepetitions * schedule.shortest := by
  have rounded := Nat.le_ceil (max 0 schedule.timeout / schedule.shortest)
  rw [div_le_iff₀ (shortest_pos backoff_pos ceiling_pos)] at rounded
  exact (le_max_right _ _).trans rounded

end Schedule

namespace Series

section Steady

variable {series : Series Rat} {index : Nat}
  (advancing : ∀ index, 0 ≤ (series.trials index).delay)
  (backoff_pos : 0 < series.schedule.backoff) (ceiling_pos : 0 < series.schedule.ceiling)

include advancing backoff_pos

/-- Behind a number of waits, as much time has passed as the shortest waits take, or the deadline
has come. -/
theorem le_begins (passing : ∀ other < index, ¬series.IsDecisive other) :
    min series.deadline (series.start + index * series.schedule.shortest) ≤
      series.begins index := by
  induction index with
  | zero => simp [begins]
  | succ index ih =>
      have last := passing index (Nat.lt_succ_self index)
      have waited := Schedule.shortest_le_unclipped backoff_pos (index + 1)
      have begun : series.begins index ≤ series.replied index := begins_le_replied advancing
      have reached : series.start + index * series.schedule.shortest ≤ series.begins index := by
        rcases min_le_iff.mp (ih fun other less => passing other (Nat.lt_succ_of_lt less)) with
          late | reached
        · exact absurd (isDecisive_of_late (late.trans begun)) last
        · exact reached
      rw [begins_succ, Timescale.add_rat, span_eq last, ← min_add_add_left, add_sub_cancel]
      refine le_min ((min_le_right _ _).trans ?_) (min_le_left _ _)
      push_cast
      linarith

include ceiling_pos

theorem exists_isFirstDecisive :
    ∃ index ≤ series.schedule.maxRepetitions, series.IsFirstDecisive index := by
  rcases series.exists_isFirstDecisive_or_passing series.schedule.maxRepetitions with found | passing
  · exact found
  have begun := le_begins advancing backoff_pos fun other less =>
    passing other (Nat.le_of_lt less)
  have enough := Schedule.timeout_le_maxRepetitions backoff_pos ceiling_pos
  have late : series.deadline ≤ series.begins series.schedule.maxRepetitions := by
    rwa [min_eq_left] at begun
    exact add_le_add_right enough series.start
  exact absurd (isDecisive_of_late (late.trans (begins_le_replied advancing)))
    (passing _ (Nat.le_refl _))

end Steady

/-- The series returns or raises an error after a bounded number of attempts, and further
repetitions would change nothing. -/
theorem run_ends {series : Series Rat} (advancing : ∀ index, 0 ≤ (series.trials index).delay)
    (backoff_pos : 0 < series.schedule.backoff) (ceiling_pos : 0 < series.schedule.ceiling)
    (limit : Nat) :
    let most := ⌈max 0 series.schedule.timeout /
      min series.schedule.backoff series.schedule.ceiling⌉₊
    let run := series.run limit
    run.requests.length ≤ 1 + most ∧
      (most ≤ limit → run = series.run most ∧
        ((∃ result, run.ending = .returned result) ∨ ∃ text, run.ending = .raised text)) := by
  intro most run
  obtain ⟨index, bounded, first⟩ := exists_isFirstDecisive advancing backoff_pos ceiling_pos
  constructor
  · obtain ⟨count, calls, passing, _, few, _, exchanges⟩ := series.exists_words limit
    have before : count ≤ index := Nat.le_of_not_lt fun less => passing index less first.decisive
    rw [Run.requests, exchanges, List.length_map, List.length_map, List.length_range]
    change index ≤ most at bounded
    omega
  · intro enough
    have whole : run = _ := run_of_isFirstDecisive first (bounded.trans enough)
    refine ⟨whole.trans (run_of_isFirstDecisive first bounded).symm, ?_⟩
    rw [whole]
    exact series.ending_cases index

/-- An operation that never does anything but put off its callers. -/
theorem run_ends_lagging :
    let series : Series Rat := ⟨⟨3, 2, 10⟩, "operation", 0, fun _ => ⟨0, .ok (.transient "lag")⟩⟩
    (∀ index, 0 ≤ (series.trials index).delay) ∧ 0 < series.schedule.backoff ∧
      0 < series.schedule.ceiling ∧ (series.run 9).requests.length ≤ 3 ∧
      series.run 9 = series.run 2 := by
  intro series
  have advancing : ∀ index, 0 ≤ (series.trials index).delay := fun _ => le_refl 0
  have backoff_pos : 0 < series.schedule.backoff := by decide +kernel
  have ceiling_pos : 0 < series.schedule.ceiling := by decide +kernel
  have most : ⌈max 0 series.schedule.timeout /
      min series.schedule.backoff series.schedule.ceiling⌉₊ = 2 :=
    (Nat.ceil_eq_iff (by decide)).mpr (by decide +kernel)
  obtain ⟨few, ended⟩ := run_ends advancing backoff_pos ceiling_pos 9
  rw [most] at few ended
  exact ⟨advancing, backoff_pos, ceiling_pos, few, (ended (by decide)).1⟩

end Series

end Stowage
