import Mathlib.Data.List.Forall2
import Stowage.Logged

/-! # Collected computations

A list of computations is carried out until one of them fails.  Either all of them end well
(`collect_of_ok`), or the first that does not decides the error, and nothing is reported of those
behind it (`collect_of_error`).  Lists of lists are gone through like one list
(`flatten_collect_collect`).
-/

namespace Stowage.Logged

variable {ε α β : Type}

theorem result_bind_eq_ok {first : Logged ε α} {next : α → Logged ε β} {result : β} :
    (first >>= next).result = .ok result ↔
      ∃ value, first.result = .ok value ∧ (next value).result = .ok result := by
  change (first.bind next).result = _ ↔ _
  obtain ⟨events, ended⟩ := first
  cases ended with
  | error error => simp [Logged.bind]
  | ok value => simp [Logged.bind]

theorem result_map_eq_ok {first : Logged ε α} {f : α → β} {result : β} :
    (f <$> first).result = .ok result ↔ ∃ value, first.result = .ok value ∧ f value = result := by
  refine result_bind_eq_ok.trans (exists_congr fun value => and_congr_right fun _ => ?_)
  exact ⟨Except.ok.inj, congrArg Except.ok⟩

variable {step : α → Logged ε β}

theorem collect_nil : collect step [] = return [] := rfl

theorem collect_cons (first : α) (rest : List α) : collect step (first :: rest) = do
    let value ← step first
    let values ← collect step rest
    return value :: values := rfl

theorem result_collect_cons_eq_ok {first : α} {rest : List α} {values : List β} :
    (collect step (first :: rest)).result = .ok values ↔
      ∃ value others, (step first).result = .ok value ∧
        (collect step rest).result = .ok others ∧ value :: others = values := by
  rw [collect_cons]
  simp only [result_bind_eq_ok]
  constructor
  · rintro ⟨value, stepped, others, collected, same⟩
    exact ⟨value, others, stepped, collected, Except.ok.inj same⟩
  · rintro ⟨value, others, stepped, collected, same⟩
    exact ⟨value, stepped, others, collected, congrArg Except.ok same⟩

theorem collect_map {γ : Type} (f : γ → α) (items : List γ) :
    collect step (items.map f) = collect (fun item => step (f item)) items := by
  induction items with
  | nil => rfl
  | cons item rest ih => rw [List.map_cons, collect_cons, collect_cons, ih]

theorem collect_congr {other : α → Logged ε β} {items : List α}
    (same : ∀ item ∈ items, step item = other item) : collect step items = collect other items := by
  induction items with
  | nil => rfl
  | cons item rest ih =>
      obtain ⟨here, behind⟩ := List.forall_mem_cons.mp same
      rw [collect_cons, collect_cons, here, ih behind]

variable {items before after : List α} {item : α} {error : ε}

theorem bind_of_ok {first : Logged ε α} {next : α → Logged ε β} {value : α}
    (ended : first.result = .ok value) :
    first >>= next = ⟨first.events ++ (next value).events, (next value).result⟩ := by
  change first.bind next = _
  rw [bind, ended]

theorem bind_of_error {first : Logged ε α} {next : α → Logged ε β}
    (ended : first.result = .error error) : first >>= next = ⟨first.events, .error error⟩ := by
  change first.bind next = _
  rw [bind, ended]

theorem collect_append (first second : List α) : collect step (first ++ second) = do
    let values ← collect step first
    let others ← collect step second
    return values ++ others := by
  induction first with
  | nil => simp [collect_nil]
  | cons item rest ih => simp [collect_cons, ih]

/-- Lists in a list are gone through one after the other. -/
theorem flatten_collect_collect {γ : Type} (items : List γ) (inner : γ → List α) :
    List.flatten <$> collect (fun item => collect step (inner item)) items =
      collect step (items.flatMap inner) := by
  induction items with
  | nil => rfl
  | cons item rest ih =>
      rw [List.flatMap_cons, collect_append, ← ih, collect_cons]
      simp

theorem collect_of_ok (passed : ∀ item ∈ items, ∃ value, (step item).result = .ok value) :
    ∃ values, List.Forall₂ (fun item value => (step item).result = .ok value) items values ∧
      collect step items = ⟨items.flatMap fun item => (step item).events, .ok values⟩ := by
  induction items with
  | nil => exact ⟨[], .nil, rfl⟩
  | cons item rest ih =>
      obtain ⟨⟨value, stepped⟩, others⟩ := List.forall_mem_cons.mp passed
      obtain ⟨values, each, collected⟩ := ih others
      refine ⟨value :: values, .cons stepped each, ?_⟩
      rw [collect_cons, bind_of_ok stepped, collected, bind_of_ok rfl]
      simp [Pure.pure, pure]

theorem collect_of_error (passed : ∀ earlier ∈ before, ∃ value, (step earlier).result = .ok value)
    (failed : (step item).result = .error error) : collect step (before ++ item :: after) =
      ⟨(before.flatMap fun earlier => (step earlier).events) ++ (step item).events,
        .error error⟩ := by
  obtain ⟨values, _, collected⟩ := collect_of_ok passed
  rw [collect_append, collected, bind_of_ok rfl, collect_cons, bind_of_error failed, bind_of_error rfl]

/-- Either all computations of a list end well, or there is a first that does not. -/
theorem forall_ok_or_first_error (step : α → Logged ε β) (items : List α) :
    (∀ item ∈ items, ∃ value, (step item).result = .ok value) ∨
    ∃ before item after error, items = before ++ item :: after ∧
      (∀ earlier ∈ before, ∃ value, (step earlier).result = .ok value) ∧
      (step item).result = .error error := by
  induction items with
  | nil => exact .inl nofun
  | cons item rest ih =>
      cases ended : (step item).result with
      | error error => exact .inr ⟨[], item, rest, error, rfl, nofun, ended⟩
      | ok value =>
          rcases ih with passed | ⟨before, failing, after, error, rfl, passed, failed⟩
          · exact .inl (List.forall_mem_cons.mpr ⟨⟨value, ended⟩, passed⟩)
          · exact .inr ⟨item :: before, failing, after, error, rfl,
              List.forall_mem_cons.mpr ⟨⟨value, ended⟩, passed⟩, failed⟩

end Stowage.Logged
