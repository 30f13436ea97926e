import Stowage.Event

/-! # Logged computations

A computation that reports events on the way to its result or its error.  What was reported before
an error stays reported.
-/

namespace Stowage

/-- The events of a computation, in order, and how it ended. -/
structure Logged (ε α : Type) where
  events : List Event
  result : Except ε α

namespace Logged

variable {ε α β γ : Type}

def pure (value : α) : Logged ε α :=
  ⟨[], .ok value⟩

def fail (error : ε) : Logged ε α :=
  ⟨[], .error error⟩

def report (event : Event) : Logged ε Unit :=
  ⟨[event], .ok ()⟩

def ofExcept (result : Except ε α) : Logged ε α :=
  ⟨[], result⟩

def bind (first : Logged ε α) (next : α → Logged ε β) : Logged ε β :=
  match first.result with
  | .ok value => ⟨first.events ++ (next value).events, (next value).result⟩
  | .error error => ⟨first.events, .error error⟩

instance : Monad (Logged ε) where
  pure := pure
  bind := bind

/-- The computation with its error carried into a larger type. -/
def mapError {δ : Type} (embed : ε → δ) (logged : Logged ε α) : Logged δ α :=
  ⟨logged.events, logged.result.mapError embed⟩

def collect (step : α → Logged ε β) : List α → Logged ε (List β)
  | [] => pure []
  | first :: rest => do
    let value ← step first
    let values ← collect step rest
    pure (value :: values)

theorem bind_assoc (first : Logged ε α) (second : α → Logged ε β) (third : β → Logged ε γ) :
    (first.bind second).bind third = first.bind fun value => (second value).bind third := by
  obtain ⟨events, result⟩ := first
  cases result with
  | error error => rfl
  | ok value =>
      cases inner : (second value).result with
      | error error => simp [bind, inner]
      | ok next => simp [bind, inner, List.append_assoc]

theorem bind_pure (logged : Logged ε α) : logged.bind pure = logged := by
  obtain ⟨events, result⟩ := logged
  cases result <;> simp [bind, pure]

instance : LawfulMonad (Logged ε) :=
  LawfulMonad.mk' (Logged ε) bind_pure (fun _ _ => rfl) bind_assoc

end Logged

end Stowage
