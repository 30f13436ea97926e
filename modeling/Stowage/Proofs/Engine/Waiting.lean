import Stowage.Engine
import Stowage.Proofs.Runs

/-! # Operations that do not wait

`Program.IsPrompt` follows all branches of a program at once: none of them waits.  Reading a
container is prompt, whatever the service answers.
-/

namespace Stowage

namespace Program

variable {I : Interface} {τ σ ε α β : Type}

/-- No branch of the program waits. -/
inductive IsPrompt : Program I τ ε α → Prop where
  | done {value : α} : IsPrompt (.done value)
  | fail {error : ε} : IsPrompt (.fail error)
  | unfinished : IsPrompt .unfinished
  | note {event : Event} {next : Program I τ ε α} (rest : IsPrompt next) :
      IsPrompt (.note event next)
  | time {next : τ → Program I τ ε α} (rest : ∀ now, IsPrompt (next now)) : IsPrompt (.time next)
  | call {request : I.Request} {next : I.Reply request → Program I τ ε α}
      (rest : ∀ reply, IsPrompt (next reply)) : IsPrompt (.call request next)

namespace IsPrompt

variable {program : Program I τ ε α} {next : α → Program I τ ε β}

theorem pure {value : α} : IsPrompt (pure value : Program I τ ε α) :=
  .done

theorem bind (first : program.IsPrompt) (rest : ∀ value, (next value).IsPrompt) :
    (program >>= next).IsPrompt := by
  change (program.bind next).IsPrompt
  induction first with
  | done => exact rest _
  | fail => exact .fail
  | unfinished => exact .unfinished
  | note _ ih => exact .note ih
  | time _ ih => exact .time ih
  | call _ ih => exact .call ih

theorem report {event : Event} {next : Unit → Program I τ ε α} (rest : (next ()).IsPrompt) :
    (Program.report event >>= next).IsPrompt :=
  .note rest

theorem pauses (prompt : program.IsPrompt) (world : World I τ σ) (state : σ) :
    (program.run world state).pauses = [] := by
  induction prompt generalizing state with
  | done => rfl
  | fail => rfl
  | unfinished => rfl
  | note _ ih => exact ih state
  | time _ ih => exact ih _ state
  | @call request next _ ih =>
      rcases answered : world.answer request state with ⟨reply, after⟩
      cases reply with
      | error text =>
          rw [run_call_of_error answered next]
          rfl
      | ok reply =>
          rw [run_call_of_ok answered next]
          exact ih reply after

end IsPrompt

end Program

namespace Engine

open Program

variable {Handle τ α : Type}

theorem isPrompt_ask {request : Gateway.Request Handle}
    {next : Gateway.Reply request → Operation Handle τ α}
    (rest : ∀ reply, (next reply).IsPrompt) : (ask request >>= next).IsPrompt :=
  .call rest

variable (engine : Engine τ) (uri : String)

theorem decode_isPrompt : (engine.decode uri : Operation Handle τ Identity).IsPrompt := by
  unfold decode
  cases Identity.decode uri engine.environment.suffix with
  | error fault => exact .fail
  | ok identity => exact .report .pure

theorem resolve_isPrompt (identity : Identity) :
    (resolve identity : Operation Handle τ (Option Handle)).IsPrompt := by
  refine isPrompt_ask fun group => ?_
  cases group with
  | none => exact .report .pure
  | some group =>
      refine isPrompt_ask fun (handle, present) => ?_
      cases present with
      | false => exact .report .pure
      | true => exact .pure

theorem read_isPrompt : (engine.read uri : Operation Handle τ Outcome).IsPrompt := by
  refine (decode_isPrompt engine uri).bind fun identity =>
    (resolve_isPrompt identity).bind fun handle => ?_
  cases handle with
  | none => exact .pure
  | some handle =>
      refine isPrompt_ask fun listing => ?_
      cases listing with
      | error reason => exact .fail
      | ok listing =>
          dsimp only
          cases listing.find? fun entry => entry.name == identity.container with
          | none => exact .report .pure
          | some entry => exact .pure

end Engine

end Stowage
