import Stowage.Container
import Stowage.Declaration

/-! # Reconciliation

Declared containers are reconciled one after another.  What one declaration changes is there when
the next one looks.
-/

namespace Stowage.Declaration

variable {Handle τ : Type} [Timescale τ]

/-- Carries out declarations in order and yields what became of each container that was changed. -/
def reconcileAll (engine : Engine τ) (dryRun : Bool) :
    List (Declaration Config) → Operation Handle τ (List (Option Outcome))
  | [] => pure []
  | declaration :: rest => do
    let outcome ← declaration.resource.reconcile engine dryRun declaration.strategy
    let outcomes ← reconcileAll engine dryRun rest
    pure (outcome :: outcomes)

end Stowage.Declaration
