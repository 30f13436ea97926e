import Stowage.Engine
import Stowage.Strategy

/-! # Declared containers as resources

A container as strategies see it.  No field of a container can be changed in place, so a container
that exists is up to date.
-/

namespace Stowage.Config

def label (config : Config) : String :=
  s!"StorageContainer({config.account}/{config.name})"

variable {Handle τ : Type} [Timescale τ]

/-- Creates a declared container and reports the id under which it is tracked. -/
def establish (config : Config) (engine : Engine τ) : Operation Handle τ Outcome := do
  let outcome ← engine.create config
  Program.report (.tracked config.label (outcome.uri?.getD "None"))
  pure outcome

def retire (config : Config) (engine : Engine τ) : Operation Handle τ Outcome := do
  engine.delete (engine.identify config)
  pure .removed

def specification (config : Config) (engine : Engine τ) :
    Specification (Operation Handle τ) Outcome where
  label := config.label
  upToDate := engine.probe (engine.identify config)
  apply := config.establish engine
  remove := config.retire engine

def reconcile (config : Config) (engine : Engine τ) (dryRun : Bool) (strategy : Strategy) :
    Operation Handle τ (Option Outcome) :=
  strategy.run Program.report dryRun (config.specification engine)

end Stowage.Config
