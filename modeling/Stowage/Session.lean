import Stowage.Engine

/-! # Sessions

Operations that are carried out one after another on one service.  An operation starts from the
state that the one before it left, however that ended.
-/

namespace Stowage

/-- What a caller gives where a configuration is asked for. -/
inductive Declared where
  | raw (document : Document)
  /-- The fields of a configuration that was put together without a check. -/
  | unchecked (fields : Document.Fields)

/-- The document that is read as a configuration. -/
def Declared.document : Declared → Document
  | .raw document => document
  | .unchecked fields => .object (Config.draft fields)

inductive Command where
  | create (declared : Declared)
  | read (uri : String)
  | probe (uri : String)
  | delete (uri : String)
  | adopt (uri : String)
  | replace (uri : String) (declared : Declared)

inductive Answer where
  | outcome (outcome : Outcome)
  | presence (there : Bool)
  | done

variable {Handle τ σ : Type} [Timescale τ]

def Command.program (engine : Engine τ) : Command → Operation Handle τ Answer
  | .create declared => .outcome <$> engine.createFrom declared.document
  | .read uri => .outcome <$> engine.read uri
  | .probe uri => .presence <$> engine.probe uri
  | .delete uri => (fun _ => .done) <$> engine.delete uri
  | .adopt uri => .outcome <$> engine.adopt uri
  | .replace uri declared => .outcome <$> engine.replaceFrom uri declared.document

structure Step (Handle τ σ : Type) where
  command : Command
  run : Run (Gateway.interface Handle) τ σ (Failure τ) Answer

def session (engine : Engine τ) (world : World (Gateway.interface Handle) τ σ) :
    List Command → σ → List (Step Handle τ σ)
  | [], _ => []
  | command :: rest, state =>
    let run := (command.program engine).run world state
    ⟨command, run⟩ :: session engine world rest run.state

/-- The state that a session leaves behind. -/
def sessionState (engine : Engine τ) (world : World (Gateway.interface Handle) τ σ)
    (commands : List Command) (state : σ) : σ :=
  ((session engine world commands state).getLast?.map fun step => step.run.state).getD state

end Stowage
