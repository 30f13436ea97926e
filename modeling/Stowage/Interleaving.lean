import Stowage.Session

/-! # Clients that take turns

Programs that run at the same time and share one state.  A turn of a client is one action of its
program.  A request and its reply are a single turn, but between two turns of a client others may
have had any number of theirs.
-/

namespace Stowage

variable {I : Interface} {τ σ ε α ι : Type}

/-- What is left of a program that is being run, or how it ended. -/
inductive Client (I : Interface) (τ ε α : Type) where
  | running (program : Program I τ ε α)
  | ended (ending : Ending ε α)

/-- The first action of a program. -/
def Program.act (world : World I τ σ) : Program I τ ε α → σ → Client I τ ε α × σ
  | .done value, state => (.ended (.returned value), state)
  | .fail error, state => (.ended (.failed error), state)
  | .unfinished, state => (.ended .unfinished, state)
  | .note _ next, state => (.running next, state)
  | .time next, state => (.running (next (world.now state)), state)
  | .pause span next, state => (.running next, world.pause span state)
  | .call request next, state =>
    match world.answer request state with
    | (.ok reply, after) => (.running (next reply), after)
    | (.error text, after) => (.ended (.raised text), after)

def Client.act (world : World I τ σ) (client : Client I τ ε α) (state : σ) :
    Client I τ ε α × σ :=
  match client with
  | .running program => program.act world state
  | .ended ending => (.ended ending, state)

/-- Clients and the state that they share. -/
structure Ensemble (I : Interface) (τ σ ε α ι : Type) where
  clients : ι → Client I τ ε α
  state : σ

namespace Ensemble

variable [DecidableEq ι]

def set (ensemble : Ensemble I τ σ ε α ι) (who : ι) (client : Client I τ ε α) (state : σ) :
    Ensemble I τ σ ε α ι where
  clients other := if other = who then client else ensemble.clients other
  state

def turn (world : World I τ σ) (ensemble : Ensemble I τ σ ε α ι) (who : ι) :
    Ensemble I τ σ ε α ι :=
  let (client, state) := (ensemble.clients who).act world ensemble.state
  ensemble.set who client state

/-- The clients after they took turns as scheduled. -/
def interleave (world : World I τ σ) (ensemble : Ensemble I τ σ ε α ι) (schedule : List ι) :
    Ensemble I τ σ ε α ι :=
  schedule.foldl (turn world) ensemble

section

variable (ensemble : Ensemble I τ σ ε α ι) (who : ι) (client : Client I τ ε α) (state : σ)

@[simp] theorem state_set : (ensemble.set who client state).state = state := rfl

@[simp] theorem clients_set_self : (ensemble.set who client state).clients who = client :=
  if_pos rfl

@[simp] theorem clients_set_of_ne {other : ι} (distinct : other ≠ who) :
    (ensemble.set who client state).clients other = ensemble.clients other :=
  if_neg distinct

@[simp] theorem set_set (next : Client I τ ε α) (after : σ) :
    (ensemble.set who client state).set who next after = ensemble.set who next after := by
  simp only [set, Ensemble.mk.injEq, and_true]
  funext other
  split <;> rfl

end

end Ensemble

/-- Everyone has a turn again and again. -/
def IsFair (turns : Nat → ι) : Prop :=
  ∀ who start, ∃ count, turns (start + count) = who

variable [Timescale τ] {Handle : Type}

/-- Clients that are about to carry out one operation each. -/
def Command.ensemble (engine : Engine τ) (commands : ι → Command) (state : σ) :
    Ensemble (Gateway.interface Handle) τ σ (Failure τ) Answer ι where
  clients who := .running ((commands who).program engine)
  state

end Stowage
