import Stowage.Logged

/-! # Programs

A program is a tree: at every node it ends, reports an event, asks for the time, waits, or sends a
request whose reply chooses the branch.  What answers the requests is a `World`, so one program can
be run against a store, against scripted replies, or against replies that depend on all that went
before.  `Program.run` gives the actions of a run in order and the way it ended.
-/

namespace Stowage

/-- The requests that programs may send, and the type of the reply to each. -/
structure Interface where
  Request : Type
  Reply : Request → Type

/-- A program with times in `τ` that yields a value in `α` or fails with an error in `ε`. -/
inductive Program (I : Interface) (τ ε α : Type) where
  | done (value : α)
  | fail (error : ε)
  /-- The program was cut off by a limit that its caller set. -/
  | unfinished
  | note (event : Event) (next : Program I τ ε α)
  | time (next : τ → Program I τ ε α)
  | pause (span : τ) (next : Program I τ ε α)
  | call (request : I.Request) (next : I.Reply request → Program I τ ε α)

namespace Program

variable {I : Interface} {τ ε α β γ : Type}

def bind (program : Program I τ ε α) (next : α → Program I τ ε β) : Program I τ ε β :=
  match program with
  | .done value => next value
  | .fail error => .fail error
  | .unfinished => .unfinished
  | .note event rest => .note event (rest.bind next)
  | .time rest => .time fun now => (rest now).bind next
  | .pause span rest => .pause span (rest.bind next)
  | .call request rest => .call request fun reply => (rest reply).bind next

instance : Monad (Program I τ ε) where
  pure := .done
  bind := bind

theorem bind_done (program : Program I τ ε α) : program.bind .done = program := by
  induction program with
  | done value => rfl
  | fail error => rfl
  | unfinished => rfl
  | note event rest ih => simp only [bind, ih]
  | time rest ih => simp only [bind, ih]
  | pause span rest ih => simp only [bind, ih]
  | call request rest ih => simp only [bind, ih]

theorem bind_assoc (program : Program I τ ε α) (first : α → Program I τ ε β)
    (second : β → Program I τ ε γ) :
    (program.bind first).bind second = program.bind fun value => (first value).bind second := by
  induction program with
  | done value => rfl
  | fail error => rfl
  | unfinished => rfl
  | note event rest ih => simp only [bind, ih]
  | time rest ih => simp only [bind, ih]
  | pause span rest ih => simp only [bind, ih]
  | call request rest ih => simp only [bind, ih]

instance : LawfulMonad (Program I τ ε) :=
  LawfulMonad.mk' (Program I τ ε) bind_done (fun _ _ => rfl) bind_assoc

def report (event : Event) : Program I τ ε Unit :=
  .note event (.done ())

def now : Program I τ ε τ :=
  .time .done

def wait (span : τ) : Program I τ ε Unit :=
  .pause span (.done ())

def send (request : I.Request) : Program I τ ε (I.Reply request) :=
  .call request .done

def ofExcept : Except ε α → Program I τ ε α
  | .ok value => .done value
  | .error error => .fail error

/-- A computation that only reports, as a program. -/
def ofLogged (logged : Logged ε α) : Program I τ ε α :=
  logged.events.foldr .note (ofExcept logged.result)

theorem ofLogged_error_bind (events : List Event) (error : ε) (next : α → Program I τ ε β) :
    ofLogged ⟨events, .error error⟩ >>= next = ofLogged ⟨events, .error error⟩ := by
  induction events with
  | nil => rfl
  | cons event rest ih => exact congrArg (note event) ih

end Program

/-- What programs run against.  A reply may also be raised as an error of its own, which no
program catches. -/
structure World (I : Interface) (τ σ : Type) where
  now : σ → τ
  pause : τ → σ → σ
  answer : (request : I.Request) → σ → Except String (I.Reply request) × σ

/-- A request that was sent, what came of it, and the time when it came. -/
structure Exchange (I : Interface) (τ : Type) where
  request : I.Request
  reply : Except String (I.Reply request)
  time : τ

/-- What a run did, as seen from outside. -/
inductive Action (I : Interface) (τ : Type) where
  | noted (event : Event)
  | paused (span : τ)
  | called (exchange : Exchange I τ)

inductive Ending (ε α : Type) where
  | returned (value : α)
  | failed (error : ε)
  /-- A reply was raised. -/
  | raised (text : String)
  | unfinished

/-- A run: its actions in order, its end, and the state it left. -/
structure Run (I : Interface) (τ σ ε α : Type) where
  actions : List (Action I τ)
  ending : Ending ε α
  state : σ

namespace Run

variable {I : Interface} {τ σ ε α : Type}

def after (action : Action I τ) (run : Run I τ σ ε α) : Run I τ σ ε α :=
  { run with actions := action :: run.actions }

def exchanges (run : Run I τ σ ε α) : List (Exchange I τ) :=
  run.actions.filterMap fun action => match action with
    | .called exchange => some exchange
    | _ => none

def requests (run : Run I τ σ ε α) : List I.Request :=
  run.exchanges.map Exchange.request

def pauses (run : Run I τ σ ε α) : List τ :=
  run.actions.filterMap fun action => match action with
    | .paused span => some span
    | _ => none

def events (run : Run I τ σ ε α) : List Event :=
  run.actions.filterMap fun action => match action with
    | .noted event => some event
    | _ => none

end Run

def Program.run {I : Interface} {τ σ ε α : Type} (world : World I τ σ) :
    Program I τ ε α → σ → Run I τ σ ε α
  | .done value, state => ⟨[], .returned value, state⟩
  | .fail error, state => ⟨[], .failed error, state⟩
  | .unfinished, state => ⟨[], .unfinished, state⟩
  | .note event next, state => (next.run world state).after (.noted event)
  | .time next, state => (next (world.now state)).run world state
  | .pause span next, state => (next.run world (world.pause span state)).after (.paused span)
  | .call request next, state =>
    match world.answer request state with
    | (.ok reply, state') =>
      ((next reply).run world state').after (.called ⟨request, .ok reply, world.now state'⟩)
    | (.error text, state') =>
      ⟨[.called ⟨request, .error text, world.now state'⟩], .raised text, state'⟩

end Stowage
