import Stowage.Program

/-! # Runs of composed programs

A run of a composed program is the run of its first part, continued from the state that this part
left when it returned a value (`run_bind`).  The run of each elementary program is an equation.
-/

namespace Stowage

variable {I : Interface} {τ σ ε α β : Type}

namespace Run

/-- The run continued, where it returned a value, by a run from the state it left. -/
def andThen (first : Run I τ σ ε α) (next : α → σ → Run I τ σ ε β) : Run I τ σ ε β :=
  match first.ending with
  | .returned value =>
    let rest := next value first.state
    ⟨first.actions ++ rest.actions, rest.ending, rest.state⟩
  | .failed error => ⟨first.actions, .failed error, first.state⟩
  | .raised text => ⟨first.actions, .raised text, first.state⟩
  | .unfinished => ⟨first.actions, .unfinished, first.state⟩

theorem andThen_after (action : Action I τ) (first : Run I τ σ ε α)
    (next : α → σ → Run I τ σ ε β) :
    (first.after action).andThen next = (first.andThen next).after action := by
  obtain ⟨actions, ending, state⟩ := first
  cases ending <;> rfl

variable (run : Run I τ σ ε α)

@[simp] theorem ending_after (action : Action I τ) : (run.after action).ending = run.ending := rfl

@[simp] theorem state_after (action : Action I τ) : (run.after action).state = run.state := rfl

@[simp] theorem exchanges_after_noted (event : Event) :
    (run.after (.noted event)).exchanges = run.exchanges := rfl

@[simp] theorem exchanges_after_called (exchange : Exchange I τ) :
    (run.after (.called exchange)).exchanges = exchange :: run.exchanges := rfl

@[simp] theorem exchanges_noted (events : List Event) (ending : Ending ε α) (state : σ) :
    (⟨events.map .noted, ending, state⟩ : Run I τ σ ε α).exchanges = [] := by
  simp [exchanges]

variable {run}

theorem andThen_of_returned {value : α} (next : α → σ → Run I τ σ ε β)
    (returned : run.ending = .returned value) :
    (run.andThen next).exchanges = run.exchanges ++ (next value run.state).exchanges ∧
      (run.andThen next).ending = (next value run.state).ending ∧
      (run.andThen next).state = (next value run.state).state := by
  obtain ⟨actions, ending, state⟩ := run
  cases returned
  exact ⟨List.filterMap_append, rfl, rfl⟩

theorem events_andThen_of_returned {value : α} (next : α → σ → Run I τ σ ε β)
    (returned : run.ending = .returned value) :
    (run.andThen next).events = run.events ++ (next value run.state).events := by
  obtain ⟨actions, ending, state⟩ := run
  cases returned
  exact List.filterMap_append

theorem andThen_of_raised {text : String} (next : α → σ → Run I τ σ ε β)
    (raised : run.ending = .raised text) :
    (run.andThen next).exchanges = run.exchanges ∧ (run.andThen next).ending = .raised text := by
  obtain ⟨actions, ending, state⟩ := run
  cases raised
  exact ⟨rfl, rfl⟩

theorem andThen_of_unfinished (next : α → σ → Run I τ σ ε β)
    (unfinished : run.ending = .unfinished) :
    (run.andThen next).exchanges = run.exchanges ∧ (run.andThen next).ending = .unfinished := by
  obtain ⟨actions, ending, state⟩ := run
  cases unfinished
  exact ⟨rfl, rfl⟩

end Run

namespace Program

variable (world : World I τ σ) (state : σ)

theorem run_bind (program : Program I τ ε α) (next : α → Program I τ ε β) :
    (program >>= next).run world state =
      (program.run world state).andThen fun value state => (next value).run world state := by
  change (program.bind next).run world state = _
  induction program generalizing state with
  | done value => rfl
  | fail error => rfl
  | unfinished => rfl
  | note event rest ih => simp only [bind, run, ih, Run.andThen_after]
  | time rest ih => simp only [bind, run, ih]
  | pause span rest ih => simp only [bind, run, ih, Run.andThen_after]
  | call request rest ih =>
      simp only [bind, run]
      split
      · simp only [ih, Run.andThen_after]
      · rfl

/-- A composed program returns a value only if its first part does. -/
theorem exists_returned_of_bind {world : World I τ σ} {state : σ} {program : Program I τ ε α}
    {next : α → Program I τ ε β} {value : β}
    (returned : ((program >>= next).run world state).ending = .returned value) :
    ∃ first, (program.run world state).ending = .returned first ∧
      ((next first).run world (program.run world state).state).ending = .returned value := by
  rw [run_bind] at returned
  generalize program.run world state = run at returned ⊢
  obtain ⟨actions, ending, after⟩ := run
  cases ending with
  | returned first => exact ⟨first, rfl, returned⟩
  | failed error => cases returned
  | raised text => cases returned
  | unfinished => cases returned

@[simp] theorem run_pure (value : α) :
    (pure value : Program I τ ε α).run world state = ⟨[], .returned value, state⟩ := rfl

@[simp] theorem run_unfinished :
    (unfinished : Program I τ ε α).run world state = ⟨[], .unfinished, state⟩ := rfl

@[simp] theorem run_report_bind (event : Event) (next : Unit → Program I τ ε α) :
    (report event >>= next).run world state =
      ((next ()).run world state).after (.noted event) := rfl

theorem run_ofLogged_error (events : List Event) (error : ε) :
    (ofLogged ⟨events, .error error⟩ : Program I τ ε α).run world state =
      ⟨events.map .noted, .failed error, state⟩ := by
  induction events with
  | nil => rfl
  | cons event rest ih => exact congrArg (Run.after (.noted event)) ih

@[simp] theorem run_now_bind (next : τ → Program I τ ε α) :
    (now >>= next).run world state = (next (world.now state)).run world state := rfl

variable {world state} {request : I.Request} {after : σ}

theorem run_call_of_ok {reply : I.Reply request}
    (answered : world.answer request state = (.ok reply, after))
    (next : I.Reply request → Program I τ ε α) :
    (call request next).run world state =
      ((next reply).run world after).after (.called ⟨request, .ok reply, world.now after⟩) := by
  simp only [run, answered]

theorem run_call_of_error {text : String}
    (answered : world.answer request state = (.error text, after))
    (next : I.Reply request → Program I τ ε α) :
    (call request next).run world state =
      ⟨[.called ⟨request, .error text, world.now after⟩], .raised text, after⟩ := by
  simp only [run, answered]

theorem first_request_call (world : World I τ σ) (state : σ) (request : I.Request)
    (next : I.Reply request → Program I τ ε α) :
    ((call request next).run world state).exchanges.head?.map Exchange.request =
      some request := by
  rcases answered : world.answer request state with ⟨reply, after⟩
  cases reply with
  | error text => rw [run_call_of_error answered]; rfl
  | ok reply => rw [run_call_of_ok answered]; rfl

/-- A run ends with a raised reply if and only if the last reply was raised. -/
theorem raised_iff (world : World I τ σ) (program : Program I τ ε α) (state : σ) (text : String) :
    (program.run world state).ending = .raised text ↔
      ∃ exchange, (program.run world state).exchanges.getLast? = some exchange ∧
        exchange.reply = .error text := by
  induction program generalizing state with
  | done value => exact iff_of_false nofun nofun
  | fail error => exact iff_of_false nofun nofun
  | unfinished => exact iff_of_false nofun nofun
  | note event rest ih => exact ih state
  | time rest ih => exact ih _ state
  | pause span rest ih => exact ih _
  | call request rest ih =>
      rcases answered : world.answer request state with ⟨reply, after⟩
      cases reply with
      | error message =>
          rw [run_call_of_error answered rest]
          simp [Run.exchanges]
      | ok reply =>
          rw [run_call_of_ok answered rest, Run.ending_after, Run.exchanges_after_called, ih reply,
            List.getLast?_cons]
          cases ((rest reply).run world after).exchanges.getLast? with
          | none => simp
          | some last => simp

/-- What the answers to all requests keep holds of every exchange of a run. -/
theorem forall_exchanges {world : World I τ σ} (kept : σ → Prop) (holds : Exchange I τ → Prop)
    (paused : ∀ span state, kept state → kept (world.pause span state))
    (answered : ∀ request state, kept state →
      kept (world.answer request state).2 ∧
        ∀ time, holds ⟨request, (world.answer request state).1, time⟩)
    (program : Program I τ ε α) {state : σ} (start : kept state) :
    ∀ exchange ∈ (program.run world state).exchanges, holds exchange := by
  induction program generalizing state with
  | done value => exact nofun
  | fail error => exact nofun
  | unfinished => exact nofun
  | note event rest ih => exact ih start
  | time rest ih => exact ih _ start
  | pause span rest ih => exact ih (paused span state start)
  | call request rest ih =>
      obtain ⟨keptAfter, held⟩ := answered request state start
      rcases replied : world.answer request state with ⟨reply, after⟩
      rw [replied] at keptAfter held
      cases reply with
      | error text =>
          rw [run_call_of_error replied rest]
          exact List.forall_mem_cons.mpr ⟨held _, nofun⟩
      | ok reply =>
          rw [run_call_of_ok replied rest, Run.exchanges_after_called]
          exact List.forall_mem_cons.mpr ⟨held _, ih reply keptAfter⟩

/-- Where every answer changes what is observed of the state as the exchange tells, the exchanges of
a run tell what is observed in the end. -/
theorem observe_run {world : World I τ σ} (observe : σ → β) (record : β → Exchange I τ → β)
    (paused : ∀ span state, observe (world.pause span state) = observe state)
    (answered : ∀ request state time, observe (world.answer request state).2 =
      record (observe state) ⟨request, (world.answer request state).1, time⟩)
    (program : Program I τ ε α) (state : σ) :
    observe (program.run world state).state =
      (program.run world state).exchanges.foldl record (observe state) := by
  induction program generalizing state with
  | done value => rfl
  | fail error => rfl
  | unfinished => rfl
  | note event rest ih => exact ih state
  | time rest ih => exact ih _ state
  | pause span rest ih =>
      have later := ih (world.pause span state)
      rwa [paused span state] at later
  | call request rest ih =>
      have recorded := answered request state
      rcases replied : world.answer request state with ⟨reply, after⟩
      rw [replied] at recorded
      cases reply with
      | error text =>
          rw [run_call_of_error replied rest]
          exact recorded _
      | ok reply =>
          rw [run_call_of_ok replied rest, Run.state_after, Run.exchanges_after_called,
            List.foldl_cons, ← recorded]
          exact ih reply after

end Program

end Stowage
