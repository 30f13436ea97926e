import Stowage.Interleaving
import Stowage.Proofs.Runs

/-! # Programs among others

A program is followed along all branches while others change the state between its actions.  What
it relies on is that their changes are of a certain kind; what it guarantees is a kind for its own
(`Terms`).  Where the terms of clients fit together, each of them can be judged on its own
(`Ensemble.withstands_interleave`).
-/

namespace Stowage

variable {I : Interface} {τ σ ε α β ι : Type}

/-- The terms on which a client shares a state: the changes by others that it is prepared for, and
the changes that it may make itself. -/
structure Terms (σ : Type) where
  rely : σ → σ → Prop
  guarantee : σ → σ → Prop
  rely_refl (state : σ) : rely state state
  rely_trans {first second third : σ} : rely first second → rely second third → rely first third
  guarantee_refl (state : σ) : guarantee state state

def Ending.map (f : α → β) : Ending ε α → Ending ε β
  | .returned value => .returned (f value)
  | .failed error => .failed error
  | .raised text => .raised text
  | .unfinished => .unfinished

namespace Program

variable (world : World I τ σ) (terms : Terms σ)

/-- Whatever the others do to the state between its actions, the program keeps to its terms, and it
ends as the postcondition says, now and later. -/
def Withstands (post : Ending ε α → σ → Prop) : Program I τ ε α → σ → Prop
  | .done value, state => ∀ later, terms.rely state later → post (.returned value) later
  | .fail error, state => ∀ later, terms.rely state later → post (.failed error) later
  | .unfinished, state => ∀ later, terms.rely state later → post .unfinished later
  | .note _ next, state => next.Withstands post state
  | .time next, state => ∀ later, terms.rely state later →
    (next (world.now later)).Withstands post later
  | .pause span next, state => ∀ later, terms.rely state later →
    terms.guarantee later (world.pause span later) ∧
      next.Withstands post (world.pause span later)
  | .call request next, state => ∀ later, terms.rely state later →
    ∀ reply after, world.answer request later = (reply, after) → terms.guarantee later after ∧
      match reply with
      | .ok reply => (next reply).Withstands post after
      | .error text => ∀ last, terms.rely after last → post (.raised text) last

/-- The condition under which a program may be followed by another. -/
def thenWithstands (post : Ending ε β → σ → Prop) (next : α → Program I τ ε β) :
    Ending ε α → σ → Prop :=
  fun ending state => match ending with
    | .returned value => (next value).Withstands world terms post state
    | .failed error => post (.failed error) state
    | .raised text => post (.raised text) state
    | .unfinished => post .unfinished state

variable {world terms}

theorem Withstands.later {post : Ending ε α → σ → Prop} {program : Program I τ ε α}
    {state later : σ} (withstands : program.Withstands world terms post state)
    (changed : terms.rely state later) : program.Withstands world terms post later := by
  induction program with
  | note event rest ih => exact ih withstands
  | done | fail | unfinished | time | pause | call =>
      exact fun last further => withstands last (terms.rely_trans changed further)

theorem Withstands.weaken {post weaker : Ending ε α → σ → Prop} {program : Program I τ ε α}
    {state : σ} (withstands : program.Withstands world terms post state)
    (implies : ∀ ending later, post ending later → weaker ending later) :
    program.Withstands world terms weaker state := by
  induction program generalizing state with
  | done | fail | unfinished => exact fun later changed => implies _ _ (withstands later changed)
  | note event rest ih => exact ih withstands
  | time rest ih => exact fun later changed => ih _ (withstands later changed)
  | pause span rest ih =>
      intro later changed
      obtain ⟨guaranteed, others⟩ := withstands later changed
      exact ⟨guaranteed, ih others⟩
  | call request rest ih =>
      intro later changed reply after answered
      obtain ⟨guaranteed, others⟩ := withstands later changed reply after answered
      refine ⟨guaranteed, ?_⟩
      cases reply with
      | ok reply => exact ih reply others
      | error text => exact fun last further => implies _ _ (others last further)

/-- A program that nobody disturbs ends as it does among others. -/
theorem Withstands.run {post : Ending ε α → σ → Prop} {program : Program I τ ε α} {state : σ}
    (withstands : program.Withstands world terms post state) :
    post (program.run world state).ending (program.run world state).state := by
  have undisturbed := terms.rely_refl
  induction program generalizing state with
  | done | fail | unfinished => exact withstands state (undisturbed state)
  | note event rest ih => exact ih withstands
  | time rest ih => exact ih _ (withstands state (undisturbed state))
  | pause span rest ih => exact ih (withstands state (undisturbed state)).2
  | call request rest ih =>
      rcases answered : world.answer request state with ⟨reply, after⟩
      obtain ⟨_, others⟩ := withstands state (undisturbed state) reply after answered
      cases reply with
      | ok reply =>
          rw [run_call_of_ok answered rest]
          exact ih reply others
      | error text =>
          rw [run_call_of_error answered rest]
          exact others after (undisturbed after)

theorem withstands_bind {post : Ending ε β → σ → Prop} {program : Program I τ ε α}
    {next : α → Program I τ ε β} {state : σ}
    (first : program.Withstands world terms (thenWithstands world terms post next) state) :
    (program >>= next).Withstands world terms post state := by
  change (program.bind next).Withstands world terms post state
  induction program generalizing state with
  | done value => exact first state (terms.rely_refl state)
  | fail error => exact first
  | unfinished => exact first
  | note event rest ih => exact ih first
  | time rest ih => exact fun later changed => ih _ (first later changed)
  | pause span rest ih =>
      intro later changed
      obtain ⟨guaranteed, others⟩ := first later changed
      exact ⟨guaranteed, ih others⟩
  | call request rest ih =>
      intro later changed reply after answered
      obtain ⟨guaranteed, others⟩ := first later changed reply after answered
      refine ⟨guaranteed, ?_⟩
      cases reply with
      | ok reply => exact ih reply others
      | error text => exact others

theorem Withstands.map {post : Ending ε β → σ → Prop} {program : Program I τ ε α} {state : σ}
    (f : α → β) (withstands : program.Withstands world terms
      (fun ending later => post (ending.map f) later) state) :
    (f <$> program).Withstands world terms post state := by
  -- Not `withstands_bind`: its condition speaks of the end only, this one of all that comes later.
  change (program.bind fun value => .done (f value)).Withstands world terms post state
  induction program generalizing state with
  | done | fail | unfinished => exact withstands
  | note event rest ih => exact ih withstands
  | time rest ih => exact fun later changed => ih _ (withstands later changed)
  | pause span rest ih =>
      intro later changed
      obtain ⟨guaranteed, others⟩ := withstands later changed
      exact ⟨guaranteed, ih others⟩
  | call request rest ih =>
      intro later changed reply after answered
      obtain ⟨guaranteed, others⟩ := withstands later changed reply after answered
      refine ⟨guaranteed, ?_⟩
      cases reply with
      | ok reply => exact ih reply others
      | error text => exact others

theorem withstands_report {post : Ending ε α → σ → Prop} {event : Event}
    {next : Unit → Program I τ ε α} {state : σ}
    (rest : (next ()).Withstands world terms post state) :
    (report event >>= next).Withstands world terms post state :=
  rest

/-- The program changes nothing and returns the value, whatever the others do. -/
def Settles (world : World I τ σ) (terms : Terms σ) (program : Program I τ ε α) (value : α)
    (state : σ) : Prop :=
  program.Withstands world terms
    (fun ending later => ending = .returned value ∧ terms.rely state later) state

theorem Settles.bind {post : Ending ε β → σ → Prop} {program : Program I τ ε α} {value : α}
    {next : α → Program I τ ε β} {state : σ} (first : program.Settles world terms value state)
    (rest : (next value).Withstands world terms post state) :
    (program >>= next).Withstands world terms post state := by
  refine withstands_bind (Withstands.weaken first ?_)
  rintro _ later ⟨rfl, changed⟩
  exact rest.later changed

end Program

/-- What remains to be said of a client: its rest keeps to its terms, or it ended well and stays
so. -/
def Client.Withstands (world : World I τ σ) (terms : Terms σ) (post : Ending ε α → σ → Prop)
    (client : Client I τ ε α) (state : σ) : Prop :=
  match client with
  | .running program => program.Withstands world terms post state
  | .ended ending => ∀ later, terms.rely state later → post ending later

namespace Client

variable {world : World I τ σ} {terms : Terms σ} {post : Ending ε α → σ → Prop}
  {client : Client I τ ε α} {state : σ}

theorem Withstands.later {later : σ} (withstands : client.Withstands world terms post state)
    (changed : terms.rely state later) : client.Withstands world terms post later := by
  cases client with
  | running program => exact Program.Withstands.later withstands changed
  | ended ending => exact fun last further => withstands last (terms.rely_trans changed further)

/-- A turn keeps to the terms and leaves a client that goes on keeping to them. -/
theorem withstands_act (withstands : client.Withstands world terms post state) :
    let (next, after) := client.act world state
    terms.guarantee state after ∧ next.Withstands world terms post after := by
  have unchanged := terms.guarantee_refl state
  cases client with
  | ended ending => exact ⟨unchanged, withstands⟩
  | running program =>
      cases program with
      | done value => exact ⟨unchanged, withstands⟩
      | fail error => exact ⟨unchanged, withstands⟩
      | unfinished => exact ⟨unchanged, withstands⟩
      | note event rest => exact ⟨unchanged, withstands⟩
      | time rest => exact ⟨unchanged, withstands state (terms.rely_refl state)⟩
      | pause span rest => exact withstands state (terms.rely_refl state)
      | call request rest =>
          rcases answered : world.answer request state with ⟨reply, after⟩
          obtain ⟨guaranteed, others⟩ := withstands state (terms.rely_refl state) _ _ answered
          simp only [act, Program.act, answered]
          cases reply with
          | ok reply => exact ⟨guaranteed, others⟩
          | error text => exact ⟨guaranteed, others⟩

end Client

namespace Ensemble

variable [DecidableEq ι] {world : World I τ σ} {ensemble : Ensemble I τ σ ε α ι}

section Terms

variable {terms : ι → Terms σ} {post : ι → Ending ε α → σ → Prop}

/-- Every client keeps to its terms from here on. -/
def Withstands (world : World I τ σ) (terms : ι → Terms σ) (post : ι → Ending ε α → σ → Prop)
    (ensemble : Ensemble I τ σ ε α ι) : Prop :=
  ∀ who, (ensemble.clients who).Withstands world (terms who) (post who) ensemble.state

/-- What one client may do is what the others are prepared for. -/
def Fit (terms : ι → Terms σ) : Prop :=
  ∀ who other, who ≠ other → ∀ state later,
    (terms other).guarantee state later → (terms who).rely state later

theorem withstands_turn (fit : Fit terms) (withstands : ensemble.Withstands world terms post)
    (who : ι) : (ensemble.turn world who).Withstands world terms post := by
  obtain ⟨guaranteed, goesOn⟩ := Client.withstands_act (withstands who)
  intro other
  unfold turn
  by_cases same : other = who
  · rw [same, clients_set_self]
    exact goesOn
  -- For all others the turn is one of the changes that they are prepared for.
  · rw [clients_set_of_ne _ _ _ _ same]
    exact (withstands other).later (fit other who same _ _ guaranteed)

/-- Where the terms of the clients fit together, every client keeps to its terms in every
schedule. -/
theorem withstands_interleave (fit : Fit terms)
    (withstands : ensemble.Withstands world terms post) (schedule : List ι) :
    (ensemble.interleave world schedule).Withstands world terms post := by
  induction schedule generalizing ensemble with
  | nil => exact withstands
  | cons who rest ih => exact ih (withstands_turn fit withstands who)

omit [DecidableEq ι] in
theorem post_of_ended (withstands : ensemble.Withstands world terms post) {who : ι}
    {ending : Ending ε α} (ended : ensemble.clients who = .ended ending) :
    post who ending ensemble.state := by
  have settled := withstands who
  rw [ended] at settled
  exact settled _ ((terms who).rely_refl _)

/-- What relates any state to the states that clients make of it relates the first state of a
schedule to the last one. -/
theorem related_interleave (fit : Fit terms)
    (withstands : ensemble.Withstands world terms post) (related : σ → σ → Prop)
    (reflexive : ∀ state, related state state)
    (transitive : ∀ {first second third}, related first second → related second third →
      related first third)
    (guaranteed : ∀ who state later, (terms who).guarantee state later → related state later)
    (schedule : List ι) : related ensemble.state (ensemble.interleave world schedule).state := by
  induction schedule generalizing ensemble with
  | nil => exact reflexive _
  | cons who rest ih =>
      have first := guaranteed who _ _ (Client.withstands_act (withstands who)).1
      exact transitive first (ih (withstands_turn fit withstands who))

end Terms

end Ensemble

end Stowage
