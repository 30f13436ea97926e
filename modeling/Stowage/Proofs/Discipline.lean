import Stowage.Proofs.Runs

/-! # What a program may send and how it may end

`Obeys` follows all branches of a program at once.  Every request must be allowed by the exchanges
before it, and every end must satisfy a condition on all exchanges; a raised reply is an end too.
The rule for composed programs (`obeys_bind`) makes it a calculus, and `run_of_obeys` carries the
result over to the runs in every world.
-/

namespace Stowage

variable {I : Interface} {τ σ ε α β : Type}

/-- A condition on how a program ended after certain exchanges. -/
abbrev Postcondition (I : Interface) (τ ε α : Type) : Type :=
  List (Exchange I τ) → Ending ε α → Prop

namespace Program

def Obeys (allowed : List (Exchange I τ) → I.Request → Prop) (post : Postcondition I τ ε α)
    (past : List (Exchange I τ)) : Program I τ ε α → Prop
  | .done value => post past (.returned value)
  | .fail error => post past (.failed error)
  | .unfinished => post past .unfinished
  | .note _ next => next.Obeys allowed post past
  | .time next => ∀ now, (next now).Obeys allowed post past
  | .pause _ next => next.Obeys allowed post past
  | .call request next =>
    allowed past request ∧
    (∀ text time, post (past ++ [⟨request, .error text, time⟩]) (.raised text)) ∧
    ∀ reply time, (next reply).Obeys allowed post (past ++ [⟨request, .ok reply, time⟩])

/-- The condition under which a program may be followed by another. -/
def thenObeys (allowed : List (Exchange I τ) → I.Request → Prop) (post : Postcondition I τ ε β)
    (next : α → Program I τ ε β) : Postcondition I τ ε α :=
  fun past ending => match ending with
    | .returned value => (next value).Obeys allowed post past
    | .failed error => post past (.failed error)
    | .raised text => post past (.raised text)
    | .unfinished => post past .unfinished

variable {allowed : List (Exchange I τ) → I.Request → Prop} {past : List (Exchange I τ)}

theorem obeys_bind (post : Postcondition I τ ε β) (program : Program I τ ε α)
    (next : α → Program I τ ε β) :
    (program >>= next).Obeys allowed post past ↔
      program.Obeys allowed (thenObeys allowed post next) past := by
  change (program.bind next).Obeys allowed post past ↔ _
  induction program generalizing past with
  | done value => rfl
  | fail error => rfl
  | unfinished => rfl
  | note event rest ih => exact ih
  | time rest ih => exact forall_congr' fun now => ih now
  | pause span rest ih => exact ih
  | call request rest ih =>
      simp only [bind, Obeys, ih]
      rfl

theorem obeys_report {post : Postcondition I τ ε α} {event : Event}
    {next : Unit → Program I τ ε α} :
    (report event >>= next).Obeys allowed post past ↔ (next ()).Obeys allowed post past :=
  Iff.rfl

theorem obeys_ofLogged_error {post : Postcondition I τ ε α} {events : List Event} {error : ε} :
    (ofLogged ⟨events, .error error⟩ : Program I τ ε α).Obeys allowed post past ↔
      post past (.failed error) := by
  induction events with
  | nil => rfl
  | cons event rest ih => exact ih

theorem obeys_now {post : Postcondition I τ ε α} {next : τ → Program I τ ε α} :
    (now >>= next).Obeys allowed post past ↔ ∀ time, (next time).Obeys allowed post past :=
  Iff.rfl

theorem obeys_wait {post : Postcondition I τ ε α} {span : τ} {next : Unit → Program I τ ε α} :
    (wait span >>= next).Obeys allowed post past ↔ (next ()).Obeys allowed post past :=
  Iff.rfl

theorem Obeys.weaken {post weaker : Postcondition I τ ε α} {program : Program I τ ε α}
    (obeys : program.Obeys allowed post past)
    (implies : ∀ past ending, post past ending → weaker past ending) :
    program.Obeys allowed weaker past := by
  induction program generalizing past with
  | done value => exact implies _ _ obeys
  | fail error => exact implies _ _ obeys
  | unfinished => exact implies _ _ obeys
  | note event rest ih => exact ih obeys
  | time rest ih => exact fun now => ih now (obeys now)
  | pause span rest ih => exact ih obeys
  | call request rest ih =>
      obtain ⟨permitted, raised, replied⟩ := obeys
      exact ⟨permitted, fun text time => implies _ _ (raised text time),
        fun reply time => ih reply (replied reply time)⟩

theorem Obeys.map {program : Program I τ ε α} (f : α → β)
    (obeys : program.Obeys allowed (fun _ _ => True) past) :
    (f <$> program).Obeys allowed (fun _ _ => True) past := by
  refine (obeys_bind _ program _).mpr (obeys.weaken fun past ending _ => ?_)
  cases ending <;> trivial

/-- A run that sends nothing only has to end well. -/
theorem run_without_exchanges {post : Postcondition I τ ε α} {run : Run I τ σ ε α}
    (silent : run.exchanges = []) (ended : post past run.ending) :
    post (past ++ run.exchanges) run.ending ∧
    ∀ earlier exchange later, run.exchanges = earlier ++ exchange :: later →
      allowed (past ++ earlier) exchange.request := by
  rw [silent, List.append_nil]
  refine ⟨ended, fun earlier exchange later split => ?_⟩
  simp at split

/-- What a program obeys holds of its runs: at the end, and whenever a request was sent. -/
theorem run_of_obeys {post : Postcondition I τ ε α} {program : Program I τ ε α}
    (obeys : program.Obeys allowed post past) (world : World I τ σ) (state : σ) :
    post (past ++ (program.run world state).exchanges) (program.run world state).ending ∧
    ∀ earlier exchange later, (program.run world state).exchanges = earlier ++ exchange :: later →
      allowed (past ++ earlier) exchange.request := by
  -- The past grows along the branch that the world chooses, and the state follows the replies.
  induction program generalizing past state with
  | done value => exact run_without_exchanges rfl obeys
  | fail error => exact run_without_exchanges rfl obeys
  | unfinished => exact run_without_exchanges rfl obeys
  | note event rest ih => exact ih obeys state
  | time rest ih => exact ih _ (obeys _) state
  | pause span rest ih => exact ih obeys _
  | call request rest ih =>
      obtain ⟨permitted, raised, replied⟩ := obeys
      rcases answered : world.answer request state with ⟨reply, after⟩
      cases reply with
      | error text =>
          rw [run_call_of_error answered rest]
          refine ⟨raised text (world.now after), fun earlier exchange later split => ?_⟩
          rcases List.cons_eq_append_iff.mp split with ⟨rfl, same⟩ | ⟨others, _, same⟩
          · obtain ⟨rfl, _⟩ := List.cons.inj same
            simpa using permitted
          · simp at same
      | ok reply =>
          obtain ⟨ended, sent⟩ := ih reply (replied reply (world.now after)) after
          rw [run_call_of_ok answered rest, Run.exchanges_after_called, Run.ending_after]
          rw [List.append_assoc, List.singleton_append] at ended
          refine ⟨ended, fun earlier exchange later split => ?_⟩
          rcases List.cons_eq_append_iff.mp split with ⟨rfl, same⟩ | ⟨others, rfl, same⟩
          · obtain ⟨rfl, _⟩ := List.cons.inj same
            simpa using permitted
          · simpa using sent others exchange later same

end Program

end Stowage
