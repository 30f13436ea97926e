import Stowage.Container
import Stowage.Proofs.Runs

/-! # What operations report

`Program.Avoids` follows all branches of a program at once: none of them reports an event of a
topic.  That a resource is changed, or would be, is reported by strategies alone; no operation of the
engine says so, whatever the service answers.
-/

namespace Stowage

/-- Whether an event says that a declared resource is changed, or would be. -/
def Event.isDecision : Event → Bool
  | .planned _ _ | .performing _ _ => true
  | _ => false

namespace Program

variable {I : Interface} {τ σ ε α β : Type}

/-- No branch of the program reports an event of the topic. -/
inductive Avoids (topic : Event → Bool) : Program I τ ε α → Prop where
  | done {value : α} : Avoids topic (.done value)
  | fail {error : ε} : Avoids topic (.fail error)
  | unfinished : Avoids topic .unfinished
  | note {event : Event} {next : Program I τ ε α} (other : topic event = false)
      (rest : Avoids topic next) : Avoids topic (.note event next)
  | time {next : τ → Program I τ ε α} (rest : ∀ now, Avoids topic (next now)) :
      Avoids topic (.time next)
  | pause {span : τ} {next : Program I τ ε α} (rest : Avoids topic next) :
      Avoids topic (.pause span next)
  | call {request : I.Request} {next : I.Reply request → Program I τ ε α}
      (rest : ∀ reply, Avoids topic (next reply)) : Avoids topic (.call request next)

namespace Avoids

variable {topic : Event → Bool} {program : Program I τ ε α} {next : α → Program I τ ε β}

theorem pure {value : α} : Avoids topic (pure value : Program I τ ε α) :=
  .done

theorem bind (first : program.Avoids topic) (rest : ∀ value, (next value).Avoids topic) :
    (program >>= next).Avoids topic := by
  change (program.bind next).Avoids topic
  induction first with
  | done => exact rest _
  | fail => exact .fail
  | unfinished => exact .unfinished
  | note other _ ih => exact .note other ih
  | time _ ih => exact .time ih
  | pause _ ih => exact .pause ih
  | call _ ih => exact .call ih

theorem map (f : α → β) (avoids : program.Avoids topic) : (f <$> program).Avoids topic :=
  avoids.bind fun _ => .pure

theorem report {event : Event} {next : Unit → Program I τ ε α} (other : topic event = false)
    (rest : (next ()).Avoids topic) : (Program.report event >>= next).Avoids topic :=
  .note other rest

theorem now {next : τ → Program I τ ε α} (rest : ∀ time, (next time).Avoids topic) :
    (Program.now >>= next).Avoids topic :=
  .time rest

theorem wait {span : τ} {next : Unit → Program I τ ε α} (rest : (next ()).Avoids topic) :
    (Program.wait span >>= next).Avoids topic :=
  .pause rest

/-- What a program avoids is in none of its runs. -/
theorem events (avoids : program.Avoids topic) (world : World I τ σ) (state : σ) :
    (program.run world state).events.filter topic = [] := by
  induction avoids generalizing state with
  | done => rfl
  | fail => rfl
  | unfinished => rfl
  | note other _ ih =>
      exact (List.filter_cons_of_neg (ne_true_of_eq_false other)).trans (ih state)
  | time _ ih => exact ih _ state
  | pause _ ih => exact ih _
  | @call request next _ ih =>
      rcases answered : world.answer request state with ⟨reply, after⟩
      cases reply with
      | error text =>
          rw [run_call_of_error answered next]
          rfl
      | ok reply =>
          rw [run_call_of_ok answered next]
          exact ih reply after

end Avoids

end Program

namespace Engine

open Program

variable {Handle τ α : Type}

theorem avoids_ask {topic : Event → Bool} {request : Gateway.Request Handle}
    {next : Gateway.Reply request → Operation Handle τ α}
    (rest : ∀ reply, (next reply).Avoids topic) : (ask request >>= next).Avoids topic :=
  .call rest

variable (engine : Engine τ) (uri : String)

theorem decode_avoids :
    (engine.decode uri : Operation Handle τ Identity).Avoids Event.isDecision := by
  unfold decode
  cases Identity.decode uri engine.environment.suffix with
  | error fault => exact .fail
  | ok identity => exact .report rfl .pure

theorem resolve_avoids (identity : Identity) :
    (resolve identity : Operation Handle τ (Option Handle)).Avoids Event.isDecision := by
  refine avoids_ask fun group => ?_
  cases group with
  | none => exact .report rfl .pure
  | some group =>
      refine avoids_ask fun (handle, present) => ?_
      cases present with
      | false => exact .report rfl .pure
      | true => exact .pure

/-- An operation that looks up the container of an id before anything else. -/
theorem looked_up_avoids {next : Identity → Option Handle → Operation Handle τ α}
    (gone : ∀ identity, (next identity none).Avoids Event.isDecision)
    (found : ∀ identity handle, (next identity (some handle)).Avoids Event.isDecision) :
    (engine.decode uri >>= fun identity => resolve identity >>= next identity).Avoids
      Event.isDecision := by
  refine (decode_avoids engine uri).bind fun identity =>
    (resolve_avoids identity).bind fun handle => ?_
  cases handle with
  | none => exact gone identity
  | some handle => exact found identity handle

theorem read_avoids : (engine.read uri : Operation Handle τ Outcome).Avoids Event.isDecision := by
  refine looked_up_avoids engine uri (fun _ => .pure) fun identity handle => ?_
  refine avoids_ask fun listing => ?_
  cases listing with
  | error reason => exact .fail
  | ok listing =>
      dsimp only
      cases listing.find? fun entry => entry.name == identity.container with
      | some entry => exact .pure
      | none => exact .report rfl .pure

theorem probe_avoids : (engine.probe uri : Operation Handle τ Bool).Avoids Event.isDecision := by
  refine looked_up_avoids engine uri (fun _ => .pure) fun identity handle => .report rfl ?_
  refine avoids_ask fun found => ?_
  rcases found with reason | _ | _
  · exact .fail
  · exact .report rfl .pure
  · exact .pure

theorem delete_avoids : (engine.delete uri : Operation Handle τ Unit).Avoids Event.isDecision := by
  refine looked_up_avoids engine uri (fun _ => .pure) fun identity handle => .report rfl ?_
  refine avoids_ask fun reply => ?_
  cases reply with
  | fatal reason => exact .fail
  | ok => exact .pure
  | transient reason => exact .pure

variable (config : Config)

theorem settle_avoids (handle : Handle) :
    (engine.settle config handle : Operation Handle τ Outcome).Avoids Event.isDecision := by
  have reading : (engine.read (engine.identify config) : Operation Handle τ Outcome).Avoids
      Event.isDecision := read_avoids engine (engine.identify config)
  unfold settle
  -- The reading is generalized because unfolding it would otherwise decode its id.
  generalize engine.read (engine.identify config) = readBack at reading
  refine .report rfl (avoids_ask fun reply => ?_)
  cases reply with
  | fatal reason => exact .fail
  | ok => exact reading
  | transient reason => exact reading

variable [Timescale τ]

section Repetition

variable (schedule : Schedule τ) (description : String) (deadline : τ)
  (handle : Handle) (name : String)

theorem attemptThen_avoids (number : Nat) {again : Operation Handle τ (Attempted τ)}
    (repeated : again.Avoids Event.isDecision) :
    (Retry.attemptThen schedule description deadline (ask (.createIfMissing handle name)) number
      again).Avoids Event.isDecision := by
  refine avoids_ask fun reply => ?_
  cases reply with
  | ok => exact .pure
  | fatal reason => exact .pure
  | transient reason =>
      refine .now fun time => ?_
      cases Timescale.le deadline time with
      | true => exact .report rfl .pure
      | false => exact .report rfl (.wait repeated)

theorem attempts_avoids (limit number : Nat) :
    (Retry.attempts schedule description deadline (ask (.createIfMissing handle name)) limit
      number).Avoids Event.isDecision := by
  induction limit generalizing number with
  | zero => exact attemptThen_avoids schedule description deadline handle name number .unfinished
  | succ limit ih =>
      exact attemptThen_avoids schedule description deadline handle name number (ih _)

theorem run_avoids (limit : Nat) :
    (Retry.run schedule limit description (ask (.createIfMissing handle name)) :
      Operation Handle τ (Attempted τ)).Avoids Event.isDecision := by
  unfold Retry.run
  exact .now fun start => attempts_avoids schedule description _ handle name limit 1

end Repetition

theorem createUnder_avoids (handle : Handle) :
    (engine.createUnder config handle : Operation Handle τ Outcome).Avoids Event.isDecision := by
  unfold createUnder
  refine .report rfl ((run_avoids _ _ _ _ _).bind fun attempted => ?_)
  cases attempted with
  | ok => exact settle_avoids engine config handle
  | fatal reason => exact .fail
  | timedOut timeout attempts reason => exact .fail

theorem create_avoids :
    (engine.create config : Operation Handle τ Outcome).Avoids Event.isDecision := by
  refine avoids_ask fun (handle, present) => ?_
  cases present with
  | false => exact .fail
  | true => exact createUnder_avoids engine config handle

end Engine

end Stowage
