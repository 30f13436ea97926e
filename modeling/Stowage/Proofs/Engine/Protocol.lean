import Stowage.Proofs.Engine.Creation

/-! # The protocol of a creation

What the calls of a creation say about its end, and the other way round.  Every statement is read
off the list of the ways in which a creation can go.
-/

namespace Stowage

namespace Engine

open Retry

variable {Handle τ σ : Type}

theorem failed_at_iff {actual failure : RemoteFailure τ} {stage : RemoteStage} :
    (.failed (.remote actual) : Ending (Failure τ) Outcome) = .failed (.remote failure) ∧
        failure.stage = stage ↔
      failure = actual ∧ actual.stage = stage := by
  constructor
  · rintro ⟨⟨⟩, known⟩
    exact ⟨rfl, known⟩
  · rintro ⟨rfl, known⟩
    exact ⟨rfl, known⟩

variable [Timescale τ]

namespace CreationCalls

/-- Why the attempts failed, if they did: the last one was refused, or it failed for a passing
reason at the deadline or behind it. -/
def cause? (engine : Engine τ) (calls : CreationCalls Handle τ) : Option (Cause τ) :=
  match calls.tries.getLast? with
  | some ⟨.ok (.fatal reason), _⟩ => some (.reply (.fatal reason))
  | some ⟨.ok (.transient reason), time⟩ =>
    if Timescale.le (engine.deadline calls.begun) time then
      some (.timedOut engine.schedule.timeout calls.tries.length reason)
    else none
  | _ => none

/-- Whether the policy was set, or setting it failed for a passing reason. -/
def IsSettled (calls : CreationCalls Handle τ) : Prop :=
  ∃ policy result, calls.policy = some policy ∧ policy.reply = .ok result ∧
    ∀ reason, result ≠ .fatal reason

end CreationCalls

/-- What a creation keeps to. -/
structure KeepsProtocol (engine : Engine τ) (config : Config)
    (world : World (Gateway.interface Handle) τ σ) (calls : CreationCalls Handle τ)
    (run : Run (Gateway.interface Handle) τ σ (Failure τ) Outcome) : Prop where
  word : run.exchanges = calls.word config
  /-- The container is tried for if and only if the account was confirmed. -/
  tried_iff : calls.tries ≠ [] ↔ ∃ handle, calls.account = .ok (handle, true)
  missing_iff : run.ending = .failed (.accountMissing config.account) ↔
    ∃ handle, calls.account = .ok (handle, false)
  passing : ∀ attempt ∈ calls.tries.dropLast, attempt.IsPassing (engine.deadline calls.begun)
  createFailed_iff (failure : RemoteFailure τ) :
    run.ending = .failed (.remote failure) ∧ failure.stage = .creating ↔
      ∃ cause, calls.cause? engine = some cause ∧
        failure = .ofCreate config.name config.account cause
  policy_iff : calls.policy.isSome = true ↔
    ∃ time, calls.tries.getLast? = some ⟨.ok .ok, time⟩
  policyFailed_iff (failure : RemoteFailure τ) :
    run.ending = .failed (.remote failure) ∧ failure.stage = .settingPolicy ↔
      ∃ reason time, calls.policy = some ⟨.ok (.fatal reason), time⟩ ∧
        failure = .ofPolicy config.name config.account reason
  /-- Once the policy is settled, the rest is one reading of the container. -/
  readBack (settled : calls.IsSettled) : ∃ state,
    calls.readBack = ((engine.read (engine.identify config)).run world state).exchanges ∧
      run.ending = ((engine.read (engine.identify config)).run world state).ending
  settled_of_readBack : calls.readBack ≠ [] → calls.IsSettled
  raised_iff (text : String) : run.ending = .raised text ↔
    ∃ exchange, run.exchanges.getLast? = some exchange ∧ exchange.reply = .error text
  unfinished_iff : run.ending = .unfinished ↔
    calls.tries.length = engine.limit + 1 ∧
      ∀ attempt ∈ calls.tries, attempt.IsPassing (engine.deadline calls.begun)

namespace Creation

variable {engine : Engine τ} {config : Config} {world : World (Gateway.interface Handle) τ σ}
  {calls : CreationCalls Handle τ} {ending : Ending (Failure τ) Outcome}
  (creation : Creation engine config world calls ending)

include creation

theorem tried_iff : calls.tries ≠ [] ↔ ∃ handle, calls.account = .ok (handle, true) := by
  cases creation <;> simp

theorem missing_iff : ending = .failed (.accountMissing config.account) ↔
    ∃ handle, calls.account = .ok (handle, false) := by
  cases creation with
  | settled handle created reply state passing kept =>
      simpa using (run_read_ends engine _ world state).ne_accountMissing config.account
  | _ => simp

theorem passing :
    ∀ attempt ∈ calls.tries.dropLast, attempt.IsPassing (engine.deadline calls.begun) := by
  cases creation with
  | cutOff handle passing exhausted =>
      intro attempt member
      exact passing attempt (List.dropLast_subset _ member)
  | _ => simp_all

theorem createFailed_iff (failure : RemoteFailure τ) :
    ending = .failed (.remote failure) ∧ failure.stage = .creating ↔
      ∃ cause, calls.cause? engine = some cause ∧
        failure = .ofCreate config.name config.account cause := by
  cases creation with
  | refused handle reason time passing =>
      rw [failed_at_iff]
      simp [CreationCalls.cause?, RemoteFailure.ofCreate]
  | late handle reason passing late =>
      rw [failed_at_iff]
      simp [CreationCalls.cause?, RemoteFailure.ofCreate, late]
  | @cutOff handle begun earlier last passing exhausted =>
      obtain ⟨reply, time⟩ := last
      obtain ⟨⟨reason, rfl⟩, early⟩ := passing _ (List.mem_append_right _ List.mem_cons_self)
      simp [CreationCalls.cause?, early]
  | policyRefused handle created reason time passing =>
      rw [failed_at_iff]
      simp [CreationCalls.cause?, RemoteFailure.ofPolicy]
  | settled handle created reply state passing kept =>
      -- What can fail now is the reading, and its failures belong to another stage.
      refine iff_of_false ?_ (by simp [CreationCalls.cause?])
      rintro ⟨failed, creating⟩
      simp [(run_read_ends engine _ world state).stage_eq failed] at creating
  | _ => simp [CreationCalls.cause?]

theorem policy_iff :
    calls.policy.isSome = true ↔ ∃ time, calls.tries.getLast? = some ⟨.ok .ok, time⟩ := by
  cases creation with
  | cutOff handle passing exhausted =>
      obtain ⟨⟨reason, reply⟩, _⟩ := passing _ (List.mem_append_right _ List.mem_cons_self)
      grind
  | _ => simp

theorem policyFailed_iff (failure : RemoteFailure τ) :
    ending = .failed (.remote failure) ∧ failure.stage = .settingPolicy ↔
      ∃ reason time, calls.policy = some ⟨.ok (.fatal reason), time⟩ ∧
        failure = .ofPolicy config.name config.account reason := by
  cases creation with
  | refused handle reason time passing =>
      rw [failed_at_iff]
      simp [RemoteFailure.ofCreate]
  | late handle reason passing late =>
      rw [failed_at_iff]
      simp [RemoteFailure.ofCreate]
  | policyRefused handle created reason time passing =>
      rw [failed_at_iff]
      simp [RemoteFailure.ofPolicy]
  | settled handle created reply state passing kept =>
      refine iff_of_false ?_ (by simp [kept])
      rintro ⟨failed, settingPolicy⟩
      simp [(run_read_ends engine _ world state).stage_eq failed] at settingPolicy
  | _ => simp

theorem readBack (settled : calls.IsSettled) : ∃ state,
    calls.readBack = ((engine.read (engine.identify config)).run world state).exchanges ∧
      ending = ((engine.read (engine.identify config)).run world state).ending := by
  obtain ⟨policy, result, sent, replied, kept⟩ := settled
  cases creation with
  | settled handle created reply state passing kept =>
      refine ⟨state, ?_, ?_⟩
      · dsimp only
      · rfl
  | policyRaised handle created text time passing =>
      cases sent
      cases replied
  | policyRefused handle created reason time passing =>
      cases sent
      cases replied
      exact absurd rfl (kept reason)
  | _ => cases sent

theorem settled_of_readBack : calls.readBack ≠ [] → calls.IsSettled := by
  cases creation with
  | settled handle created reply state passing kept => exact fun _ => ⟨_, reply, rfl, rfl, kept⟩
  | _ => simp

theorem unfinished_iff : ending = .unfinished ↔
    calls.tries.length = engine.limit + 1 ∧
      ∀ attempt ∈ calls.tries, attempt.IsPassing (engine.deadline calls.begun) := by
  cases creation with
  | late handle reason passing late => simp_all [Try.IsPassing]
  | cutOff handle passing exhausted => 
      refine iff_of_true rfl ⟨?_, passing⟩
      rw [List.length_append, exhausted]
      rfl
  | settled handle created reply state passing kept =>
      have finished := (run_read_ends engine (engine.identify config) world state).ne_unfinished
      simp [finished, Try.IsPassing]
  | _ => simp [Try.IsPassing]

/-- Only a creation whose policy is settled returns, or fails to read an id. -/
theorem settled_of_ending (reading : (∃ outcome, ending = .returned outcome) ∨
    ∃ fault, ending = .failed (.malformed fault)) : calls.IsSettled := by
  cases creation with
  | settled handle created reply state passing kept => exact ⟨_, reply, rfl, rfl, kept⟩
  | _ => simp at reading

end Creation

variable (engine : Engine τ) (world : World (Gateway.interface Handle) τ σ)

theorem Creation.keepsProtocol {config : Config} {state : σ} {calls : CreationCalls Handle τ}
    (word : ((engine.create config).run world state).exchanges = calls.word config)
    (creation : Creation engine config world calls
      ((engine.create config).run world state).ending) :
    KeepsProtocol engine config world calls ((engine.create config).run world state) where
  word
  tried_iff := creation.tried_iff
  missing_iff := creation.missing_iff
  passing := creation.passing
  createFailed_iff := creation.createFailed_iff
  policy_iff := creation.policy_iff
  policyFailed_iff := creation.policyFailed_iff
  readBack := creation.readBack
  settled_of_readBack := creation.settled_of_readBack
  raised_iff := Program.raised_iff world _ state
  unfinished_iff := creation.unfinished_iff

theorem create_keepsProtocol (config : Config) (state : σ) :
    ∃ calls, KeepsProtocol engine config world calls
      ((engine.create config).run world state) := by
  obtain ⟨calls, word, creation⟩ := run_create engine config world state
  exact ⟨calls, creation.keepsProtocol engine world word⟩

end Engine

end Stowage
