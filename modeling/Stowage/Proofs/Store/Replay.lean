import Stowage.Proofs.Runs
import Stowage.Proofs.Store.Contents
import Stowage.Service

/-! # Replaying a run

Whatever is scripted, the exchanges of a run tell which store it leaves: a change that was granted
takes effect, and nothing else does (`Service.store_run`).
-/

namespace Stowage

variable {τ : Type}

/-- The store after an exchange. -/
def Store.record (store : Store) (exchange : Exchange (Gateway.interface String) τ) : Store :=
  match exchange with
  | ⟨.createIfMissing account name, .ok CallResult.ok, _⟩ => store.createContainer account name
  | ⟨.setPolicy account name header, .ok CallResult.ok, _⟩ => store.putPolicy account name header
  | ⟨.deleteIfPresent account name, .ok CallResult.ok, _⟩ => store.dropContainer account name
  | _ => store

/-- No change of a policy and no deletion was put off: each was granted, refused or raised. -/
def Exchange.IsFinal (exchange : Exchange (Gateway.interface String) τ) : Prop :=
  match exchange with
  | ⟨.setPolicy _ _ _, .ok (CallResult.transient _), _⟩
  | ⟨.deleteIfPresent _ _, .ok (CallResult.transient _), _⟩ => False
  | _ => True

/-- An account that was looked up is its own handle. -/
def Exchange.IsNamed (exchange : Exchange (Gateway.interface String) τ) : Prop :=
  match exchange with
  | ⟨.resolveAccount _ account, .ok (handle, _), _⟩ => handle = account
  | _ => True

namespace Store

variable (store : Store)

theorem record_of_query {exchange : Exchange (Gateway.interface String) τ}
    (query : exchange.request.changes = false) : store.record exchange = store := by
  obtain ⟨request, reply, time⟩ := exchange
  cases request <;> first | rfl | cases query

theorem record_error {request : Gateway.Request String} (text : String) (time : τ) :
    store.record ⟨request, .error text, time⟩ = store := by
  cases request <;> rfl

theorem record_reply (request : Gateway.Request String) (time : τ) :
    store.record ⟨request, .ok (store.reply request).1, time⟩ = (store.reply request).2 := by
  cases request <;> rfl

/-- No script grants a change. -/
theorem record_scripted {script : Script.Reply} {request : Gateway.Request String}
    {reply : Gateway.Reply request} (said : script.to? request = some reply) (time : τ) :
    store.record ⟨request, .ok reply, time⟩ = store := by
  cases request with
  | createIfMissing account name => cases script <;> cases said <;> rfl
  | setPolicy account name header => cases script <;> cases said <;> rfl
  | deleteIfPresent account name => cases script <;> cases said <;> rfl
  | _ => rfl

theorem foldl_record_of_queries {exchanges : List (Exchange (Gateway.interface String) τ)}
    (queries : ∀ exchange ∈ exchanges, exchange.request.changes = false) :
    exchanges.foldl record store = store := by
  induction exchanges with
  | nil => rfl
  | cons exchange rest ih =>
      obtain ⟨query, queries⟩ := List.forall_mem_cons.mp queries
      rw [List.foldl_cons, store.record_of_query query, ih queries]

end Store

namespace Service

variable {service rest : Service τ} {request : Gateway.Request String}

/-- A request takes a script, the empty one where none is left, and leaves the others. -/
structure Takes (service : Service τ) (queue : Script.Queue) (script : Script.Reply)
    (rest : Service τ) : Prop where
  store : rest.store = service.store
  script : script = .usual ∨ ∃ taken ∈ service.scripts queue, taken.reply = script
  scripts (other : Script.Queue) : ∀ left ∈ rest.scripts other, left ∈ service.scripts other

/-- How a request is answered: by an error, which its script says or the store fails with, by a
reply that its script says, or by the store. -/
inductive Answered (service : Service τ) (request : Gateway.Request String) :
    Except String (Gateway.Reply request) × Service τ → Prop where
  | raised {script : Script.Reply} {rest : Service τ} (text : String)
      (takes : service.Takes (.of request) script rest) :
      Answered service request (.error text, rest)
  | scripted {script : Script.Reply} {rest : Service τ} {reply : Gateway.Reply request}
      (takes : service.Takes (.of request) script rest) (said : script.to? request = some reply) :
      Answered service request (.ok reply, rest)
  | stored {script : Script.Reply} {rest : Service τ}
      (takes : service.Takes (.of request) script rest) :
      Answered service request (.ok (service.store.reply request).1,
        { rest with store := (service.store.reply request).2 })

theorem takes_next (service : Service τ) (queue : Script.Queue) :
    service.Takes queue (service.next queue).1.reply (service.next queue).2 := by
  unfold next
  cases left : service.scripts queue with
  | nil => exact ⟨rfl, .inl rfl, fun _ _ member => member⟩
  | cons script scripts =>
      refine ⟨rfl, .inr ⟨script, left ▸ List.mem_cons_self, rfl⟩, fun other later member => ?_⟩
      dsimp only at member
      split at member
      · next same => exact same ▸ left ▸ List.mem_cons_of_mem _ member
      · exact member

variable [Timescale τ]

theorem Takes.delay {queue : Script.Queue} {script : Script.Reply}
    (takes : service.Takes queue script rest) (span : Option τ) :
    service.Takes queue script (rest.delay span) := by
  cases span with
  | none => exact takes
  | some span => exact ⟨takes.store, takes.script, takes.scripts⟩

theorem answered_answer (service : Service τ) (request : Gateway.Request String) :
    Answered service request (service.answer request) := by
  have taken := service.takes_next (.of request)
  unfold answer
  generalize service.next (.of request) = next at taken ⊢
  obtain ⟨script, rest⟩ := next
  have delayed := taken.delay script.delay
  dsimp only at delayed ⊢
  generalize rest.delay script.delay = later at delayed ⊢
  split
  · exact .raised _ delayed
  split
  · next said => exact .scripted delayed said
  rw [delayed.store, Store.answer]
  cases service.store.untabled? request with
  | none => exact .stored delayed
  | some account => exact .raised _ delayed

theorem store_answer (service : Service τ) (request : Gateway.Request String) (time : τ) :
    (service.answer request).2.store =
      service.store.record ⟨request, (service.answer request).1, time⟩ := by
  have answered := answered_answer service request
  generalize service.answer request = answer at answered
  cases answered with
  | raised text takes => exact takes.store.trans (Store.record_error _ text time).symm
  | scripted takes said => exact takes.store.trans (Store.record_scripted _ said time).symm
  | stored takes => exact (Store.record_reply _ request time).symm

/-- No script puts off a change of a policy or a deletion. -/
def IsDecided (service : Service τ) : Prop :=
  ∀ queue, queue = .policy ∨ queue = .delete →
    ∀ script ∈ service.scripts queue, ∀ reason, script.reply ≠ .transient reason

omit [Timescale τ] in
theorem IsDecided.ne_transient (decided : service.IsDecided) {queue : Script.Queue}
    (changing : queue = .policy ∨ queue = .delete) {reason : String}
    (takes : service.Takes queue (.transient reason) rest) : False := by
  rcases takes.script with usual | ⟨taken, member, same⟩
  · cases usual
  · exact decided queue changing taken member reason same

theorem isDecided_answer (decided : service.IsDecided) (request : Gateway.Request String) :
    (service.answer request).2.IsDecided := by
  have answered := answered_answer service request
  generalize service.answer request = answer at answered
  intro queue changing script member
  cases answered with
  | raised text takes => exact decided queue changing script (takes.scripts queue script member)
  | scripted takes said => exact decided queue changing script (takes.scripts queue script member)
  | stored takes => exact decided queue changing script (takes.scripts queue script member)

theorem isFinal_answer (decided : service.IsDecided) (request : Gateway.Request String) (time : τ) :
    Exchange.IsFinal ⟨request, (service.answer request).1, time⟩ := by
  have answered := answered_answer service request
  generalize service.answer request = answer at answered
  cases answered with
  | raised text takes => cases request <;> trivial
  | stored takes => cases request <;> trivial
  | @scripted script rest reply takes said =>
      cases request with
      | setPolicy account name header =>
          cases script with
          | transient reason => exact (decided.ne_transient (.inl rfl) takes).elim
          | fatal reason => cases said; trivial
          | _ => cases said
      | deleteIfPresent account name =>
          cases script with
          | transient reason => exact (decided.ne_transient (.inr rfl) takes).elim
          | fatal reason => cases said; trivial
          | _ => cases said
      | _ => trivial

theorem isNamed_answer (service : Service τ) (request : Gateway.Request String) (time : τ) :
    Exchange.IsNamed ⟨request, (service.answer request).1, time⟩ := by
  have answered := answered_answer service request
  generalize service.answer request = answer at answered
  cases answered with
  | raised text takes => cases request <;> trivial
  | stored takes => cases request <;> trivial
  | @scripted script rest reply takes said =>
      cases request with
      | resolveAccount group account =>
          cases script with
          | presence there => cases said; rfl
          | _ => cases said
      | _ => trivial

variable {ε α : Type} (program : Program (Gateway.interface String) τ ε α)

section Runs

variable (service : Service τ)

/-- The exchanges of a run tell which store it leaves. -/
theorem store_run :
    (program.run world service).state.store =
      (program.run world service).exchanges.foldl Store.record service.store :=
  Program.observe_run store Store.record (fun _ _ => rfl)
    (fun request service time => store_answer service request time) program service

theorem isNamed_of_run : ∀ exchange ∈ (program.run world service).exchanges, exchange.IsNamed :=
  Program.forall_exchanges (fun _ => True) Exchange.IsNamed (fun _ _ _ => trivial)
    (fun request service _ => ⟨trivial, isNamed_answer service request⟩) program trivial

end Runs

theorem isFinal_of_run (decided : service.IsDecided) :
    ∀ exchange ∈ (program.run world service).exchanges, exchange.IsFinal :=
  Program.forall_exchanges IsDecided Exchange.IsFinal (fun _ _ decided => decided)
    (fun request _ decided => ⟨isDecided_answer decided request, isFinal_answer decided request⟩)
    program decided

end Service

end Stowage
