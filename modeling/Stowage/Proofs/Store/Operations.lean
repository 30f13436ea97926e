import Stowage.Proofs.Engine.Attempts
import Stowage.Proofs.Store.Contents
import Stowage.Service

/-! # Operations on a store

Where nothing is scripted, an operation is a function of the store: `Yields` says which value it
returns, which store it leaves and which changes it asks for.  There is one statement for each
operation of the engine.
-/

namespace Stowage.Service

variable {τ α β : Type} [Timescale τ]

/-- No reply is laid down in advance. -/
def IsQuiet (service : Service τ) : Prop :=
  ∀ queue, service.scripts queue = []

/-- What a program does on a service: its value, the store it leaves, and the changes it asks for
in order. -/
structure Yields (program : Operation String τ α) (service : Service τ) (value : α) (store : Store)
    (changes : List (Gateway.Request String)) : Prop where
  ending : (program.run world service).ending = .returned value
  state : (program.run world service).state = { service with store }
  changes : (program.run world service).requests.filter Gateway.Request.changes = changes

variable {service : Service τ} {program : Operation String τ α} {value : α} {result : β}
  {store after : Store} {changes later : List (Gateway.Request String)}

theorem answer_of_quiet (quiet : service.IsQuiet) {request : Gateway.Request String}
    (served : service.store.untabled? request = none) :
    service.answer request =
      (.ok (service.store.reply request).1,
        { service with store := (service.store.reply request).2 }) := by
  have unscripted : service.next (Script.Queue.of request) = ({}, service) := by
    simp only [next, quiet (Script.Queue.of request)]
  have answered : service.store.answer request = .ok (service.store.reply request) := by
    rw [Store.answer, served]
  have unsaid : Script.Reply.usual.to? request = none := by cases request <;> rfl
  unfold answer
  simp only [unscripted, unsaid, delay, answered]

namespace Yields

theorem pure : Yields (pure value : Operation String τ α) service value service.store [] :=
  ⟨rfl, rfl, rfl⟩

theorem report {event : Event} {next : Unit → Operation String τ α}
    (rest : Yields (next ()) service value store changes) :
    Yields (Program.report event >>= next) service value store changes :=
  ⟨rest.ending, rest.state, rest.changes⟩

theorem now {next : τ → Operation String τ α}
    (rest : Yields (next service.clock) service value store changes) :
    Yields (Program.now >>= next) service value store changes :=
  ⟨rest.ending, rest.state, rest.changes⟩

theorem bind {next : α → Operation String τ β}
    (first : Yields program service value store changes)
    (rest : Yields (next value) { service with store } result after later) :
    Yields (program >>= next) service result after (changes ++ later) := by
  obtain ⟨exchanges, ending, state⟩ :=
    Run.andThen_of_returned (fun value state => (next value).run world state) first.ending
  rw [first.state] at exchanges ending state
  refine ⟨?_, ?_, ?_⟩
  · rw [Program.run_bind, ending, rest.ending]
  · rw [Program.run_bind, state, rest.state]
  · rw [Program.run_bind, Run.requests, exchanges, List.map_append]
    refine (List.filter_append _ _).trans ?_
    exact congr (congrArg _ first.changes) rest.changes

theorem map (f : α → β) (first : Yields program service value store changes) :
    Yields (f <$> program) service (f value) store changes := by
  have mapped : Yields (program >>= fun value => Pure.pure (f value)) service (f value) store
      (changes ++ []) := first.bind .pure
  rw [List.append_nil] at mapped
  exact mapped

variable {request : Gateway.Request String} {next : Gateway.Reply request → Operation String τ α}
  (quiet : service.IsQuiet) (served : service.store.untabled? request = none)
  (rest : Yields (next (service.store.reply request).1)
    { service with store := (service.store.reply request).2 } value store changes)

include quiet served rest

theorem send : Yields (Engine.ask request >>= next) service value store
    ([request].filter Gateway.Request.changes ++ changes) := by
  have answered := answer_of_quiet quiet served
  refine ⟨?_, ?_, ?_⟩
  · rw [Engine.run_ask_of_ok answered]
    exact rest.ending
  · rw [Engine.run_ask_of_ok answered]
    exact rest.state
  · rw [Engine.run_ask_of_ok answered, Run.requests, Run.exchanges_after_called, List.map_cons]
    exact (List.filter_append [request] _).trans (congrArg _ rest.changes)

theorem ask (query : request.changes = false) :
    Yields (Engine.ask request >>= next) service value store changes := by
  have sent := send quiet served rest
  rwa [List.filter_cons_of_neg (ne_true_of_eq_false query)] at sent

theorem change (changing : request.changes = true) :
    Yields (Engine.ask request >>= next) service value store (request :: changes) := by
  have sent := send quiet served rest
  rwa [List.filter_cons_of_pos changing] at sent

end Yields

open Engine

variable (engine : Engine τ) {uri : String} {identity : Identity}

theorem yields_decode (decoded : Identity.decode uri engine.environment.suffix = .ok identity) :
    Yields (engine.decode uri) service identity service.store [] := by
  unfold decode
  rw [decoded]
  exact .report .pure

section Queries

variable (quiet : service.IsQuiet)
  (decoded : Identity.decode uri engine.environment.suffix = .ok identity)

include quiet

omit decoded in
theorem yields_resolve :
    Yields (resolve identity) service
      (if service.store.knows identity.account then some identity.account else none)
      service.store [] := by
  refine .ask quiet rfl ?_ rfl
  cases found : service.store.groups.get? identity.account with
  | none =>
      simp only [Store.reply, found, Store.knows]
      exact .report .pure
  | some group =>
      have owned : service.store.owns group identity.account =
          service.store.accounts.contains identity.account := by
        simp [Store.owns, found]
      simp only [Store.reply, found]
      refine .ask quiet rfl ?_ rfl
      simp only [Store.reply, owned, Store.knows, found]
      cases service.store.accounts.contains identity.account with
      | false => exact .report .pure
      | true => exact .pure

include decoded

theorem yields_probe :
    Yields (engine.probe uri) service (service.store.holds identity.account identity.container)
      service.store [] := by
  refine .bind (yields_decode engine decoded) (.bind (yields_resolve quiet) ?_)
  unfold Store.holds Store.reachable?
  cases known : service.store.knows identity.account with
  | false => exact .pure
  | true =>
      refine .report (.ask quiet (Store.untabled?_of_knows _ _ rfl known) ?_ rfl)
      simp only [Store.reply]
      cases service.store.container? identity.account identity.container with
      | none => exact .report .pure
      | some properties => exact .pure

theorem yields_delete :
    Yields (engine.delete uri) service ()
      (if service.store.knows identity.account then
        service.store.dropContainer identity.account identity.container else service.store)
      (if service.store.knows identity.account then
        [.deleteIfPresent identity.account identity.container] else []) := by
  refine .bind (yields_decode engine decoded) (.bind (yields_resolve quiet) ?_)
  cases known : service.store.knows identity.account with
  | false => exact .pure
  | true => exact .report (.change quiet (Store.untabled?_of_knows _ _ rfl known) .pure rfl)

theorem yields_read_listed :
    Yields (engine.read uri) service
      ((service.store.listed? identity.account identity.container).elim .removed
        fun properties => .managed uri identity properties.project)
      service.store [] := by
  refine .bind (yields_decode engine decoded) (.bind (yields_resolve quiet) ?_)
  unfold Store.listed?
  cases known : service.store.knows identity.account with
  | false => exact .pure
  | true =>
      refine .ask quiet (Store.untabled?_of_knows _ _ rfl known) ?_ rfl
      simp only [Store.reply, if_true]
      cases (service.store.listing identity.account identity.container).find? fun entry =>
          entry.name == identity.container with
      | none => exact .report .pure
      | some properties => exact .pure

theorem yields_read (named : service.store.IsNamed) :
    Yields (engine.read uri) service
      ((service.store.reachable? identity.account identity.container).elim .removed
        fun properties => .managed uri identity properties.project)
      service.store [] := by
  rw [← Store.listed?_of_named _ _ named]
  exact yields_read_listed engine quiet decoded

end Queries

theorem yields_repetition (schedule : Schedule τ) (limit : Nat) (description : String)
    (account name : String) (quiet : service.IsQuiet)
    (known : service.store.knows account = true) :
    Yields (Retry.run schedule limit description (ask (.createIfMissing account name))) service
      .ok (service.store.createContainer account name) [.createIfMissing account name] := by
  have attempted (number : Nat) (again : Operation String τ (Attempted τ)) :
      Yields (Retry.attemptThen schedule description
          (Timescale.add service.clock schedule.timeout) (ask (.createIfMissing account name))
          number again) service
        .ok (service.store.createContainer account name) [.createIfMissing account name] :=
    .change quiet (Store.untabled?_of_knows _ _ rfl known) .pure rfl
  refine .now ?_
  cases limit with
  | zero => exact attempted 1 _
  | succ limit => exact attempted 1 _

section Creation

variable (config : Config) (quiet : service.IsQuiet)

include quiet

theorem run_create_of_not_owns (foreign : service.store.owns config.group config.account = false) :
    let run := (engine.create config).run world service
    run.ending = .failed (.accountMissing config.account) ∧ run.state = service := by
  have answered : service.answer (.resolveAccount config.group config.account) = _ :=
    answer_of_quiet quiet rfl
  simp only [Store.reply, foreign] at answered
  intro run
  have missing : run = _ := Engine.run_ask_of_ok answered _
  rw [missing]
  exact ⟨rfl, rfl⟩

variable (owned : service.store.owns config.group config.account = true)

include owned

/-- Where the account belongs to its group, nothing that a creation asks for is refused. -/
theorem answers_create :
    let created : Service τ :=
      { service with store := service.store.createContainer config.account config.name }
    world.answer (.resolveAccount config.group config.account) service =
        (.ok (config.account, true), service) ∧
      world.answer (.createIfMissing config.account config.name) service =
        (.ok CallResult.ok, created) ∧
      world.answer (.setPolicy config.account config.name config.access.header) created =
        (.ok CallResult.ok, { service with store := service.store.declare config }) := by
  intro created
  have quietCreated : created.IsQuiet := quiet
  have known := service.store.knows_of_owns _ owned
  refine ⟨(answer_of_quiet quiet rfl).trans ?_,
    answer_of_quiet quiet (Store.untabled?_of_knows _ _ rfl known),
    answer_of_quiet quietCreated rfl⟩
  rw [← owned]
  rfl

variable (decoded : Identity.decode (engine.identify config) engine.environment.suffix =
    .ok ⟨config.account, config.name⟩)

include decoded

theorem yields_create_listed :
    Yields (engine.create config) service
      (((service.store.declare config).listed? config.account config.name).elim .removed
        fun properties =>
          .managed (engine.identify config) ⟨config.account, config.name⟩ properties.project)
      (service.store.declare config)
      [.createIfMissing config.account config.name,
        .setPolicy config.account config.name config.access.header] := by
  unfold create
  refine .ask quiet rfl ?_ rfl
  simp only [Store.reply, owned]
  have known := service.store.knows_of_owns _ owned
  refine .report (.bind (yields_repetition _ _ _ _ _ quiet known)
    (.report (.change quiet rfl ?_ rfl)))
  -- What is read back is the store with the container and its policy.
  generalize engine.identify config = uri at decoded
  have quietAfter : IsQuiet { service with store := service.store.declare config } := quiet
  exact yields_read_listed engine quietAfter decoded

theorem yields_create (named : service.store.IsNamed) :
    let properties := (service.store.container? config.account config.name).getD
      (Store.newContainer config.name)
    Yields (engine.create config) service
      (.managed (engine.identify config) ⟨config.account, config.name⟩ properties.project)
      (service.store.declare config)
      [.createIfMissing config.account config.name,
        .setPolicy config.account config.name config.access.header] := by
  have creating := yields_create_listed engine config quiet owned decoded
  rw [Store.listed?_of_named _ _ (named.declare config),
    service.store.reachable?_declare config (service.store.knows_of_owns _ owned)] at creating
  exact creating

end Creation

end Stowage.Service
