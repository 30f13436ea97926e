import Stowage.Proofs.Engine.Changes
import Stowage.Proofs.Identity.Accounts
import Stowage.Proofs.Store.Operations

/-! # Replacements on a store

A replacement deletes the container under an id and then creates the declared one.  `Replacement`
lists the ways in which this can go where nothing is scripted, and the store that each leaves.  A
configuration or an id that is refused leaves everything as it was, but that an account is missing
comes out only behind the deletion.
-/

namespace Stowage

namespace Store

variable (store : Store) (identity : Identity)

/-- The store after a deletion: an account that is not known is left alone. -/
def retire : Store :=
  if store.knows identity.account then store.dropContainer identity.account identity.container
  else store

/-- What is lost from one store to another is at most the container of an identity, and that one is
lost if its account was known. -/
structure Loses (identity : Identity) (before after : Store) : Prop where
  groups : after.groups = before.groups
  accounts : after.accounts = before.accounts
  policies : after.policies = before.policies
  containers : ∀ account, after.containers.get? account =
    (before.containers.get? account).map fun containers =>
      if account = identity.account ∧ before.knows account = true then
        containers.erase identity.container
      else containers

theorem loses_dropContainer (known : store.knows identity.account = true) :
    store.Loses identity (store.dropContainer identity.account identity.container) := by
  refine ⟨store.groups_dropContainer .., store.accounts_dropContainer .., ?_, fun account => ?_⟩
  · unfold dropContainer
    split <;> rfl
  · unfold dropContainer
    cases found : store.containers.get? identity.account with
    | none =>
        dsimp only
        by_cases same : account = identity.account
        · rw [same, found]
          rfl
        · simp [same]
    | some containers =>
        dsimp only
        rw [Table.get?_insert]
        by_cases same : account = identity.account
        · simp [same, found, known]
        · simp [same]

theorem loses_retire : store.Loses identity (store.retire identity) := by
  unfold retire
  cases known : store.knows identity.account with
  | true => exact store.loses_dropContainer identity known
  | false =>
      refine ⟨rfl, rfl, rfl, fun account => ?_⟩
      have kept (containers : Table Properties) :
          (if account = identity.account ∧ store.knows account = true then
            containers.erase identity.container else containers) = containers :=
        if_neg fun ⟨same, knownToo⟩ => Bool.false_ne_true (known.symm.trans (same ▸ knownToo))
      simp only [kept, Option.map_id']
      rfl

@[simp] theorem owns_retire (group account : String) :
    (store.retire identity).owns group account = store.owns group account :=
  have lost := store.loses_retire identity
  store.owns_congr account group lost.groups lost.accounts

end Store

namespace Service

open Engine

variable {τ : Type} [Timescale τ] {service : Service τ} (engine : Engine τ)

section Operations

variable (quiet : service.IsQuiet)

include quiet

/-- A reading leaves everything as it was, also where the id cannot be read. -/
theorem state_read (uri : String) : ((engine.read uri).run world service).state = service := by
  cases decoded : Identity.decode uri engine.environment.suffix with
  | error fault =>
      unfold Engine.read
      rw [engine.decode_of_error decoded]
      rfl
  | ok identity => exact (yields_read_listed engine quiet decoded).state

/-- A creation whose account belongs to its group makes both its changes, and ends like the reading
of the new container. -/
theorem run_create_of_owns (config : Config)
    (owned : service.store.owns config.group config.account = true) :
    let settled : Service τ := { service with store := service.store.declare config }
    let run := (engine.create config).run world service
    run.ending = ((engine.read (engine.identify config)).run world settled).ending ∧
      run.state = settled := by
  intro settled run
  obtain ⟨located, tried, replied⟩ := answers_create config quiet owned
  obtain ⟨_, ended, left⟩ := run_create_of_kept engine config replied nofun located tried
  have quietSettled : settled.IsQuiet := quiet
  have untouched := state_read engine quietSettled (engine.identify config)
  rw [untouched] at left
  exact ⟨ended, left⟩

end Operations

/-- The ways in which a replacement can go where nothing is scripted, how each of them ends, and the
store that it leaves. -/
inductive Replacement (uri : String) (document : Document) (before : Store) :
    Ending (Failure τ) Outcome → Store → Prop where
  | rejected {rejection : Config.Rejection}
      (unaccepted : Config.ofDocument document = .error rejection) :
      Replacement uri document before (.failed (.rejected rejection)) before
  | unread {config : Config} {fault : Identity.Malformed}
      (accepted : Config.ofDocument document = .ok config)
      (unread : Identity.decode uri engine.environment.suffix = .error fault) :
      Replacement uri document before (.failed (.malformed fault)) before
  | accountMissing {config : Config} {identity : Identity}
      (accepted : Config.ofDocument document = .ok config)
      (decoded : Identity.decode uri engine.environment.suffix = .ok identity)
      (foreign : before.owns config.group config.account = false) :
      Replacement uri document before (.failed (.accountMissing config.account))
        (before.retire identity)
  | unaddressed {config : Config} {identity : Identity} {fault : Identity.Malformed}
      (accepted : Config.ofDocument document = .ok config)
      (decoded : Identity.decode uri engine.environment.suffix = .ok identity)
      (owned : before.owns config.group config.account = true)
      (unread : Identity.decode (engine.identify config) engine.environment.suffix =
        .error fault) :
      Replacement uri document before (.failed (.malformed fault))
        ((before.retire identity).declare config)
  | replaced {config : Config} {identity own : Identity} (outcome : Outcome)
      (accepted : Config.ofDocument document = .ok config)
      (decoded : Identity.decode uri engine.environment.suffix = .ok identity)
      (owned : before.owns config.group config.account = true)
      (addressed : Identity.decode (engine.identify config) engine.environment.suffix = .ok own) :
      Replacement uri document before (.returned outcome)
        ((before.retire identity).declare config)

section Replacement

variable (quiet : service.IsQuiet)

include quiet

/-- Behind its deletion a replacement goes on like the creation. -/
theorem run_replace_of_decoded {uri : String} {identity : Identity} (config : Config)
    (decoded : Identity.decode uri engine.environment.suffix = .ok identity) :
    let retired : Service τ := { service with store := service.store.retire identity }
    ((engine.replace uri config).run world service).ending =
        ((engine.create config).run world retired).ending ∧
      ((engine.replace uri config).run world service).state =
        ((engine.create config).run world retired).state := by
  intro retired
  have deleting : Yields (engine.delete uri) service () (service.store.retire identity) _ :=
    yields_delete engine quiet decoded
  obtain ⟨_, ended, left⟩ := Run.andThen_of_returned
    (fun _ state => (engine.create config).run world state) deleting.ending
  rw [deleting.state] at ended left
  unfold replace
  rw [Program.run_report_bind, Program.run_bind, Run.ending_after, Run.state_after]
  exact ⟨ended, left⟩

/-- That the new account is missing is noticed behind the deletion. -/
theorem run_replace_of_not_owns {uri : String} {identity : Identity} (config : Config)
    (decoded : Identity.decode uri engine.environment.suffix = .ok identity)
    (foreign : service.store.owns config.group config.account = false) :
    let run := (engine.replace uri config).run world service
    run.ending = .failed (.accountMissing config.account) ∧
      run.state = { service with store := service.store.retire identity } := by
  intro run
  obtain ⟨ended, left⟩ := run_replace_of_decoded engine quiet config decoded
  have quietRetired : IsQuiet { service with store := service.store.retire identity } := quiet
  obtain ⟨missing, untouched⟩ := run_create_of_not_owns engine config quietRetired
    ((service.store.owns_retire ..).trans foreign)
  exact ⟨ended.trans missing, left.trans untouched⟩

theorem run_replaceFrom (uri : String) (document : Document) :
    ∃ store,
      Replacement engine uri document service.store
        ((engine.replaceFrom uri document).run world service).ending store ∧
      ((engine.replaceFrom uri document).run world service).state = { service with store } := by
  cases accepted : Config.ofDocument document with
  | error rejection =>
      rw [engine.replaceFrom_of_error accepted, Program.run_ofLogged_error]
      exact ⟨_, .rejected accepted, rfl⟩
  | ok config =>
      rw [engine.replaceFrom_of_ok accepted]
      cases decoded : Identity.decode uri engine.environment.suffix with
      | error fault =>
          rw [engine.replace_of_error config decoded]
          exact ⟨_, .unread accepted decoded, rfl⟩
      | ok identity =>
          cases owned : service.store.owns config.group config.account with
          | false =>
              obtain ⟨missing, left⟩ := run_replace_of_not_owns engine quiet config decoded owned
              rw [missing, left]
              exact ⟨_, .accountMissing accepted decoded owned, rfl⟩
          | true =>
              have quietRetired : IsQuiet { service with store := service.store.retire identity } :=
                quiet
              obtain ⟨read, settled⟩ := run_create_of_owns engine quietRetired config
                ((service.store.owns_retire ..).trans owned)
              obtain ⟨ended, left⟩ := run_replace_of_decoded engine quiet config decoded
              rw [ended, left, read, settled]
              refine ⟨_, ?_, rfl⟩
              cases own : Identity.decode (engine.identify config) engine.environment.suffix with
              | error fault =>
                  rw [Engine.read, engine.decode_of_error own]
                  exact .unaddressed accepted decoded owned own
              | ok self =>
                  have quietSettled : IsQuiet { service with
                    store := (service.store.retire identity).declare config } := quiet
                  rw [(yields_read_listed engine quietSettled own).ending]
                  exact .replaced _ accepted decoded owned own

end Replacement

/-- A refused replacement leaves everything as it was if the configuration is refused or the id is
malformed, and takes the container under the id away if the new account is missing.  A malformed id
that is found otherwise is that of the new container, which shows only when it is read back. -/
theorem replaceFrom_refused (quiet : service.IsQuiet) (engine : Engine τ) (uri : String)
    (document : Document) :
    let run := (engine.replaceFrom uri document).run world service
    (∀ rejection, run.ending = .failed (.rejected rejection) → run.state = service) ∧
    (∀ fault, Identity.decode uri engine.environment.suffix = .error fault →
      run.state = service ∧ ∀ config, Config.ofDocument document = .ok config →
        run.ending = .failed (.malformed fault)) ∧
    (∀ fault, run.ending = .failed (.malformed fault) →
      Identity.decode uri engine.environment.suffix = .error fault ∨
        ∃ config, Config.ofDocument document = .ok config ∧
          Identity.decode (engine.identify config) engine.environment.suffix = .error fault) ∧
    ∀ account, run.ending = .failed (.accountMissing account) →
      ∃ identity store, Identity.decode uri engine.environment.suffix = .ok identity ∧
        service.store.Loses identity store ∧ run.state = { service with store } := by
  intro run
  obtain ⟨store, replacement, left⟩ := run_replaceFrom engine quiet uri document
  change Replacement engine uri document service.store run.ending store at replacement
  change run.state = { service with store } at left
  rw [left]
  generalize run.ending = ending at replacement
  refine ⟨fun rejection rejected => ?_, fun fault malformed => ?_, fun fault malformed => ?_,
    fun account missing => ?_⟩
  · subst rejected
    cases replacement
    rfl
  · cases replacement with
    | rejected unaccepted =>
        exact ⟨rfl, fun _ accepted => nomatch unaccepted.symm.trans accepted⟩
    | unread _ unread =>
        obtain rfl := Except.error.inj (unread.symm.trans malformed)
        exact ⟨rfl, fun _ _ => rfl⟩
    | accountMissing _ decoded _ => cases decoded.symm.trans malformed
    | unaddressed _ decoded _ _ => cases decoded.symm.trans malformed
    | replaced _ _ decoded _ _ => cases decoded.symm.trans malformed
  · subst malformed
    cases replacement with
    | unread _ unread => exact .inl unread
    | unaddressed accepted _ _ unread => exact .inr ⟨_, accepted, unread⟩
  · subst missing
    cases replacement with
    | accountMissing _ decoded _ =>
        exact ⟨_, _, decoded, service.store.loses_retire _, rfl⟩

/-- Three refused replacements of one container: by no configuration, under no id by a container
that has no id of its own either, and under an account that is missing. -/
theorem replaceFrom_refused_logs :
    let engine : Engine Rat := ⟨Environment.publicCloud, ⟨120, 1, 10⟩, 0⟩
    let logs : Config := ⟨"logs", "rg", "acct", "private", by decide, by decide⟩
    let under (account : String) : Document := .object [("name", .text "logs"),
      ("resource_group_name", .text "rg"), ("storage_account_name", .text account)]
    let stored : Service Rat :=
      { store := (Store.empty.addAccount "acct" "rg").createContainer "acct" "logs", clock := 0 }
    let undeclared := (engine.replaceFrom (engine.identify logs) (.object [])).run world stored
    let unnamed := (engine.replaceFrom "logs" (under "a/b")).run world stored
    let missing := (engine.replaceFrom (engine.identify logs) (under "gone")).run world stored
    stored.IsQuiet ∧
      ((∃ rejection, undeclared.ending = .failed (.rejected rejection)) ∧
        undeclared.state = stored) ∧
      (unnamed.ending = .failed (.malformed (.notAbsolute "logs")) ∧ unnamed.state = stored) ∧
      missing.ending = .failed (.accountMissing "gone") ∧
      ∃ store, stored.store.Loses ⟨"acct", "logs"⟩ store ∧
        missing.state = { stored with store } := by
  intro engine logs under stored undeclared unnamed missing
  let slashed : Config := ⟨"logs", "rg", "a/b", "private", by decide, by decide⟩
  let moved : Config := ⟨"logs", "rg", "gone", "private", by decide, by decide⟩
  have quiet : stored.IsQuiet := fun _ => rfl
  have addressed : Identity.decode (engine.identify logs) engine.environment.suffix =
      .ok ⟨"acct", "logs"⟩ :=
    Identity.decode_encode_config logs (by decide) (by decide) (by decide)
  have malformed : Identity.decode "logs" engine.environment.suffix =
      .error (.notAbsolute "logs") := rfl
  have acceptedSlashed : Config.ofDocument (under "a/b") = .ok slashed := rfl
  have acceptedMoved : Config.ofDocument (under "gone") = .ok moved := rfl
  have foreign : stored.store.owns "rg" "gone" = false := by decide
  have refused : ∃ rejection, undeclared.ending = .failed (.rejected rejection) := ⟨_, rfl⟩
  have absent : missing.ending = .failed (.accountMissing "gone") := by
    simp only [missing]
    rw [engine.replaceFrom_of_ok acceptedMoved]
    exact (run_replace_of_not_owns engine quiet moved addressed foreign).1
  obtain ⟨rejection, rejected⟩ := refused
  obtain ⟨unread, untouched⟩ :=
    (replaceFrom_refused quiet engine "logs" (under "a/b")).2.1 _ malformed
  refine ⟨quiet, ⟨⟨rejection, rejected⟩, ?_⟩, ⟨untouched _ acceptedSlashed, unread⟩, absent, ?_⟩
  · exact (replaceFrom_refused quiet engine (engine.identify logs) (.object [])).1 _ rejected
  · obtain ⟨identity, store, decoded, loses, left⟩ :=
      (replaceFrom_refused quiet engine (engine.identify logs) (under "gone")).2.2.2 _ absent
    cases decoded.symm.trans addressed
    exact ⟨store, loses, left⟩

end Service

namespace Engine

open Service

/-- A container is lost for a new one whose account is missing, and for one that is there but cannot
be read back, for its account makes its id malformed. -/
theorem replace_loses_container :
    let engine : Engine Rat := ⟨Environment.publicCloud, ⟨120, 1, 10⟩, 0⟩
    let logs : Config := ⟨"logs", "rg", "acct", "private", by decide, by decide⟩
    let moved : Config := ⟨"logs", "rg", "gone", "private", by decide, by decide⟩
    let slashed : Config := ⟨"logs", "rg", "a/b", "private", by decide, by decide⟩
    let accounts := (Store.empty.addAccount "acct" "rg").addAccount "a/b" "rg"
    let stored : Service Rat := { store := accounts.createContainer "acct" "logs", clock := 0 }
    let moving := (engine.replace (engine.identify logs) moved).run world stored
    let slashing := (engine.replace (engine.identify logs) slashed).run world stored
    stored.IsQuiet ∧ stored.store.holds "acct" "logs" = true ∧
      (moving.ending = .failed (.accountMissing "gone") ∧
        moving.state.store.container? "acct" "logs" = none) ∧
      slashing.ending = .failed (.malformed
        (.foreignHost "a" "https://a/b.core.windows.net/logs" "core.windows.net")) ∧
      slashing.state.store.container? "acct" "logs" = none ∧
      slashing.state.store.holds "a/b" "logs" = true := by
  intro engine logs moved slashed accounts stored moving slashing
  have quiet : stored.IsQuiet := fun _ => rfl
  have held : stored.store.holds "acct" "logs" = true := by decide
  have addressed : Identity.decode (engine.identify logs) engine.environment.suffix =
      .ok ⟨"acct", "logs"⟩ :=
    Identity.decode_encode_config logs (by decide) (by decide) (by decide)
  let retired : Service Rat := { stored with store := stored.store.retire ⟨"acct", "logs"⟩ }
  have lost : retired.store.container? "acct" "logs" = none := by decide
  refine ⟨quiet, held, ?_, ?_⟩
  · have foreign : stored.store.owns "rg" "gone" = false := by decide
    obtain ⟨missing, left⟩ : moving.ending = _ ∧ moving.state = _ :=
      run_replace_of_not_owns engine quiet moved addressed foreign
    rw [left]
    exact ⟨missing, lost⟩
  · have quietRetired : retired.IsQuiet := quiet
    have owned : retired.store.owns "rg" "a/b" = true := by decide
    obtain ⟨ended, left⟩ : slashing.ending = _ ∧ slashing.state = _ :=
      run_replace_of_decoded engine quiet slashed addressed
    obtain ⟨read, settled⟩ := run_create_of_owns engine quietRetired slashed owned
    have unread : Identity.decode (engine.identify slashed) engine.environment.suffix = _ :=
      Identity.decode_slashed_account
    rw [Engine.read, engine.decode_of_error unread] at read
    rw [ended, left, read, settled]
    refine ⟨rfl, ?_, Store.holds_declare_self _ slashed (Store.knows_of_owns _ _ owned)⟩
    rw [Store.container?_declare, if_neg (by decide)]
    exact lost

end Engine

end Stowage
