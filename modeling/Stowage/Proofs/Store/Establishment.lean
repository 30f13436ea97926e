import Stowage.Proofs.Engine.Replacement
import Stowage.Proofs.Engine.Waiting
import Stowage.Proofs.Identity.RoundTrip
import Stowage.Proofs.Store.Operations

/-! # Creations on a store

Where nothing is scripted, a creation brings about the state that is declared without touching
anything else, and to create the container once more changes nothing.
-/

namespace Stowage

/-- The store after a declaration has been met, seen from the store before: the container is there
with its former properties or new, and has the policy that is declared; all others are the same. -/
structure Store.Establishes (config : Config) (properties : Properties) (before after : Store) :
    Prop where
  stored : after.container? config.account config.name = some properties
  kept : ∀ former, before.container? config.account config.name = some former → properties = former
  fresh : before.container? config.account config.name = none →
    properties = newContainer config.name
  policy : after.policy? config.account config.name = some config.access.header
  containers (account name : String) (other : ¬(account = config.account ∧ name = config.name)) :
    after.container? account name = before.container? account name
  policies (account name : String) (other : ¬(account = config.account ∧ name = config.name)) :
    after.policy? account name = before.policy? account name
  groups : after.groups = before.groups
  accounts : after.accounts = before.accounts

theorem Store.establishes_declare (store : Store) (config : Config) :
    Establishes config
      ((store.container? config.account config.name).getD (newContainer config.name)) store
      (store.declare config) where
  stored := by rw [container?_declare, if_pos ⟨rfl, rfl⟩]
  kept former found := by rw [found, Option.getD_some]
  fresh missing := by rw [missing, Option.getD_none]
  policy := by rw [policy?_declare, if_pos ⟨rfl, rfl⟩]
  containers account name other := by rw [container?_declare, if_neg other]
  policies account name other := by rw [policy?_declare, if_neg other]
  groups := store.groups_declare config
  accounts := store.accounts_declare config

namespace Service

open Engine

variable {τ : Type} [Timescale τ] {service : Service τ} (engine : Engine τ) {config : Config}

/-- No wait is needed where the account is there, for the service never asks to try again. -/
theorem pauses_create (quiet : service.IsQuiet)
    (owned : service.store.owns config.group config.account = true) :
    ((engine.create config).run world service).pauses = [] := by
  obtain ⟨located, tried, replied⟩ := answers_create config quiet owned
  rw [pauses_create_of_kept engine config replied nofun located tried]
  exact (read_isPrompt engine (engine.identify config)).pauses world _

/-- A creation returns the container as it is now stored, under its own id, and leaves the store as
declared.  Creating it again, by any declaration that asks for no replacement, ends alike and
changes nothing. -/
theorem createFrom_establishes (quiet : service.IsQuiet) (named : service.store.IsNamed)
    {document : Document} (accepted : Config.ofDocument document = .ok config)
    (owned : service.store.owns config.group config.account = true)
    (filledAccount : config.account ≠ "") (hostAccount : Identity.IsHostText config.account)
    (hostSuffix : Identity.IsHostText engine.environment.suffix) :
    let first := (engine.createFrom document).run world service
    ∃ properties, Store.Establishes config properties service.store first.state.store ∧
      first.ending = .returned (.managed (engine.identify config)
        ⟨config.account, config.name⟩ properties.project) ∧
      first.pauses = [] ∧
      ∀ again other, Config.ofDocument again = .ok other → config.requiresReplacement other = [] →
        let second := (engine.createFrom again).run world first.state
        second.ending = first.ending ∧ second.state = first.state := by
  intro first
  have decoded := Identity.decode_encode_config config hostAccount filledAccount hostSuffix
  have creating : first = (engine.create config).run world service := by
    rw [← engine.createFrom_of_ok accepted]
  have created := yields_create engine config quiet owned decoded named
  have settled : first.state = { service with store := service.store.declare config } :=
    (congrArg Run.state creating).trans created.state
  have ended := (congrArg Run.ending creating).trans created.ending
  refine ⟨_, ?_, ended, ?_, fun again other acceptedAgain alike => ?_⟩
  · rw [settled]
    exact service.store.establishes_declare config
  · rw [creating]
    exact pauses_create engine quiet owned
  · intro second
    have same : (engine.createFrom again : Operation String τ Outcome) = engine.create config := by
      rw [engine.createFrom_of_ok acceptedAgain]
      exact (create_congr ((config.requiresReplacement_eq_nil other).mp alike) engine).symm
    -- The second creation finds the store as the first one declared it.
    have quietSettled : IsQuiet { service with store := service.store.declare config } := quiet
    have ownedSettled := (service.store.owns_congr config.account config.group
      (service.store.groups_declare config) (service.store.accounts_declare config)).trans owned
    have repeated := yields_create engine config quietSettled ownedSettled decoded
      (named.declare config)
    have stored := (service.store.establishes_declare config).stored
    dsimp only at repeated
    rw [stored, Option.getD_some, Store.declare_declare] at repeated
    have secondRun : second = (engine.create config).run world
        { service with store := service.store.declare config } := by
      rw [← settled, ← same]
    rw [secondRun, ended, settled]
    exact ⟨repeated.ending, repeated.state⟩

/-- A container that is declared beside a sibling, and again with its access type in other letters. -/
theorem createFrom_establishes_beside :
    let engine : Engine Rat := ⟨Environment.publicCloud, ⟨120, 1, 10⟩, 0⟩
    let declared (access : String) : Document := .object [("name", .text "logs"),
      ("resource_group_name", .text "rg"), ("storage_account_name", .text "acct"),
      ("container_access_type", .text access)]
    let logs : Config := ⟨"logs", "rg", "acct", "blob", by decide, by decide⟩
    let accounts := Store.empty.addAccount "acct" "rg"
    let service : Service Rat := { store := accounts.createContainer "acct" "logs-2", clock := 0 }
    let first := (engine.createFrom (declared "blob")).run world service
    let second := (engine.createFrom (declared "Blob")).run world first.state
    service.IsQuiet ∧ service.store.IsNamed ∧ Config.ofDocument (declared "blob") = .ok logs ∧
      service.store.owns "rg" "acct" = true ∧
      first.state.store.policy? "acct" "logs" = some "blob" ∧
      (first.state.store.container? "acct" "logs-2").isSome = true ∧
      second.ending = first.ending ∧ second.state = first.state := by
  intro engine declared logs accounts service first second
  let other : Config := ⟨"logs", "rg", "acct", "Blob", by decide, by decide⟩
  have quiet : service.IsQuiet := fun _ => rfl
  have named : service.store.IsNamed :=
    (Store.isNamed_empty.addAccount "acct" "rg").createContainer "acct" "logs-2"
  obtain ⟨properties, established, _, _, again⟩ :=
    createFrom_establishes engine quiet named (show Config.ofDocument (declared "blob") = .ok logs
      from rfl) rfl (by decide) (by decide) (by decide)
  have header : logs.access.header = "blob" := by decide
  have sibling := established.containers "acct" "logs-2" (by decide)
  refine ⟨quiet, named, rfl, rfl, established.policy.trans (congrArg some header), ?_,
    again (declared "Blob") other rfl (by decide)⟩
  rw [show first.state.store.container? "acct" "logs-2" = _ from sibling]
  rfl

end Service

end Stowage
