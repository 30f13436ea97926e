import Stowage.Proofs.Identity.RoundTrip
import Stowage.Proofs.Store.Reconciliation

/-! # Convergence

Carrying out declarations on a service without scripts brings its store to where all of them are
met, and carrying them out again asks for no change.
-/

namespace Stowage.Declaration

open Service

variable {τ : Type} (engine : Engine τ) (declaration : Declaration Config)

/-- What becomes of the container of a declaration that is carried out on a store. -/
inductive Accomplishes (store : Store) : Option Outcome → Prop where
  | untouched (met : declaration.IsMet store) : Accomplishes store none
  | applied (unmet : ¬declaration.IsMet store) (wanted : declaration.wants = true)
      (properties : Document.Fields) :
      Accomplishes store (some (.managed (engine.identify declaration.resource)
        ⟨declaration.resource.account, declaration.resource.name⟩ properties))
  | removed (unmet : ¬declaration.IsMet store) (unwanted : declaration.wants = false) :
      Accomplishes store (some .removed)

/-- What becomes of the containers of declarations that are carried out in order. -/
inductive AccomplishAll : Store → List (Declaration Config) → List (Option Outcome) → Prop where
  | nil (store : Store) : AccomplishAll store [] []
  | cons {store : Store} {declaration : Declaration Config} {rest : List (Declaration Config)}
      {outcome : Option Outcome} {outcomes : List (Option Outcome)}
      (first : declaration.Accomplishes engine store outcome)
      (others : AccomplishAll (store.carryOut declaration) rest outcomes) :
      AccomplishAll store (declaration :: rest) (outcome :: outcomes)

/-- Declarations that can be carried out on a store: their containers can be addressed, the accounts
of those that are wanted are known in their groups, and none is both wanted and not. -/
structure AreReconcilable (declarations : List (Declaration Config)) (store : Store) : Prop where
  named : store.IsNamed
  suffix : Identity.IsHostText engine.environment.suffix
  account : ∀ declaration ∈ declarations,
    declaration.resource.account ≠ "" ∧ Identity.IsHostText declaration.resource.account
  owned : ∀ declaration ∈ declarations, declaration.wants = true →
    store.owns declaration.resource.group declaration.resource.account = true
  agreed : ∀ declaration ∈ declarations, ∀ other ∈ declarations,
    declaration.Names other.resource.account other.resource.name → declaration.wants = other.wants

variable {engine} {declaration} {declarations : List (Declaration Config)} {store : Store}

theorem AreReconcilable.isAddressed
    (reconcilable : AreReconcilable engine declarations store) :
    ∀ declaration ∈ declarations, declaration.IsAddressed engine := by
  intro declaration member
  obtain ⟨filledAccount, account⟩ := reconcilable.account declaration member
  exact Identity.decode_encode_config declaration.resource account filledAccount reconcilable.suffix

theorem AreReconcilable.isMet
    (reconcilable : AreReconcilable engine declarations store) :
    ∀ declaration ∈ declarations, declaration.IsMet (store.carryOutAll declarations) := by
  intro declaration member
  refine store.isMet_carryOutAll (fun other otherMember wanted => ?_)
    (fun other otherMember => reconcilable.agreed other otherMember declaration member)
    (.inr member)
  exact store.knows_of_owns _ (reconcilable.owned other otherMember wanted)

theorem accomplishes_outcome? (named : store.IsNamed)
    (owned : declaration.wants = true →
      store.owns declaration.resource.group declaration.resource.account = true) :
    declaration.Accomplishes engine store (declaration.outcome? engine store) := by
  unfold outcome?
  split
  · next met => exact .untouched met
  · next unmet =>
    split
    · next wanted =>
      have known := store.knows_of_owns _ (owned wanted)
      rw [Store.listed?_of_named _ _ (named.declare declaration.resource),
        store.reachable?_declare _ known]
      exact .applied unmet wanted _
    · next unwanted => exact .removed unmet (eq_false_of_ne_true unwanted)

theorem accomplishAll_outcomes (named : store.IsNamed)
    (owned : ∀ declaration ∈ declarations, declaration.wants = true →
      store.owns declaration.resource.group declaration.resource.account = true) :
    AccomplishAll engine store declarations (outcomes engine store declarations) := by
  induction declarations generalizing store with
  | nil => exact .nil store
  | cons declaration rest ih =>
      obtain ⟨ownedFirst, ownedRest⟩ := List.forall_mem_cons.mp owned
      refine .cons (accomplishes_outcome? named ownedFirst)
        (ih (named.carryOut declaration) fun other member wanted => ?_)
      rw [store.owns_congr _ _ (store.groups_carryOut declaration)
        (store.accounts_carryOut declaration)]
      exact ownedRest other member wanted

variable [Timescale τ] {service : Service τ}

theorem yields_reconcileAll (quiet : service.IsQuiet)
    (addressed : ∀ declaration ∈ declarations, declaration.IsAddressed engine)
    (named : service.store.IsNamed)
    (owned : ∀ declaration ∈ declarations, declaration.wants = true →
      service.store.owns declaration.resource.group declaration.resource.account = true) :
    ∃ outcomes changes,
      Yields (reconcileAll engine false declarations) service outcomes
        (service.store.carryOutAll declarations) changes ∧
      AccomplishAll engine service.store declarations outcomes := by
  obtain ⟨changes, carriedOut⟩ :=
    yields_reconcileAll_of_feasible quiet addressed (areFeasible_of_owned owned)
  exact ⟨_, changes, carriedOut, accomplishAll_outcomes named owned⟩

/-- The state to which declarations bring a service. -/
structure AreReconciled (engine : Engine τ) (declarations : List (Declaration Config))
    (before after : Service τ) : Prop where
  present : ∀ declaration ∈ declarations,
    ((engine.probe (engine.identify declaration.resource)).run Service.world after).ending =
      .returned declaration.wants
  groups : after.store.groups = before.store.groups
  accounts : after.store.accounts = before.store.accounts
  container (account name : String)
    (others : ∀ declaration ∈ declarations, ¬declaration.Names account name) :
    after.store.container? account name = before.store.container? account name
  policy (account name : String)
    (others : ∀ declaration ∈ declarations, ¬declaration.Names account name) :
    after.store.policy? account name = before.store.policy? account name

/-- Declarations that do not contradict each other are carried out without a failure, bring the
service to where all of them are met without touching anything else, and change nothing when they
are carried out again. -/
theorem reconcileAll_converges (quiet : service.IsQuiet)
    (reconcilable : AreReconcilable engine declarations service.store) :
    let first := (reconcileAll engine false declarations).run Service.world service
    let second := (reconcileAll engine false declarations).run Service.world first.state
    (∃ outcomes, first.ending = .returned outcomes ∧
      AccomplishAll engine service.store declarations outcomes) ∧
    AreReconciled engine declarations service first.state ∧
    second.ending = .returned (declarations.map fun _ => none) ∧
    second.state = first.state ∧
    second.requests.filter Gateway.Request.changes = [] := by
  intro first second
  have addressed := reconcilable.isAddressed
  obtain ⟨outcomes, changes, carriedOut, accomplished⟩ :=
    yields_reconcileAll quiet addressed reconcilable.named reconcilable.owned
  have settled : first.state = { service with store := service.store.carryOutAll declarations } :=
    carriedOut.state
  have stillQuiet : first.state.IsQuiet := by
    rw [settled]
    exact quiet
  have met : ∀ declaration ∈ declarations, declaration.IsMet first.state.store := by
    rw [settled]
    exact reconcilable.isMet
  -- All declarations are met now, so the second time none of them asks for a change.
  have again := yields_reconcileAll_of_isMet stillQuiet addressed met
  refine ⟨⟨outcomes, carriedOut.ending, accomplished⟩, ?_, again.ending, again.state, again.changes⟩
  refine ⟨fun declaration member => ?_, ?_, ?_, fun account name others => ?_,
    fun account name others => ?_⟩
  · rw [(yields_probe engine stillQuiet (addressed declaration member)).ending]
    exact congrArg _ (met declaration member)
  · rw [settled]
    exact service.store.groups_carryOutAll declarations
  · rw [settled]
    exact service.store.accounts_carryOutAll declarations
  · rw [settled]
    exact service.store.container?_carryOutAll_of_ne others
  · rw [settled]
    exact service.store.policy?_carryOutAll_of_ne others

/-- A container that is declared twice, and one that is to be gone although it is there. -/
theorem reconcileAll_converges_logs :
    let engine : Engine Rat := ⟨Environment.publicCloud, ⟨120, 1, 10⟩, 0⟩
    let logs : Config := ⟨"logs", "rg", "acct", "private", by decide, by decide⟩
    let stale : Config := ⟨"stale", "rg", "acct", "blob", by decide, by decide⟩
    let declarations : List (Declaration Config) :=
      [⟨.present, logs⟩, ⟨.absent, stale⟩, ⟨.ensure, logs⟩]
    let accounts := Store.empty.addAccount "acct" "rg"
    let service : Service Rat := { store := accounts.createContainer "acct" "stale", clock := 0 }
    let first := (reconcileAll engine false declarations).run Service.world service
    service.IsQuiet ∧ AreReconcilable engine declarations service.store ∧
      AreReconciled engine declarations service first.state ∧
      ((reconcileAll engine false declarations).run Service.world first.state).ending =
        .returned [none, none, none] := by
  intro engine logs stale declarations accounts service first
  have quiet : service.IsQuiet := fun queue => rfl
  have listed : ∀ declaration ∈ declarations, declaration = ⟨.present, logs⟩ ∨
      declaration = ⟨.absent, stale⟩ ∨ declaration = ⟨.ensure, logs⟩ := by
    simp [declarations]
  have located : ∀ declaration ∈ declarations,
      declaration.resource.account = "acct" ∧ declaration.resource.group = "rg" := by
    intro declaration member
    rcases listed declaration member with rfl | rfl | rfl <;> exact ⟨rfl, rfl⟩
  have reconcilable : AreReconcilable engine declarations service.store := by
    refine ⟨?_, ?_, ?_, ?_, ?_⟩
    · exact (Store.isNamed_empty.addAccount "acct" "rg").createContainer "acct" "stale"
    · decide
    · intro declaration member
      rw [(located declaration member).1]
      decide
    · intro declaration member _
      rw [(located declaration member).1, (located declaration member).2]
      decide
    · intro declaration member other otherMember named
      rcases listed declaration member with rfl | rfl | rfl <;>
        rcases listed other otherMember with rfl | rfl | rfl <;>
        first
        | rfl
        | exact absurd named.2 (by decide)
  have converged := reconcileAll_converges quiet reconcilable
  exact ⟨quiet, reconcilable, converged.2.1, converged.2.2.1⟩

end Stowage.Declaration
