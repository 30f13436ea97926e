import Stowage.Proofs.Engine.Replacement
import Stowage.Proofs.Grouping
import Stowage.Proofs.Identity.RoundTrip
import Stowage.Proofs.Store.Concurrency
import Stowage.Proofs.Store.Reconciliation

/-! # Declarations in another order

Declarations of one container that ask for the same leave the same of any store, and declarations of
different containers do not see each other.  So two neighbours may change places
(`Store.holdsSame_carryOut_comm`), and from there all orders lead to the same
(`Declaration.reconcileAll_permuted`), also the one in which a file is carried out.
-/

namespace Stowage

namespace Declaration

/-- The declarations ask for the same: that a container is gone, or that it is there, without a
difference for which it would have to be replaced. -/
def Agrees (declaration other : Declaration Config) : Prop :=
  declaration.wants = other.wants ∧
    (declaration.wants = true → declaration.resource.requiresReplacement other.resource = [])

/-- Declarations that can be carried out in any order: their containers can be addressed, the
accounts of those that are wanted are known in their groups, and those that name one container ask
for the same. -/
structure AreCompatible {τ : Type} (engine : Engine τ) (declarations : List (Declaration Config))
    (store : Store) : Prop where
  suffix : Identity.IsHostText engine.environment.suffix
  account : ∀ declaration ∈ declarations,
    declaration.resource.account ≠ "" ∧ Identity.IsHostText declaration.resource.account
  owned : ∀ declaration ∈ declarations, declaration.wants = true →
    store.owns declaration.resource.group declaration.resource.account = true
  agreed : ∀ declaration ∈ declarations, ∀ other ∈ declarations,
    declaration.Names other.resource.account other.resource.name → declaration.Agrees other

end Declaration

namespace Store

variable {first second third store later : Store} {identity : Identity}
  {declaration other : Declaration Config} {declarations permuted : List (Declaration Config)}

namespace HoldsSame

theorem refl : store.HoldsSame store :=
  ⟨rfl, rfl, fun _ _ => rfl, fun _ _ => rfl⟩

theorem trans (earlier : first.HoldsSame second) (further : second.HoldsSame third) :
    first.HoldsSame third :=
  ⟨earlier.groups.trans further.groups, earlier.accounts.trans further.accounts,
    fun account name => (earlier.container account name).trans (further.container account name),
    fun account name => (earlier.policy account name).trans (further.policy account name)⟩

theorem of_sameAt (groups : later.groups = store.groups) (accounts : later.accounts = store.accounts)
    (same : ∀ identity, SameAt identity store later) : later.HoldsSame store :=
  ⟨groups, accounts, fun account name => (same ⟨account, name⟩).1,
    fun account name => (same ⟨account, name⟩).2⟩

theorem sameAt (same : later.HoldsSame store) : SameAt identity store later :=
  ⟨same.container _ _, same.policy _ _⟩

end HoldsSame

theorem sameAt_carryOut_of_ne (apart : ¬declaration.Names identity.account identity.container) :
    SameAt identity store (store.carryOut declaration) :=
  ⟨container?_carryOut_of_ne apart, policy?_carryOut_of_ne apart⟩

theorem SameAt.declare {config : Config} (same : SameAt identity store later) :
    SameAt identity (store.declare config) (later.declare config) := by
  by_cases named : identity.account = config.account ∧ identity.container = config.name
  · simp only [SameAt, container?_declare, policy?_declare, if_pos named, and_true]
    rw [← named.1, ← named.2, same.1]
  · simpa only [SameAt, container?_declare, policy?_declare, if_neg named] using same

/-- What is done to a container depends on this container and on the accounts alone. -/
theorem SameAt.carryOut (same : SameAt identity store later) (declaration : Declaration Config)
    (groups : later.groups = store.groups) (accounts : later.accounts = store.accounts) :
    SameAt identity (store.carryOut declaration) (later.carryOut declaration) := by
  by_cases named : declaration.Names identity.account identity.container
  · obtain ⟨account, container⟩ := identity
    obtain ⟨rfl, rfl⟩ := named
    have held : later.holds declaration.resource.account declaration.resource.name =
        store.holds declaration.resource.account declaration.resource.name := by
      simp only [holds, reachable?, store.knows_congr _ groups accounts, same.1]
    by_cases met : declaration.IsMet store
    · have metLater : declaration.IsMet later := held.trans met
      rwa [store.carryOut_of_isMet declaration met, later.carryOut_of_isMet declaration metLater]
    · have unmetLater : ¬declaration.IsMet later := fun metLater => met (held.symm.trans metLater)
      cases wanted : declaration.wants with
      | true =>
          rw [store.carryOut_of_wanted declaration met wanted,
            later.carryOut_of_wanted declaration unmetLater wanted]
          exact same.declare
      | false =>
          rw [store.carryOut_of_unwanted declaration met wanted,
            later.carryOut_of_unwanted declaration unmetLater wanted]
          exact same.dropContainer
  · exact (sameAt_carryOut_of_ne named).symm.trans (same.trans (sameAt_carryOut_of_ne named))

theorem HoldsSame.carryOut (same : later.HoldsSame store) :
    (later.carryOut declaration).HoldsSame (store.carryOut declaration) := by
  refine .of_sameAt ?_ ?_ fun _ => same.sameAt.carryOut _ same.groups same.accounts
  · rw [groups_carryOut, groups_carryOut, same.groups]
  · rw [accounts_carryOut, accounts_carryOut, same.accounts]

theorem HoldsSame.carryOutAll (same : later.HoldsSame store) :
    (later.carryOutAll declarations).HoldsSame (store.carryOutAll declarations) := by
  induction declarations generalizing later store with
  | nil => exact same
  | cons declaration rest ih => exact ih same.carryOut

/-- Of declarations of one container that ask for the same, each leaves what the other leaves. -/
theorem carryOut_congr (named : declaration.Names other.resource.account other.resource.name)
    (agrees : declaration.Agrees other) : store.carryOut declaration = store.carryOut other := by
  obtain ⟨wants, alike⟩ := agrees
  obtain ⟨account, name⟩ := named
  have metIff : other.IsMet store ↔ declaration.IsMet store := by
    unfold Declaration.IsMet
    rw [account, name, wants]
  by_cases met : declaration.IsMet store
  · rw [store.carryOut_of_isMet declaration met, store.carryOut_of_isMet other (metIff.mpr met)]
  have unmet : ¬other.IsMet store := mt metIff.mp met
  cases wanted : declaration.wants with
  | true =>
      have fields := (Config.requiresReplacement_eq_nil _ _).mp (alike wanted)
      have access : declaration.resource.access = other.resource.access :=
        Config.access_eq_iff.mpr (fields .access)
      rw [store.carryOut_of_wanted declaration met wanted,
        store.carryOut_of_wanted other unmet (wants.symm.trans wanted), declare, declare, account,
        name, access]
  | false =>
      rw [store.carryOut_of_unwanted declaration met wanted,
        store.carryOut_of_unwanted other unmet (wants.symm.trans wanted), account, name]

/-- Two declarations may change places. -/
theorem holdsSame_carryOut_comm
    (agreed : declaration.Names other.resource.account other.resource.name →
      declaration.Agrees other) :
    ((store.carryOut declaration).carryOut other).HoldsSame
      ((store.carryOut other).carryOut declaration) := by
  refine .of_sameAt ?_ ?_ fun identity => ?_
  · simp only [groups_carryOut]
  · simp only [accounts_carryOut]
  by_cases named : declaration.Names other.resource.account other.resource.name
  · have same (store : Store) : store.carryOut declaration = store.carryOut other :=
      carryOut_congr named (agreed named)
    rw [same, same]
    exact .refl
  -- Only one of the two can name the container; the other one does nothing to it.
  by_cases own : declaration.Names identity.account identity.container
  · have apart : ¬other.Names identity.account identity.container := fun both =>
      named ⟨both.1.symm.trans own.1, both.2.symm.trans own.2⟩
    have after : SameAt identity (store.carryOut declaration)
        ((store.carryOut other).carryOut declaration) :=
      (sameAt_carryOut_of_ne apart).carryOut _ (groups_carryOut ..) (accounts_carryOut ..)
    exact after.symm.trans (sameAt_carryOut_of_ne apart)
  · have after : SameAt identity (store.carryOut other)
        ((store.carryOut declaration).carryOut other) :=
      (sameAt_carryOut_of_ne own).carryOut _ (groups_carryOut ..) (accounts_carryOut ..)
    exact (sameAt_carryOut_of_ne own).symm.trans after

theorem holdsSame_carryOutAll_of_perm (permutation : permuted.Perm declarations)
    (agreed : ∀ declaration ∈ declarations, ∀ other ∈ declarations,
      declaration.Names other.resource.account other.resource.name → declaration.Agrees other) :
    (store.carryOutAll permuted).HoldsSame (store.carryOutAll declarations) := by
  induction permutation generalizing store with
  | nil => exact .refl
  | cons declaration _ ih =>
      exact ih fun earlier member other otherMember =>
        agreed earlier (List.mem_cons_of_mem _ member) other (List.mem_cons_of_mem _ otherMember)
  | swap first second rest =>
      have swapped : ((store.carryOut second).carryOut first).HoldsSame
          ((store.carryOut first).carryOut second) :=
        holdsSame_carryOut_comm
          (agreed second (List.mem_cons_of_mem _ List.mem_cons_self) first List.mem_cons_self)
      exact swapped.carryOutAll
  | trans _ further ihEarlier ihFurther =>
      refine (ihEarlier fun declaration member other otherMember => ?_).trans (ihFurther agreed)
      exact agreed declaration (further.mem_iff.mp member) other (further.mem_iff.mp otherMember)

end Store

namespace Declaration

open Service

section Runs

variable {τ : Type} [Timescale τ] {engine : Engine τ} {service : Service τ}
  {declarations permuted : List (Declaration Config)}

omit [Timescale τ] in
theorem AreCompatible.of_perm {store : Store} (permutation : permuted.Perm declarations)
    (compatible : AreCompatible engine declarations store) :
    AreCompatible engine permuted store where
  suffix := compatible.suffix
  account declaration member := compatible.account declaration (permutation.mem_iff.mp member)
  owned declaration member := compatible.owned declaration (permutation.mem_iff.mp member)
  agreed declaration member other otherMember := compatible.agreed declaration
    (permutation.mem_iff.mp member) other (permutation.mem_iff.mp otherMember)

theorem yields_reconcileAll_of_compatible (quiet : service.IsQuiet)
    (compatible : AreCompatible engine declarations service.store) :
    ∃ changes, Yields (reconcileAll engine false declarations) service
      (outcomes engine service.store declarations) (service.store.carryOutAll declarations)
      changes := by
  refine yields_reconcileAll_of_feasible quiet (fun declaration member => ?_)
    (areFeasible_of_owned compatible.owned)
  obtain ⟨filledAccount, hostAccount⟩ := compatible.account declaration member
  exact Identity.decode_encode_config declaration.resource hostAccount filledAccount
    compatible.suffix

/-- Carrying out the declarations in another order does not fail and leads to the same. -/
structure EndsAlike (engine : Engine τ) (service : Service τ)
    (declarations permuted : List (Declaration Config)) : Prop where
  returned : ∃ outcomes,
    ((reconcileAll engine false permuted).run world service).ending = .returned outcomes
  holdsSame : ((reconcileAll engine false permuted).run world service).state.store.HoldsSame
    ((reconcileAll engine false declarations).run world service).state.store

theorem endsAlike_of_perm (quiet : service.IsQuiet)
    (compatible : AreCompatible engine declarations service.store)
    (permutation : permuted.Perm declarations) :
    EndsAlike engine service declarations permuted := by
  obtain ⟨_, first⟩ := yields_reconcileAll_of_compatible quiet compatible
  obtain ⟨_, second⟩ := yields_reconcileAll_of_compatible quiet (compatible.of_perm permutation)
  refine ⟨⟨_, second.ending⟩, ?_⟩
  rw [first.state, second.state]
  exact Store.holdsSame_carryOutAll_of_perm permutation compatible.agreed

/-- Declarations that do not conflict lead to the same in every order, without a failure.  The order
in which those of a file are carried out is one of them: whatever the order of its blocks, a file
that lists them by strategy is read as their declarations, regrouped. -/
theorem reconcileAll_permuted (quiet : service.IsQuiet)
    (compatible : AreCompatible engine declarations service.store) :
    (∀ permuted : List (Declaration Config), permuted.Perm declarations →
      EndsAlike engine service declarations permuted) ∧
    ∀ (kinds : List (Kind Config)) (surroundings : Surroundings) (file : Document.Fields)
      (blocks : List (Strategy × Document)), HoldsBlocks file blocks →
      (inOrder kinds surroundings blocks).result = .ok declarations →
      (ofDocument kinds surroundings (.object file)).result = .ok (grouped declarations) ∧
        EndsAlike engine service declarations (grouped declarations) := by
  refine ⟨fun _ => endsAlike_of_perm quiet compatible, ?_⟩
  intro kinds surroundings file blocks held read
  exact ⟨ofDocument_of_holdsBlocks held read,
    endsAlike_of_perm quiet compatible (perm_grouped declarations)⟩

end Runs

/-- A file that removes one container and then declares another one twice, the second time in
other letters. -/
theorem reconcileAll_permuted_logs :
    let engine : Engine Rat := ⟨Environment.publicCloud, ⟨120, 1, 10⟩, 0⟩
    let logs : Config := ⟨"logs", "rg", "acct", "private", by decide, by decide⟩
    let loud : Config := ⟨"logs", "rg", "acct", "PRIVATE", by decide, by decide⟩
    let stale : Config := ⟨"stale", "rg", "acct", "blob", by decide, by decide⟩
    let declarations : List (Declaration Config) :=
      [⟨.absent, stale⟩, ⟨.ensure, loud⟩, ⟨.present, logs⟩]
    let regrouped : List (Declaration Config) :=
      [⟨.present, logs⟩, ⟨.ensure, loud⟩, ⟨.absent, stale⟩]
    let accounts := Store.empty.addAccount "acct" "rg"
    let service : Service Rat := { store := accounts.createContainer "acct" "stale", clock := 0 }
    let body (config : Config) : Document := .object [("storage_container", .object
      [("name", .text config.name), ("resource_group_name", .text config.group),
        ("storage_account_name", .text config.account),
        ("container_access_type", .text config.accessText)])]
    let blocks : List (Strategy × Document) :=
      [(.absent, body stale), (.ensure, body loud), (.present, body logs)]
    let file : Document.Fields :=
      [("absent", .list [body stale]), ("ensure", .list [body loud]), ("present", .list [body logs])]
    service.IsQuiet ∧ AreCompatible engine declarations service.store ∧ HoldsBlocks file blocks ∧
      (inOrder [containerKind id] {} blocks).result = .ok declarations ∧
      (ofDocument [containerKind id] {} (.object file)).result = .ok regrouped ∧
      EndsAlike engine service declarations regrouped := by
  intro engine logs loud stale declarations regrouped accounts service body blocks file
  have quiet : service.IsQuiet := fun queue => rfl
  have listed : ∀ declaration ∈ declarations, declaration = ⟨.absent, stale⟩ ∨
      declaration = ⟨.ensure, loud⟩ ∨ declaration = ⟨.present, logs⟩ := by
    simp [declarations]
  have compatible : AreCompatible engine declarations service.store := by
    refine ⟨by decide, fun declaration member => ?_, fun declaration member _ => ?_, ?_⟩
    · rcases listed declaration member with rfl | rfl | rfl <;> decide
    · rcases listed declaration member with rfl | rfl | rfl <;> decide
    · intro declaration member other otherMember named
      rcases listed declaration member with rfl | rfl | rfl <;>
        rcases listed other otherMember with rfl | rfl | rfl <;>
        first
        | exact absurd named.2 (by decide)
        | exact ⟨by decide, by decide⟩
  have held : HoldsBlocks file blocks := fun strategy => by cases strategy <;> rfl
  have read : (inOrder [containerKind id] {} blocks).result = .ok declarations := by
    simp only [blocks, body, declarations, stale, loud, logs]
    with_unfolding_all rfl
  have permuted := (reconcileAll_permuted quiet compatible).2 _ _ file blocks held read
  have same : grouped declarations = regrouped := rfl
  rw [same] at permuted
  exact ⟨quiet, compatible, held, read, permuted⟩

end Declaration

end Stowage
