import Stowage.Proofs.Store.Declarations
import Stowage.Proofs.Store.Operations
import Stowage.Reconciliation

/-! # Carrying out declarations

Whatever its strategy, a declaration probes its container and makes its change where it is not met
(`reconcile_eq`).  On a service without scripts the store alone decides whether a list of
declarations can be carried out, and what becomes of the containers
(`yields_reconcileAll_of_feasible`).
-/

namespace Stowage.Declaration

open Service

variable {τ : Type} (engine : Engine τ) (declaration : Declaration Config)

/-- The change that a declaration makes where it is not met. -/
def need : Change :=
  if declaration.wants then .apply else .remove

/-- What is reported of a declaration that is met. -/
def spared : Event :=
  match declaration.strategy with
  | .present => .skipped declaration.resource.label .present
  | .ensure => .skipped declaration.resource.label .upToDate
  | .absent => .notPresent declaration.resource.label

/-- The id of the declared container is read back as the container itself. -/
def IsAddressed : Prop :=
  Identity.decode (engine.identify declaration.resource) engine.environment.suffix =
    .ok ⟨declaration.resource.account, declaration.resource.name⟩

/-- A container that is wanted and not there can be created: its account belongs to its group. -/
def IsFeasible (store : Store) : Prop :=
  ¬declaration.IsMet store → declaration.wants = true →
    store.owns declaration.resource.group declaration.resource.account = true

def AreFeasible : Store → List (Declaration Config) → Prop
  | _, [] => True
  | store, declaration :: rest =>
    declaration.IsFeasible store ∧ AreFeasible (store.carryOut declaration) rest

/-- What becomes of the container of a declaration, if it is changed. -/
def outcome? (store : Store) : Option Outcome :=
  if declaration.IsMet store then none
  else if declaration.wants then
    some (((store.declare declaration.resource).listed? declaration.resource.account
      declaration.resource.name).elim .removed fun properties =>
        .managed (engine.identify declaration.resource)
          ⟨declaration.resource.account, declaration.resource.name⟩ properties.project)
  else some .removed

/-- What becomes of the containers of declarations that are carried out in order. -/
def outcomes : Store → List (Declaration Config) → List (Option Outcome)
  | _, [] => []
  | store, declaration :: rest =>
    declaration.outcome? engine store :: outcomes (store.carryOut declaration) rest

theorem areFeasible_of_owned {store : Store} {declarations : List (Declaration Config)}
    (owned : ∀ declaration ∈ declarations, declaration.wants = true →
      store.owns declaration.resource.group declaration.resource.account = true) :
    AreFeasible store declarations := by
  induction declarations generalizing store with
  | nil => trivial
  | cons declaration rest ih =>
      obtain ⟨ownedFirst, ownedRest⟩ := List.forall_mem_cons.mp owned
      refine ⟨fun _ => ownedFirst, ih fun other member wanted => ?_⟩
      rw [store.owns_congr _ _ (store.groups_carryOut declaration)
        (store.accounts_carryOut declaration)]
      exact ownedRest other member wanted

variable [Timescale τ]

section Programs

variable {Handle : Type}

def action : Operation Handle τ Outcome :=
  if declaration.wants then declaration.resource.establish engine
  else declaration.resource.retire engine

theorem reconcile_eq (dryRun : Bool) :
    (declaration.resource.reconcile engine dryRun declaration.strategy :
        Operation Handle τ (Option Outcome)) =
      engine.probe (engine.identify declaration.resource) >>= fun present =>
        if present = declaration.wants then
          Program.report declaration.spared >>= fun _ => pure none
        else
          Strategy.change Program.report dryRun declaration.need declaration.resource.label
            (declaration.action engine) := by
  obtain ⟨strategy, config⟩ := declaration
  simp only [Config.reconcile, Strategy.run, Config.specification]
  -- The probe is generalized because comparing the two sides would otherwise decode its id.
  generalize engine.probe (engine.identify config) = probing
  cases strategy with
  | present => exact bind_congr fun present => by cases present <;> rfl
  | ensure => exact bind_congr fun present => by cases present <;> rfl
  | absent => exact bind_congr fun present => by cases present <;> rfl

end Programs

variable {engine declaration} {service : Service τ} (quiet : service.IsQuiet)

include quiet

section Single

variable (addressed : declaration.IsAddressed engine)

include addressed

theorem yields_probing :
    Yields (engine.probe (engine.identify declaration.resource)) service
      (service.store.holds declaration.resource.account declaration.resource.name)
      service.store [] :=
  yields_probe engine quiet addressed

/-- A declaration that is met changes nothing. -/
theorem yields_reconcile_of_isMet (dryRun : Bool) (met : declaration.IsMet service.store) :
    Yields (declaration.resource.reconcile engine dryRun declaration.strategy) service none
      service.store [] := by
  rw [reconcile_eq]
  refine (yields_probing quiet addressed).bind ?_
  rw [show service.store.holds _ _ = declaration.wants from met, if_pos rfl]
  exact .report .pure

/-- In a dry run nothing is changed, whether the declaration is met or not. -/
theorem yields_reconcile_dry :
    Yields (declaration.resource.reconcile engine true declaration.strategy) service none
      service.store [] := by
  rw [reconcile_eq]
  refine (yields_probing quiet addressed).bind ?_
  split
  · exact .report .pure
  · exact .report .pure

theorem yields_action (unmet : ¬declaration.IsMet service.store)
    (feasible : declaration.IsFeasible service.store) :
    ∃ outcome changes, declaration.outcome? engine service.store = some outcome ∧
      Yields (declaration.action engine) service outcome (service.store.carryOut declaration)
        changes := by
  unfold outcome? action
  rw [if_neg unmet]
  cases wanted : declaration.wants with
  | true =>
      rw [service.store.carryOut_of_wanted declaration unmet wanted]
      have creating := yields_create_listed engine declaration.resource quiet
        (feasible unmet wanted) addressed
      exact ⟨_, _, rfl, creating.bind (.report .pure)⟩
  | false =>
      have held : service.store.holds declaration.resource.account declaration.resource.name =
          true := by
        simpa [IsMet, wanted] using unmet
      have deleting := yields_delete engine quiet addressed
      rw [if_pos (service.store.knows_of_holds _ _ held)] at deleting
      rw [service.store.carryOut_of_unwanted declaration unmet wanted]
      exact ⟨_, _, rfl, deleting.bind .pure⟩

/-- Whatever it finds, a declaration leaves the store that it is to leave. -/
theorem yields_reconcile (feasible : declaration.IsFeasible service.store) :
    ∃ changes,
      Yields (declaration.resource.reconcile engine false declaration.strategy) service
        (declaration.outcome? engine service.store) (service.store.carryOut declaration)
        changes := by
  by_cases met : declaration.IsMet service.store
  · rw [outcome?, if_pos met, service.store.carryOut_of_isMet declaration met]
    exact ⟨[], yields_reconcile_of_isMet quiet addressed false met⟩
  · obtain ⟨outcome, changes, same, acting⟩ := yields_action quiet addressed met feasible
    have making : Yields (Strategy.change Program.report false declaration.need
        declaration.resource.label (declaration.action engine)) service (some outcome)
        (service.store.carryOut declaration) changes := .report (.map some acting)
    rw [same, reconcile_eq]
    refine ⟨[] ++ changes, (yields_probing quiet addressed).bind ?_⟩
    rw [if_neg (show ¬service.store.holds _ _ = declaration.wants from met)]
    exact making

/-- Only a declaration that is feasible is carried out without a failure. -/
theorem isFeasible_of_returned {outcome : Option Outcome}
    (returned : ((declaration.resource.reconcile engine false declaration.strategy).run world
      service).ending = .returned outcome) : declaration.IsFeasible service.store := by
  intro unmet wanted
  cases owned : service.store.owns declaration.resource.group declaration.resource.account with
  | true => rfl
  | false =>
      -- The change would be a creation, which fails for the lack of its account.
      have missing := (run_create_of_not_owns engine declaration.resource quiet owned).1
      have probing := yields_probing quiet addressed
      rw [reconcile_eq] at returned
      obtain ⟨present, probed, returned⟩ := Program.exists_returned_of_bind returned
      obtain rfl := Ending.returned.inj (probing.ending.symm.trans probed)
      rw [probing.state, if_neg (show ¬service.store.holds _ _ = declaration.wants from unmet)]
        at returned
      obtain ⟨_, _, returned⟩ := Program.exists_returned_of_bind returned
      obtain ⟨achieved, acted, _⟩ := Program.exists_returned_of_bind returned
      rw [action, if_pos wanted] at acted
      obtain ⟨created, succeeded, _⟩ := Program.exists_returned_of_bind acted
      cases missing.symm.trans succeeded

end Single

section All

variable {declarations : List (Declaration Config)}
  (addressed : ∀ declaration ∈ declarations, declaration.IsAddressed engine)

include addressed

theorem yields_reconcileAll_of_feasible (feasible : AreFeasible service.store declarations) :
    ∃ changes,
      Yields (reconcileAll engine false declarations) service
        (outcomes engine service.store declarations) (service.store.carryOutAll declarations)
        changes := by
  induction declarations generalizing service with
  | nil => exact ⟨[], .pure⟩
  | cons declaration rest ih =>
      obtain ⟨addressedFirst, addressedRest⟩ := List.forall_mem_cons.mp addressed
      obtain ⟨feasibleFirst, feasibleRest⟩ := feasible
      obtain ⟨changes, first⟩ := yields_reconcile quiet addressedFirst feasibleFirst
      have after : IsQuiet { service with store := service.store.carryOut declaration } := quiet
      obtain ⟨later, others⟩ := ih after addressedRest feasibleRest
      exact ⟨_, first.bind (others.bind .pure)⟩

theorem areFeasible_of_returned {given : List (Option Outcome)}
    (returned : ((reconcileAll engine false declarations).run world service).ending =
      .returned given) : AreFeasible service.store declarations := by
  induction declarations generalizing service given with
  | nil => trivial
  | cons declaration rest ih =>
      obtain ⟨addressedFirst, addressedRest⟩ := List.forall_mem_cons.mp addressed
      obtain ⟨outcome, returnedFirst, returnedRest⟩ := Program.exists_returned_of_bind returned
      have feasibleFirst := isFeasible_of_returned quiet addressedFirst returnedFirst
      obtain ⟨changes, first⟩ := yields_reconcile quiet addressedFirst feasibleFirst
      rw [first.state] at returnedRest
      obtain ⟨others, returnedRest, _⟩ := Program.exists_returned_of_bind returnedRest
      have after : IsQuiet { service with store := service.store.carryOut declaration } := quiet
      exact ⟨feasibleFirst, ih after addressedRest returnedRest⟩

theorem yields_reconcileAll_of_isMet
    (met : ∀ declaration ∈ declarations, declaration.IsMet service.store) :
    Yields (reconcileAll engine false declarations) service (declarations.map fun _ => none)
      service.store [] := by
  induction declarations with
  | nil => exact .pure
  | cons declaration rest ih =>
      obtain ⟨addressedFirst, addressedRest⟩ := List.forall_mem_cons.mp addressed
      obtain ⟨metFirst, metRest⟩ := List.forall_mem_cons.mp met
      have first := yields_reconcile_of_isMet quiet addressedFirst false metFirst
      exact first.bind ((ih addressedRest metRest).bind .pure)

end All

end Stowage.Declaration
