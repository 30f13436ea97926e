import Stowage.Proofs.Engine.Reports
import Stowage.Proofs.Identity.RoundTrip
import Stowage.Proofs.Store.Reconciliation

/-! # Dry runs

A dry run takes every decision in the store as it is, and a real run takes each one in the store
that the declarations before it left.  Where no two declarations name one container, the decisions
are the same (`reconcileAll_rehearsed`), because what is done to one container is not seen by the
probe for another.
-/

namespace Stowage.Declaration

open Service

section Decisions

/-- What is reported of a declaration whose change is made, or would be. -/
def decision (dryRun : Bool) (declaration : Declaration Config) : Event :=
  if dryRun then .planned declaration.need declaration.resource.label
  else .performing declaration.need declaration.resource.label

/-- The declarations whose changes were made, by what became of their containers. -/
def changed (declarations : List (Declaration Config)) (outcomes : List (Option Outcome)) :
    List (Declaration Config) :=
  ((declarations.zip outcomes).filter fun entry => entry.2.isSome).map Prod.fst

/-- The declarations that are not met by a store. -/
def unmet (store : Store) (declarations : List (Declaration Config)) : List (Declaration Config) :=
  declarations.filter fun declaration => !decide (declaration.IsMet store)

/-- No two declarations name one container. -/
def AreDistinct (declarations : List (Declaration Config)) : Prop :=
  declarations.Pairwise fun declaration other =>
    ¬declaration.Names other.resource.account other.resource.name

instance (declaration : Declaration Config) (account name : String) :
    Decidable (declaration.Names account name) :=
  inferInstanceAs (Decidable (_ ∧ _))

instance (declarations : List (Declaration Config)) : Decidable (AreDistinct declarations) :=
  inferInstanceAs (Decidable (List.Pairwise _ _))

end Decisions

section Stores

variable {τ : Type} (engine : Engine τ) {declaration other : Declaration Config} {store : Store}
  {declarations : List (Declaration Config)}

theorem isMet_carryOut_iff_of_ne
    (distinct : ¬declaration.Names other.resource.account other.resource.name) :
    other.IsMet (store.carryOut declaration) ↔ other.IsMet store := by
  unfold IsMet
  rw [Store.holds_carryOut_of_ne distinct]

theorem isSome_outcome? :
    (declaration.outcome? engine store).isSome = !decide (declaration.IsMet store) := by
  unfold outcome?
  by_cases met : declaration.IsMet store
  · simp [met]
  · cases declaration.wants <;> simp [met]

/-- What one declaration does is not seen by the others, so the first store decides for all. -/
theorem changed_outcomes (distinct : AreDistinct declarations) :
    changed declarations (outcomes engine store declarations) = unmet store declarations := by
  induction declarations generalizing store with
  | nil => rfl
  | cons declaration rest ih =>
      obtain ⟨apart, distinctRest⟩ := List.pairwise_cons.mp distinct
      have others : unmet (store.carryOut declaration) rest = unmet store rest :=
        List.filter_congr fun other member => by
          simp only [isMet_carryOut_iff_of_ne (apart other member)]
      have later : changed rest (outcomes engine (store.carryOut declaration) rest) =
          unmet store rest := (ih distinctRest).trans others
      simp only [changed, outcomes, unmet, List.zip_cons_cons, List.filter_cons,
        isSome_outcome?] at later ⊢
      split
      · exact congrArg (List.cons declaration) later
      · exact later

end Stores

section Runs

variable {τ : Type} [Timescale τ] {engine : Engine τ} {declaration : Declaration Config}
  {declarations : List (Declaration Config)} {service : Service τ}

theorem action_avoids {Handle : Type} :
    (declaration.action engine : Operation Handle τ Outcome).Avoids Event.isDecision := by
  unfold action
  split
  · exact (Engine.create_avoids engine declaration.resource).bind fun _ => .report rfl .pure
  · exact (Engine.delete_avoids engine _).bind fun _ => .pure

variable (quiet : service.IsQuiet)

include quiet

/-- A declaration that is not met reports one decision, and one that is met reports none. -/
theorem decisions_reconcile (addressed : declaration.IsAddressed engine) (dryRun : Bool) :
    ((declaration.resource.reconcile engine dryRun declaration.strategy).run world
        service).events.filter Event.isDecision =
      if declaration.IsMet service.store then [] else [decision dryRun declaration] := by
  have probing := yields_probing quiet addressed
  have unspoken := (Engine.probe_avoids engine (engine.identify declaration.resource)).events
    world service
  rw [reconcile_eq, Program.run_bind, Run.events_andThen_of_returned _ probing.ending,
    List.filter_append, unspoken, List.nil_append, probing.state]
  by_cases met : declaration.IsMet service.store
  · rw [if_pos met, if_pos (show service.store.holds _ _ = declaration.wants from met)]
    obtain ⟨strategy, config⟩ := declaration
    cases strategy <;> rfl
  · rw [if_neg met, if_neg (show ¬service.store.holds _ _ = declaration.wants from met)]
    cases dryRun with
    | true => rfl
    | false =>
        have acting : (some <$> declaration.action engine :
            Operation String τ (Option Outcome)).Avoids Event.isDecision := action_avoids.map some
        exact congrArg (List.cons _) (acting.events world service)

theorem decisions_reconcileAll_cons {dryRun : Bool} {outcome : Option Outcome}
    {given : List (Option Outcome)} {store after : Store}
    {changes later : List (Gateway.Request String)}
    (addressed : declaration.IsAddressed engine)
    (first : Yields (declaration.resource.reconcile engine dryRun declaration.strategy) service
      outcome store changes)
    (others : Yields (reconcileAll engine dryRun declarations) { service with store } given after
      later) :
    ((reconcileAll engine dryRun (declaration :: declarations)).run world service).events.filter
        Event.isDecision =
      (if declaration.IsMet service.store then [] else [decision dryRun declaration]) ++
        ((reconcileAll engine dryRun declarations).run world
          { service with store }).events.filter Event.isDecision := by
  rw [reconcileAll, Program.run_bind, Run.events_andThen_of_returned _ first.ending,
    List.filter_append, decisions_reconcile quiet addressed, first.state, Program.run_bind,
    Run.events_andThen_of_returned _ others.ending]
  exact congrArg _ (congrArg _ (List.append_nil _))

variable (addressed : ∀ declaration ∈ declarations, declaration.IsAddressed engine)

include addressed

theorem yields_reconcileAll_dry :
    Yields (reconcileAll engine true declarations) service (declarations.map fun _ => none)
      service.store [] := by
  induction declarations with
  | nil => exact .pure
  | cons declaration rest ih =>
      obtain ⟨addressedFirst, addressedRest⟩ := List.forall_mem_cons.mp addressed
      exact (yields_reconcile_dry quiet addressedFirst).bind ((ih addressedRest).bind .pure)

theorem decisions_reconcileAll_dry :
    ((reconcileAll engine true declarations).run world service).events.filter Event.isDecision =
      (unmet service.store declarations).map (decision true) := by
  induction declarations with
  | nil => rfl
  | cons declaration rest ih =>
      obtain ⟨addressedFirst, addressedRest⟩ := List.forall_mem_cons.mp addressed
      rw [decisions_reconcileAll_cons quiet addressedFirst
        (yields_reconcile_dry quiet addressedFirst) (yields_reconcileAll_dry quiet addressedRest)]
      refine (congrArg _ (ih addressedRest)).trans ?_
      unfold unmet
      by_cases met : declaration.IsMet service.store <;> simp [met]

theorem decisions_reconcileAll (feasible : AreFeasible service.store declarations) :
    ((reconcileAll engine false declarations).run world service).events.filter Event.isDecision =
      (changed declarations (outcomes engine service.store declarations)).map (decision false) := by
  induction declarations generalizing service with
  | nil => rfl
  | cons declaration rest ih =>
      obtain ⟨addressedFirst, addressedRest⟩ := List.forall_mem_cons.mp addressed
      obtain ⟨feasibleFirst, feasibleRest⟩ := feasible
      obtain ⟨changes, first⟩ := yields_reconcile quiet addressedFirst feasibleFirst
      have after : IsQuiet { service with store := service.store.carryOut declaration } := quiet
      obtain ⟨later, others⟩ := yields_reconcileAll_of_feasible after addressedRest feasibleRest
      rw [decisions_reconcileAll_cons quiet addressedFirst first others,
        ih after addressedRest feasibleRest]
      simp only [changed, outcomes, List.zip_cons_cons, List.filter_cons, isSome_outcome?]
      by_cases met : declaration.IsMet service.store <;> simp [met]

omit addressed

/-- A dry run of declarations that can be carried out returns, asks for no change and leaves
everything as it is.  It announces those changes that the real run makes, in the same order. -/
theorem reconcileAll_rehearsed (suffix : Identity.IsHostText engine.environment.suffix)
    (account : ∀ declaration ∈ declarations,
      declaration.resource.account ≠ "" ∧ Identity.IsHostText declaration.resource.account)
    (distinct : AreDistinct declarations) {given : List (Option Outcome)}
    (carriedOut : ((reconcileAll engine false declarations).run world service).ending =
      .returned given) :
    let rehearsal := (reconcileAll engine true declarations).run world service
    let real := (reconcileAll engine false declarations).run world service
    rehearsal.ending = .returned (declarations.map fun _ => none) ∧
      rehearsal.state = service ∧
      rehearsal.requests.filter Gateway.Request.changes = [] ∧
      real.events.filter Event.isDecision = (changed declarations given).map (decision false) ∧
      rehearsal.events.filter Event.isDecision =
        (changed declarations given).map (decision true) := by
  intro rehearsal real
  have addressed : ∀ declaration ∈ declarations, declaration.IsAddressed engine := by
    intro declaration member
    obtain ⟨filledAccount, hostAccount⟩ := account declaration member
    exact Identity.decode_encode_config declaration.resource hostAccount filledAccount suffix
  have feasible := areFeasible_of_returned quiet addressed carriedOut
  obtain ⟨changes, carrying⟩ := yields_reconcileAll_of_feasible quiet addressed feasible
  obtain rfl := Ending.returned.inj (carrying.ending.symm.trans carriedOut)
  have rehearsing := yields_reconcileAll_dry quiet addressed
  refine ⟨rehearsing.ending, rehearsing.state, rehearsing.changes,
    decisions_reconcileAll quiet addressed feasible, ?_⟩
  rw [changed_outcomes engine distinct]
  exact decisions_reconcileAll_dry quiet addressed

end Runs

/-- A container that is to be created, one that is there already, and one that is to go. -/
theorem reconcileAll_rehearsed_logs :
    let engine : Engine Rat := ⟨Environment.publicCloud, ⟨120, 1, 10⟩, 0⟩
    let logs : Config := ⟨"logs", "rg", "acct", "private", by decide, by decide⟩
    let kept : Config := ⟨"kept", "rg", "acct", "private", by decide, by decide⟩
    let stale : Config := ⟨"stale", "rg", "acct", "blob", by decide, by decide⟩
    let declarations : List (Declaration Config) :=
      [⟨.present, logs⟩, ⟨.ensure, kept⟩, ⟨.absent, stale⟩]
    let accounts := Store.empty.addAccount "acct" "rg"
    let service : Service Rat :=
      { store := (accounts.createContainer "acct" "kept").createContainer "acct" "stale"
        clock := 0 }
    let rehearsal := (reconcileAll engine true declarations).run world service
    service.IsQuiet ∧ AreDistinct declarations ∧
      (∃ given, ((reconcileAll engine false declarations).run world service).ending =
        .returned given) ∧
      rehearsal.state = service ∧
      rehearsal.events.filter Event.isDecision =
        [.planned .apply logs.label, .planned .remove stale.label] := by
  intro engine logs kept stale declarations accounts service rehearsal
  have quiet : service.IsQuiet := fun queue => rfl
  have distinct : AreDistinct declarations := by decide
  have located : ∀ declaration ∈ declarations,
      declaration.resource.account = "acct" ∧ declaration.resource.group = "rg" := by
    simp [declarations, logs, kept, stale]
  have suffix : Identity.IsHostText engine.environment.suffix := by decide
  have account : ∀ declaration ∈ declarations,
      declaration.resource.account ≠ "" ∧ Identity.IsHostText declaration.resource.account := by
    intro declaration member
    rw [(located declaration member).1]
    decide
  have addressed : ∀ declaration ∈ declarations, declaration.IsAddressed engine :=
    fun declaration member => Identity.decode_encode_config declaration.resource
      (account declaration member).2 (account declaration member).1 suffix
  have feasible : AreFeasible service.store declarations :=
    areFeasible_of_owned fun declaration member _ => by
      rw [(located declaration member).1, (located declaration member).2]
      decide
  obtain ⟨changes, carrying⟩ := yields_reconcileAll_of_feasible quiet addressed feasible
  have rehearsed := reconcileAll_rehearsed quiet suffix account distinct carrying.ending
  refine ⟨quiet, distinct, ⟨_, carrying.ending⟩, rehearsed.2.1, ?_⟩
  rw [rehearsed.2.2.2.2, changed_outcomes engine distinct]
  rfl

end Stowage.Declaration
