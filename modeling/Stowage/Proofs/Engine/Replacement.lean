import Stowage.Proofs.Engine.Creation
import Stowage.Store

/-! # Declarations that have to be replaced

A declaration has to be replaced by another exactly when their creations can be told apart from
outside.  Where no field differs the two creations are one program; where one differs, a service
that grants every request receives different requests.
-/

namespace Stowage

theorem AccessType.name_injective {first second : AccessType} (same : first.name = second.name) :
    first = second := by
  cases first <;> cases second <;> simp_all [AccessType.name]

theorem AccessType.header_injective {first second : AccessType}
    (same : first.header = second.header) : first = second := by
  cases first <;> cases second <;> simp_all [AccessType.header, AccessType.name]

namespace Config

/-- A field as it is compared with that of another declaration. -/
def compared (config : Config) : Field → String
  | .name => config.name
  | .group => config.group
  | .account => config.account
  | .access => AccessType.normalized config.accessText

variable (old new : Config)

theorem mem_requiresReplacement {field : Field} :
    field ∈ old.requiresReplacement new ↔ old.compared field ≠ new.compared field := by
  cases field <;> simp [requiresReplacement, compared]

theorem requiresReplacement_eq_nil :
    old.requiresReplacement new = [] ↔ ∀ field, old.compared field = new.compared field := by
  simp [List.eq_nil_iff_forall_not_mem, mem_requiresReplacement]

theorem requiresReplacement_comm : old.requiresReplacement new = new.requiresReplacement old := by
  simp only [requiresReplacement, eq_comm]

/-- What differs between two declarations differs on the way through any third one. -/
theorem requiresReplacement_triangle {field : Field} (between : Config)
    (differs : field ∈ old.requiresReplacement new) :
    field ∈ old.requiresReplacement between ∨ field ∈ between.requiresReplacement new := by
  simp only [mem_requiresReplacement] at *
  by_cases same : old.compared field = between.compared field
  · exact .inr (same ▸ differs)
  · exact .inl same

variable {old new}

theorem access_eq_iff :
    old.access = new.access ↔ old.compared .access = new.compared .access := by
  simp only [compared, ← access_name]
  exact ⟨congrArg AccessType.name, AccessType.name_injective⟩

end Config

namespace Engine

variable {Handle τ σ : Type} [Timescale τ]

section Alike

variable {old new : Config} (alike : ∀ field, old.compared field = new.compared field)
  (engine : Engine τ)

include alike

omit [Timescale τ] in
theorem settle_congr (handle : Handle) : engine.settle old handle = engine.settle new handle := by
  have access : old.access = new.access := Config.access_eq_iff.mpr (alike .access)
  have name : old.name = new.name := alike .name
  have account : old.account = new.account := alike .account
  unfold settle identify
  rw [access, name, account]
  -- The branches agree reply by reply; as wholes they still name different declarations.
  refine congrArg _ (funext fun _ => congrArg _ (funext fun reply => ?_))
  cases reply <;> rfl

theorem createUnder_congr (handle : Handle) :
    engine.createUnder old handle = engine.createUnder new handle := by
  have name : old.name = new.name := alike .name
  have account : old.account = new.account := alike .account
  unfold createUnder
  rw [name, account, settle_congr alike engine]

/-- The creations of declarations that differ in no compared field are one program. -/
theorem create_congr : (engine.create old : Operation Handle τ Outcome) = engine.create new := by
  have creating (handle : Handle) :
      engine.createUnder old handle = engine.createUnder new handle :=
    createUnder_congr alike engine handle
  have account : old.account = new.account := alike .account
  have group : old.group = new.group := alike .group
  unfold create
  rw [account, group]
  refine congrArg _ (funext fun (handle, found) => ?_)
  cases found with
  | false => exact congrArg _ rfl
  | true => exact creating handle

end Alike

/-- A service on which every account belongs to a group and exists under the same handle, every
change succeeds, and every container is found. -/
def granting (handle : Handle) : World (Gateway.interface Handle) τ σ where
  now _ := Timescale.zero
  pause _ state := state
  answer request state :=
    (.ok (match request with
      | .resolveGroup _ => some ""
      | .resolveAccount _ _ => (handle, true)
      | .createIfMissing _ _ => CallResult.ok
      | .setPolicy _ _ _ => CallResult.ok
      | .list _ beginning => Except.ok [Store.newContainer beginning]
      | .probe _ _ => Except.ok true
      | .deleteIfPresent _ _ => CallResult.ok), state)

/-- What a creation asks of a service that grants everything tells all that is compared. -/
theorem requests_create_granting (engine : Engine τ) (config : Config) (handle : Handle)
    (state : σ) :
    ∃ readBack, ((engine.create config).run (granting handle) state).requests =
      .resolveAccount config.group config.account :: .createIfMissing handle config.name ::
        .setPolicy handle config.name config.access.header :: readBack := by
  obtain ⟨environment, schedule, limit⟩ := engine
  cases limit <;> exact ⟨_, rfl⟩

/-- No field of two declarations differs if and only if no service can tell their creations apart.
The fields that differ are the same in both directions, and what differs between two declarations
differs on the way through a third one. -/
theorem requiresReplacement_eq_nil_iff_indistinguishable (old new : Config) :
    (old.requiresReplacement new = [] ↔
      ∀ {Handle σ : Type} (engine : Engine τ) (world : World (Gateway.interface Handle) τ σ)
        (state : σ),
        ((engine.create old).run world state).requests =
            ((engine.create new).run world state).requests ∧
          ((engine.create old).run world state).ending =
            ((engine.create new).run world state).ending) ∧
    old.requiresReplacement new = new.requiresReplacement old ∧
    ∀ between : Config, ∀ field ∈ old.requiresReplacement new,
      field ∈ old.requiresReplacement between ∨ field ∈ between.requiresReplacement new := by
  refine ⟨?_, old.requiresReplacement_comm new,
    fun between field differs => old.requiresReplacement_triangle new between differs⟩
  rw [Config.requiresReplacement_eq_nil]
  constructor
  · intro alike Handle σ engine world state
    rw [create_congr alike engine]
    exact ⟨rfl, rfl⟩
  · intro indistinguishable
    let engine : Engine τ := ⟨.publicCloud, ⟨Timescale.zero, Timescale.zero, Timescale.zero⟩, 0⟩
    obtain ⟨sent, _⟩ := indistinguishable engine (granting ()) ()
    obtain ⟨oldReadBack, oldRequests⟩ := requests_create_granting engine old () ()
    obtain ⟨newReadBack, newRequests⟩ := requests_create_granting engine new () ()
    rw [oldRequests, newRequests] at sent
    obtain ⟨resolved, sent⟩ := List.cons.inj sent
    obtain ⟨created, sent⟩ := List.cons.inj sent
    obtain ⟨published, _⟩ := List.cons.inj sent
    obtain ⟨group, account⟩ := Gateway.Request.resolveAccount.inj resolved
    obtain ⟨_, name⟩ := Gateway.Request.createIfMissing.inj created
    obtain ⟨_, _, header⟩ := Gateway.Request.setPolicy.inj published
    intro field
    cases field with
    | name => exact name
    | group => exact group
    | account => exact account
    | access => exact Config.access_eq_iff.mp (AccessType.header_injective header)

end Engine

end Stowage
