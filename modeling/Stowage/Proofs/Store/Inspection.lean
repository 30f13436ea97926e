import Stowage.Proofs.Engine.Queries
import Stowage.Proofs.Identity.RoundTrip
import Stowage.Proofs.Store.Operations

/-! # Reading, probing and adopting agree

On a service without scripts a container is read as managed, found by a probe and adopted under the
same condition: its account is known, a group owns the account, and the container is stored under
its exact name.  None of the three operations changes the service.
-/

namespace Stowage

namespace Service

variable {τ : Type} [Timescale τ] (engine : Engine τ) {service : Service τ} {uri : String}

section Malformed

variable {fault : Identity.Malformed}
  (malformed : Identity.decode uri engine.environment.suffix = .error fault)

include malformed

theorem run_read_of_error :
    (engine.read uri).run world service = ⟨[], .failed (.malformed fault), service⟩ := by
  rw [Engine.read, Engine.decode_of_error engine malformed]
  rfl

theorem run_probe_of_error :
    (engine.probe uri).run world service = ⟨[], .failed (.malformed fault), service⟩ := by
  rw [Engine.probe, Engine.decode_of_error engine malformed]
  rfl

theorem run_adopt_of_error :
    (engine.adopt uri).run world service = ⟨[], .failed (.malformed fault), service⟩ := by
  rw [Engine.adopt, Program.run_bind, run_read_of_error engine malformed]
  rfl

end Malformed

/-- What is read as managed is adopted as it was read, and what is read as gone is not found. -/
theorem run_adopt {outcome : Outcome}
    (reading : Yields (engine.read uri) service outcome service.store []) :
    let adopting := (engine.adopt uri).run world service
    adopting.state = service ∧
      adopting.ending =
        if outcome.isManaged then .returned outcome else .failed (.notFound uri) := by
  intro adopting
  have continued (next : Outcome → Service τ → Run _ τ (Service τ) (Failure τ) Outcome) :=
    Run.andThen_of_returned next reading.ending
  unfold adopting Engine.adopt
  rw [Program.run_bind, (continued _).2.1, (continued _).2.2, reading.state]
  cases outcome with
  | managed uri identity properties => exact ⟨rfl, rfl⟩
  | removed => exact ⟨rfl, rfl⟩

/-- Either none of the three operations can read the id, or reading and probing return and tell, as
adopting does, whether the account is there and holds the container.  The service stays as it is. -/
theorem read_probe_adopt_agree (quiet : service.IsQuiet) (named : service.store.IsNamed)
    (uri : String) :
    let reading := (engine.read uri).run world service
    let probing := (engine.probe uri).run world service
    let adopting := (engine.adopt uri).run world service
    (match Identity.decode uri engine.environment.suffix with
      | .error fault =>
        reading.ending = .failed (.malformed fault) ∧
          probing.ending = .failed (.malformed fault) ∧
          adopting.ending = .failed (.malformed fault)
      | .ok ⟨account, container⟩ =>
        ∃ outcome present, reading.ending = .returned outcome ∧ probing.ending = .returned present ∧
          (present = true ↔ outcome.isManaged = true) ∧
          (present = true ↔ adopting.ending = .returned outcome) ∧
          (present = false ↔ adopting.ending = .failed (.notFound uri)) ∧
          (present = true ↔
            (∃ group, service.store.groups.get? account = some group) ∧
              service.store.accounts.contains account = true ∧
              ∃ properties, service.store.container? account container = some properties)) ∧
    reading.state = service ∧ probing.state = service ∧ adopting.state = service := by
  intro reading probing adopting
  cases decoded : Identity.decode uri engine.environment.suffix with
  | error fault =>
      have read : reading = _ := run_read_of_error engine decoded
      have probed : probing = _ := run_probe_of_error engine decoded
      have adopted : adopting = _ := run_adopt_of_error engine decoded
      rw [read, probed, adopted]
      exact ⟨⟨rfl, rfl, rfl⟩, rfl, rfl, rfl⟩
  | ok identity =>
      obtain ⟨account, container⟩ := identity
      have read := yields_read engine quiet decoded named
      have probed := yields_probe engine quiet decoded
      obtain ⟨adoptedState, adopted⟩ := run_adopt engine read
      refine ⟨⟨_, _, read.ending, probed.ending, ?_⟩, read.state, probed.state, adoptedState⟩
      rw [show adopting.ending = _ from adopted, ← service.store.holds_iff, Store.holds]
      cases service.store.reachable? account container with
      | none => simp [Outcome.isManaged]
      | some properties => simp [Outcome.isManaged]

/-- An account that holds a sibling of the container, whose name only begins like it. -/
theorem read_probe_adopt_agree_sibling :
    let engine : Engine Rat := ⟨Environment.publicCloud, ⟨120, 1, 10⟩, 0⟩
    let accounts := Store.empty.addAccount "acct" "rg"
    let service : Service Rat := { store := accounts.createContainer "acct" "logs-2", clock := 0 }
    let absent := Identity.encode "acct" "logs" "core.windows.net"
    let sibling := Identity.encode "acct" "logs-2" "core.windows.net"
    service.IsQuiet ∧ service.store.IsNamed ∧
      ((engine.adopt absent).run world service).ending = .failed (.notFound absent) ∧
      ((engine.probe sibling).run world service).ending = .returned true := by
  intro engine accounts service absent sibling
  have quiet : service.IsQuiet := fun queue => rfl
  have named : service.store.IsNamed :=
    (Store.isNamed_empty.addAccount "acct" "rg").createContainer "acct" "logs-2"
  have decodedAbsent : Identity.decode absent engine.environment.suffix = .ok ⟨"acct", "logs"⟩ :=
    Identity.decode_encode (by decide) (by decide) (by decide) (by decide) (by decide)
  have decodedSibling :
      Identity.decode sibling engine.environment.suffix = .ok ⟨"acct", "logs-2"⟩ :=
    Identity.decode_encode (by decide) (by decide) (by decide) (by decide) (by decide)
  refine ⟨quiet, named, ?_, ?_⟩
  · have agree := (read_probe_adopt_agree engine quiet named absent).1
    rw [decodedAbsent] at agree
    obtain ⟨outcome, present, _, _, _, _, notFound, stored⟩ := agree
    refine notFound.mp (eq_false_of_ne_true fun found => ?_)
    obtain ⟨_, _, properties, held⟩ := stored.mp found
    cases held
  · have agree := (read_probe_adopt_agree engine quiet named sibling).1
    rw [decodedSibling] at agree
    obtain ⟨outcome, present, _, probed, _, _, _, stored⟩ := agree
    rw [probed, stored.mpr ⟨⟨"rg", rfl⟩, rfl, _, rfl⟩]

end Service

end Stowage
