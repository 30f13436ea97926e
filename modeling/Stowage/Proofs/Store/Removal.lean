import Stowage.Proofs.Identity.NormalForm
import Stowage.Proofs.Store.Operations
import Stowage.Proofs.Store.Replacing

/-! # Deletions on a store

Where nothing is scripted, a deletion takes away the container under its id, if the account is known,
and nothing else.  To delete it once more, under whatever spelling of the id, changes nothing.
-/

namespace Stowage

namespace Store

variable (store : Store) (identity : Identity)

@[simp] theorem knows_retire (account : String) :
    (store.retire identity).knows account = store.knows account :=
  have lost := store.loses_retire identity
  store.knows_congr account lost.groups lost.accounts

theorem retire_of_unknown (unknown : store.knows identity.account = false) :
    store.retire identity = store :=
  if_neg (ne_true_of_eq_false unknown)

theorem container?_retire (account name : String) :
    (store.retire identity).container? account name =
      if account = identity.account ∧ name = identity.container ∧
        store.knows identity.account = true then none
      else store.container? account name := by
  unfold retire
  cases store.knows identity.account with
  | true => simp [container?_dropContainer]
  | false => simp

theorem reachable?_retire :
    (store.retire identity).reachable? identity.account identity.container = none := by
  rw [reachable?, knows_retire, container?_retire]
  cases store.knows identity.account <;> simp

theorem retire_retire : (store.retire identity).retire identity = store.retire identity := by
  cases known : store.knows identity.account with
  | false => rw [store.retire_of_unknown identity known, store.retire_of_unknown identity known]
  | true => simp [retire, known, knows_dropContainer, dropContainer_dropContainer_self]

variable {store} in
theorem IsNamed.retire (named : store.IsNamed) : (store.retire identity).IsNamed := by
  unfold Store.retire
  split
  · exact named.dropContainer _ _
  · exact named

end Store

namespace Service

variable {τ : Type} [Timescale τ] (engine : Engine τ) {service : Service τ} {identity : Identity}

/-- After a deletion the container is neither found by a probe nor read, all else is as it was, and
to delete it again under any id that means it changes nothing. -/
theorem delete_removes (quiet : service.IsQuiet) (named : service.store.IsNamed) {uri : String}
    (decoded : Identity.decode uri engine.environment.suffix = .ok identity) :
    let deleting := (engine.delete uri).run world service
    deleting.ending = .returned () ∧
      ((engine.probe uri).run world deleting.state).ending = .returned false ∧
      ((engine.read uri).run world deleting.state).ending = .returned .removed ∧
      service.store.Loses identity deleting.state.store ∧
      (∀ account name, deleting.state.store.container? account name =
        if account = identity.account ∧ name = identity.container ∧
          service.store.knows identity.account = true then none
        else service.store.container? account name) ∧
      (service.store.knows identity.account = false → deleting.state = service) ∧
      ∀ other, Identity.decode other engine.environment.suffix = .ok identity →
        let again := (engine.delete other).run world deleting.state
        again.ending = .returned () ∧ again.state = deleting.state := by
  intro deleting
  have deleted := yields_delete engine quiet decoded
  have settled : deleting.state = { service with store := service.store.retire identity } :=
    deleted.state
  have quietAfter : IsQuiet { service with store := service.store.retire identity } := quiet
  have probed := (yields_probe engine quietAfter decoded).ending
  have read := (yields_read engine quietAfter decoded (named.retire identity)).ending
  rw [Store.holds, Store.reachable?_retire] at probed
  rw [Store.reachable?_retire] at read
  rw [settled]
  refine ⟨deleted.ending, probed, read, service.store.loses_retire identity,
    service.store.container?_retire identity, fun unknown => ?_, fun other spelled => ?_⟩
  · rw [service.store.retire_of_unknown identity unknown]
  · have again := yields_delete engine quietAfter spelled
    exact ⟨again.ending, again.state.trans
      (congrArg (Service.mk · service.clock service.scripts) (service.store.retire_retire identity))⟩

/-- A container that is deleted beside a sibling, and again under another spelling of its id. -/
theorem delete_removes_respelled :
    let engine : Engine Rat := ⟨Environment.publicCloud, ⟨120, 1, 10⟩, 0⟩
    let accounts := Store.empty.addAccount "acct" "rg"
    let siblings := (accounts.createContainer "acct" "logs").createContainer "acct" "logs-2"
    let service : Service Rat := { store := siblings, clock := 0 }
    let uri := "https://acct.core.windows.net/logs"
    let other := "HTTP://ops@acct.Core.Windows.NET:443//logs?x"
    let deleting := (engine.delete uri).run world service
    service.IsQuiet ∧ service.store.IsNamed ∧
      Identity.decode uri engine.environment.suffix = .ok ⟨"acct", "logs"⟩ ∧
      Identity.decode other engine.environment.suffix = .ok ⟨"acct", "logs"⟩ ∧
      deleting.state.store.container? "acct" "logs" = none ∧
      (deleting.state.store.container? "acct" "logs-2").isSome = true ∧
      ((engine.delete other).run world deleting.state).state = deleting.state := by
  intro engine accounts siblings service uri other deleting
  have quiet : service.IsQuiet := fun _ => rfl
  have named : service.store.IsNamed :=
    ((Store.isNamed_empty.addAccount "acct" "rg").createContainer "acct" "logs").createContainer _ _
  have decoded : Identity.decode uri engine.environment.suffix = .ok ⟨"acct", "logs"⟩ := by decide
  have decodedOther : Identity.decode other engine.environment.suffix = .ok ⟨"acct", "logs"⟩ := by
    decide
  obtain ⟨_, _, _, _, left, _, again⟩ := delete_removes engine quiet named decoded
  have gone := left "acct" "logs"
  have sibling := left "acct" "logs-2"
  rw [if_pos ⟨rfl, rfl, rfl⟩] at gone
  rw [if_neg (by decide)] at sibling
  refine ⟨quiet, named, decoded, decodedOther, gone, ?_, (again other decodedOther).2⟩
  rw [show deleting.state.store.container? "acct" "logs-2" = _ from sibling]
  rfl

end Service

end Stowage
