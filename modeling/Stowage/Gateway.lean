import Stowage.Document.Basic
import Stowage.Program

/-! # The gateway

The requests that reach the storage service, and what it replies.  Failures are replies: they say
whether trying again may help.
-/

namespace Stowage

/-- How a request to change something ended. -/
inductive CallResult where
  | ok
  /-- It failed and may succeed if it is tried again. -/
  | transient (reason : String)
  /-- It failed, and trying again does not help. -/
  | fatal (reason : String)
deriving DecidableEq, Repr

/-- A container as a listing shows it.  The properties are passed on as they come. -/
structure Properties where
  name : String
  lastModified : Document := .null
  leaseStatus : Document := .text ""
  leaseState : Document := .text ""
  leaseDuration : Document := .text ""
deriving Inhabited

/-- The properties of a container under their names, the container's own name left out. -/
def Properties.project (properties : Properties) : Document.Fields := [
  ("last_modified", properties.lastModified),
  ("lease_status", properties.leaseStatus),
  ("lease_state", properties.leaseState),
  ("lease_duration", properties.leaseDuration)]

namespace Gateway

/-- A request to the service.  Containers are addressed through the handle of their account. -/
inductive Request (Handle : Type) where
  | resolveGroup (account : String)
  /-- A handle for an account, and whether the account exists. -/
  | resolveAccount (group account : String)
  | createIfMissing (handle : Handle) (name : String)
  | setPolicy (handle : Handle) (name header : String)
  /-- The containers whose names begin with a text. -/
  | list (handle : Handle) (beginning : String)
  | probe (handle : Handle) (name : String)
  | deleteIfPresent (handle : Handle) (name : String)
deriving DecidableEq, Repr

def Request.changes {Handle : Type} : Request Handle → Bool
  | .createIfMissing _ _ | .setPolicy _ _ _ | .deleteIfPresent _ _ => true
  | .resolveGroup _ | .resolveAccount _ _ | .list _ _ | .probe _ _ => false

def Reply {Handle : Type} : Request Handle → Type
  | .resolveGroup _ => Option String
  | .resolveAccount _ _ => Handle × Bool
  | .createIfMissing _ _ => CallResult
  | .setPolicy _ _ _ => CallResult
  | .list _ _ => Except String (List Properties)
  | .probe _ _ => Except String Bool
  | .deleteIfPresent _ _ => CallResult

def interface (Handle : Type) : Interface :=
  ⟨Request Handle, Reply⟩

end Gateway

end Stowage
