import Stowage.Config
import Stowage.Identity.Basic
import Stowage.Retry

/-! # Failures

Why an operation on a container failed.
-/

namespace Stowage

/-- What a remote failure goes back to. -/
inductive Cause (τ : Type) where
  | text (message : String)
  | reply (result : CallResult)
  | timedOut (timeout : τ) (attempts : Nat) (lastReason : String)
deriving DecidableEq, Repr

inductive RemoteStage where
  | creating
  | settingPolicy
  | other
deriving DecidableEq, Repr

/-- A request that failed for good, or not before the deadline. -/
structure RemoteFailure (τ : Type) where
  stage : RemoteStage
  summary : String
  container : String
  account : String
  cause : Option (Cause τ)
deriving DecidableEq, Repr

inductive Failure (τ : Type) where
  | rejected (rejection : Config.Rejection)
  /-- The account that should hold the container does not exist. -/
  | accountMissing (account : String)
  | malformed (fault : Identity.Malformed)
  | remote (failure : RemoteFailure τ)
  | notFound (uri : String)
deriving DecidableEq, Repr

namespace Cause

variable {τ : Type} [Timescale τ]

def message : Cause τ → String
  | .text message => message
  | .reply .ok => "Ok()"
  | .reply (.transient reason) => reason
  | .reply (.fatal reason) => reason
  | .timedOut timeout attempts lastReason =>
    s!"timeout after {Timescale.general timeout}s ({attempts} attempts): {lastReason}"

end Cause

namespace RemoteFailure

variable {τ : Type}

/-- The summary, and the cause behind a colon where there is one. -/
def message [Timescale τ] (failure : RemoteFailure τ) : String :=
  match failure.cause with
  | none => failure.summary
  | some cause => s!"{failure.summary}: {cause.message}"

def ofCreate (container account : String) (cause : Cause τ) : RemoteFailure τ where
  stage := .creating
  summary := s!"Error creating container '{container}' in storage account '{account}'"
  container
  account
  cause

def ofPolicy (container account reason : String) : RemoteFailure τ where
  stage := .settingPolicy
  summary := s!"Error setting permissions for container '{container}' " ++
    s!"in storage account '{account}'"
  container
  account
  cause := some (.reply (.fatal reason))

def ofListing (container account reason : String) : RemoteFailure τ where
  stage := .other
  summary := s!"Failed to retrieve storage containers in account '{account}'"
  container
  account
  cause := some (.reply (.fatal reason))

def ofProbe (container account reason : String) : RemoteFailure τ where
  stage := .other
  summary := s!"Error querying existence of container '{container}' " ++
    s!"in storage account '{account}'"
  container
  account
  cause := some (.reply (.fatal reason))

def ofDelete (container account reason : String) : RemoteFailure τ where
  stage := .other
  summary := s!"Error deleting container '{container}' from storage account '{account}'"
  container
  account
  cause := some (.reply (.fatal reason))

end RemoteFailure

namespace Failure

variable {τ : Type} [Timescale τ]

/-- A failure in words.  Faults of shape have words of their own, field by field. -/
def message : Failure τ → String
  | .rejected (.misshapen _) => ""
  | .rejected (.unlawful violations) => violations.message
  | .accountMissing account => s!"Storage Account '{account}' Not Found"
  | .malformed fault => fault.message
  | .remote failure => failure.message
  | .notFound uri => s!"Cannot import non-existent storage container '{uri}'"

end Failure

end Stowage
