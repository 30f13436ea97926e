import Stowage.Environment
import Stowage.Failure

/-! # The engine

Creating, reading, probing and deleting containers.  Nothing is remembered between operations:
each works on the id or the declaration it is given and looks up the group and the account again,
since either can disappear at any time.
-/

namespace Stowage

/-- Where containers are addressed, and how creation is repeated. -/
structure Engine (τ : Type) where
  environment : Environment := Environment.publicCloud
  schedule : Schedule τ
  /-- The most repetitions of one creation. -/
  limit : Nat

/-- What became of a container: it is managed under an id, or it is gone. -/
inductive Outcome where
  | managed (uri : String) (identity : Identity) (properties : Document.Fields)
  | removed

namespace Outcome

def isManaged : Outcome → Bool
  | .managed _ _ _ => true
  | .removed => false

def uri? : Outcome → Option String
  | .managed uri _ _ => some uri
  | .removed => none

def identity? : Outcome → Option Identity
  | .managed _ identity _ => some identity
  | .removed => none

def properties : Outcome → Document.Fields
  | .managed _ _ properties => properties
  | .removed => []

end Outcome

abbrev Operation (Handle τ α : Type) : Type :=
  Program (Gateway.interface Handle) τ (Failure τ) α

namespace Engine

variable {Handle τ : Type} (engine : Engine τ)

def ask (request : Gateway.Request Handle) : Operation Handle τ (Gateway.Reply request) :=
  Program.send (I := Gateway.interface Handle) request

def identify (config : Config) : String :=
  Identity.encode config.account config.name engine.environment.suffix

def decode (uri : String) : Operation Handle τ Identity := do
  match Identity.decode uri engine.environment.suffix with
  | .error fault => .fail (.malformed fault)
  | .ok identity =>
    Program.report (.decoded uri identity.account identity.container)
    pure identity

/-- The handle of the container's account; none where its group or the account itself is gone. -/
def resolve (identity : Identity) : Operation Handle τ (Option Handle) := do
  match ← ask (.resolveGroup identity.account) with
  | none =>
    Program.report (.groupGone identity.account)
    pure none
  | some group =>
    match ← ask (.resolveAccount group identity.account) with
    | (handle, true) => pure (some handle)
    | (_, false) =>
      Program.report (.accountGone identity.account identity.container)
      pure none

/-- The present properties of the container under an id.  The listing also holds other containers
whose names begin like this one; only the exact name counts. -/
def read (uri : String) : Operation Handle τ Outcome := do
  let identity ← engine.decode uri
  match ← resolve identity with
  | none => pure .removed
  | some handle =>
    match ← ask (.list handle identity.container) with
    | .error reason =>
      .fail (.remote (.ofListing identity.container identity.account reason))
    | .ok listing =>
      match listing.find? fun entry => entry.name == identity.container with
      | some entry => pure (.managed uri identity entry.project)
      | none =>
        Program.report (.drifted identity.container identity.account)
        pure .removed

def probe (uri : String) : Operation Handle τ Bool := do
  let identity ← engine.decode uri
  match ← resolve identity with
  | none => pure false
  | some handle =>
    Program.report (.probing identity.container identity.account)
    match ← ask (.probe handle identity.container) with
    | .error reason => .fail (.remote (.ofProbe identity.container identity.account reason))
    | .ok true => pure true
    | .ok false =>
      Program.report (.absent identity.container identity.account)
      pure false

/-- Deletes the container under an id.  That it is gone already is no failure. -/
def delete (uri : String) : Operation Handle τ Unit := do
  let identity ← engine.decode uri
  match ← resolve identity with
  | none => pure ()
  | some handle =>
    Program.report (.deleting identity.container identity.account)
    match ← ask (.deleteIfPresent handle identity.container) with
    | .fatal reason =>
      .fail (.remote (.ofDelete identity.container identity.account reason))
    | .ok | .transient _ => pure ()

/-- Takes over the container under an id, which must be there. -/
def adopt (uri : String) : Operation Handle τ Outcome := do
  match ← engine.read uri with
  | .removed => .fail (.notFound uri)
  | outcome =>
    Program.report (.imported uri)
    pure outcome

/-- Sets the access policy of a container that was created and reads the container back. -/
def settle (config : Config) (handle : Handle) : Operation Handle τ Outcome := do
  Program.report (.settingAccess config.access.name config.name)
  match ← ask (.setPolicy handle config.name config.access.header) with
  | .fatal reason => .fail (.remote (.ofPolicy config.name config.account reason))
  | .ok | .transient _ => engine.read (engine.identify config)

/-- Creates a container under the handle of its account, if it is missing there, and settles it. -/
def createUnder [Timescale τ] (config : Config) (handle : Handle) : Operation Handle τ Outcome := do
  Program.report (.creating config.name config.account)
  let attempted ← Retry.run engine.schedule engine.limit s!"create container '{config.name}'"
    (ask (.createIfMissing handle config.name))
  match attempted with
  | .fatal reason =>
    .fail (.remote (.ofCreate config.name config.account (.reply (.fatal reason))))
  | .timedOut timeout attempts lastReason =>
    .fail (.remote (.ofCreate config.name config.account
      (.timedOut timeout attempts lastReason)))
  | .ok => engine.settle config handle

def create [Timescale τ] (config : Config) : Operation Handle τ Outcome := do
  match ← ask (.resolveAccount config.group config.account) with
  | (_, false) => .fail (.accountMissing config.account)
  | (handle, true) => engine.createUnder config handle

def replace [Timescale τ] (uri : String) (config : Config) : Operation Handle τ Outcome := do
  Program.report (.replacing uri (engine.identify config))
  engine.delete uri
  engine.create config

/-- The configuration of a document, as the first step of an operation. -/
def accept (document : Document) : Operation Handle τ Config :=
  .ofLogged ((Config.read document).mapError .rejected)

def createFrom [Timescale τ] (document : Document) : Operation Handle τ Outcome := do
  engine.create (← accept document)

def replaceFrom [Timescale τ] (uri : String) (document : Document) :
    Operation Handle τ Outcome := do
  engine.replace uri (← accept document)

section Accepted

variable [Timescale τ] {document : Document} {config : Config} {rejection : Config.Rejection}

omit [Timescale τ] in
theorem accept_of_ok (accepted : Config.ofDocument document = .ok config) :
    (accept document : Operation Handle τ Config) = .done config := by
  rw [accept, Config.read_of_ok accepted]
  rfl

omit [Timescale τ] in
theorem accept_bind_of_error {α : Type} (refused : Config.ofDocument document = .error rejection)
    (next : Config → Operation Handle τ α) :
    accept document >>= next =
      .ofLogged ⟨Config.reports document, .error (.rejected rejection)⟩ := by
  rw [accept, Config.read_of_error refused]
  exact Program.ofLogged_error_bind ..

theorem createFrom_of_ok (accepted : Config.ofDocument document = .ok config) :
    (engine.createFrom document : Operation Handle τ Outcome) = engine.create config := by
  rw [createFrom, accept_of_ok accepted]
  rfl

theorem createFrom_of_error (refused : Config.ofDocument document = .error rejection) :
    (engine.createFrom document : Operation Handle τ Outcome) =
      .ofLogged ⟨Config.reports document, .error (.rejected rejection)⟩ :=
  accept_bind_of_error refused _

theorem replaceFrom_of_ok (accepted : Config.ofDocument document = .ok config) (uri : String) :
    (engine.replaceFrom uri document : Operation Handle τ Outcome) =
      engine.replace uri config := by
  rw [replaceFrom, accept_of_ok accepted]
  rfl

theorem replaceFrom_of_error (refused : Config.ofDocument document = .error rejection)
    (uri : String) :
    (engine.replaceFrom uri document : Operation Handle τ Outcome) =
      .ofLogged ⟨Config.reports document, .error (.rejected rejection)⟩ :=
  accept_bind_of_error refused _

end Accepted

end Engine

end Stowage
