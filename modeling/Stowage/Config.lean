import Stowage.AccessType
import Stowage.Logged
import Stowage.Naming
import Stowage.Shape

/-! # Declared containers

The desired state of a container.  A configuration is built from a document: first its shape is
checked, then its rules, and every fault of the stage that fails is reported.  A `Config` value
carries the proof that its rules hold.
-/

namespace Stowage

/-- The desired state of a container. -/
structure Config where
  name : String
  group : String
  account : String
  accessText : String
  name_lawful : Naming.violations name = []
  access_known : (AccessType.ofText? accessText).isSome = true
deriving DecidableEq

namespace Config

inductive Field where
  | name
  | group
  | account
  | access
deriving DecidableEq, Repr

def Field.key : Field → String
  | .name => "name"
  | .group => "resource_group_name"
  | .account => "storage_account_name"
  | .access => "container_access_type"

/-- Three fields must be given, the access type may be, and nothing else. -/
def shape : Shape where
  title := "ContainerConfig"
  required := [Field.name.key, Field.group.key, Field.account.key]
  optional := [Field.access.key]
  closed := true

def defaultAccess : String :=
  AccessType.closed.name

/-- The messages about the fields that break rules. -/
abbrev Violations := List (String × List String)

def Violations.message (violations : Violations) : String :=
  String.intercalate "; " (violations.flatMap Prod.snd)

inductive Rejection where
  | misshapen (faults : List Shape.Fault)
  | unlawful (violations : Violations)
deriving DecidableEq, Repr

def violations (name accessText : String) : Violations :=
  (match Naming.messages name Field.name.key with
    | [] => []
    | messages => [(Field.name.key, messages)]) ++
  match AccessType.violation? accessText with
  | none => []
  | some message => [(Field.access.key, [message])]

def ofTexts (name group account accessText : String) : Except Rejection Config :=
  if lawful : Naming.violations name = [] ∧ (AccessType.ofText? accessText).isSome = true then
    .ok { name, group, account, accessText, name_lawful := lawful.1, access_known := lawful.2 }
  else .error (.unlawful (violations name accessText))

def ofDocument (document : Document) : Except Rejection Config :=
  match shape.faults document, document with
  | [], .object fields =>
    ofTexts ((Shape.textOf fields Field.name.key).getD "")
      ((Shape.textOf fields Field.group.key).getD "")
      ((Shape.textOf fields Field.account.key).getD "")
      ((Shape.textOf fields Field.access.key).getD defaultAccess)
  | faults, _ => .error (.misshapen faults)

/-- What is reported while a document is read: that it has the shape of a configuration but breaks
rules. -/
def reports (document : Document) : List Event :=
  match ofDocument document, document with
  | .error (.unlawful violations), .object fields =>
    [.refused ((Shape.textOf fields Field.name.key).getD "") violations]
  | _, _ => []

/-- The configuration of a document, with what is reported of it. -/
def read (document : Document) : Logged Rejection Config :=
  ⟨reports document, ofDocument document⟩

section Read

variable {document : Document} {config : Config} {rejection : Rejection}

theorem reports_of_ok (accepted : ofDocument document = .ok config) : reports document = [] := by
  simp only [reports, accepted]

theorem read_of_ok (accepted : ofDocument document = .ok config) :
    read document = .pure config := by
  rw [read, reports_of_ok accepted, accepted]
  rfl

theorem read_of_error (refused : ofDocument document = .error rejection) :
    read document = ⟨reports document, .error rejection⟩ := by
  rw [read, refused]

end Read

/-- What an unchecked configuration holds of some fields: those of a configuration whatever their
values, and the default access type where none is given.  It becomes a configuration only when it is
read like any other document. -/
def draft (fields : Document.Fields) : Document.Fields :=
  let given := (shape.required ++ shape.optional).filterMap fun key =>
    (fields.get? key).map fun value => (key, value)
  if (fields.get? Field.access.key).isSome then given
  else given ++ [(Field.access.key, .text defaultAccess)]

/-- A finished configuration refuses every assignment. -/
def assign (_ : Config) (field : String) : Rejection :=
  .misshapen [⟨some field, .frozen⟩]

def access (config : Config) : AccessType :=
  (AccessType.ofText? config.accessText).get config.access_known

/-- The fields in which two declarations differ, in the order of their keys.  The access type is
compared without regard to case.  Each of them can only be changed by replacing the container. -/
def requiresReplacement (old new : Config) : List Field :=
  (if AccessType.normalized old.accessText = AccessType.normalized new.accessText then []
    else [.access]) ++
  (if old.name = new.name then [] else [.name]) ++
  (if old.group = new.group then [] else [.group]) ++
  (if old.account = new.account then [] else [.account])

end Config

end Stowage
