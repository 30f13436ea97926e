import Stowage.Document.Display
import Stowage.Document.Equality
import Stowage.Environment
import Stowage.Event
import Stowage.Identity.Basic

/-! # Migration of stored states

A stored state is an object with a version beside it.  In version 0 the id was the bare name of
the container; version 1 has the full id, built from two attributes.  Nothing else changes.
-/

namespace Stowage.Migration

def currentVersion : Document :=
  .int 1

inductive Fault where
  | unknownVersion (version : String)
  | missingAttribute (name : String)
  /-- The attributes are something that is not empty and not an object. -/
  | attributesNotObject
  /-- A version or an attribute cannot be written. -/
  | unwritable
deriving Inhabited

def Fault.message : Fault → String
  | .unknownVersion version => s!"Unexpected schema version: {version}"
  | .missingAttribute name => s!"v0 state is missing attribute {Text.quoted name}"
  | .attributesNotObject => ""
  | .unwritable => Document.unwritable

/-- The attributes of a state; there are none where the field is absent or counts as false. -/
def attributes (state : Document.Fields) : Except Fault Document.Fields :=
  match state.get? "attributes" with
  | none => .ok []
  | some (.object fields) => .ok fields
  | some other => if other.isEmpty then .ok [] else .error .attributesNotObject

def attributeNamed (fields : Document.Fields) (name : String) : Except Fault Document :=
  match fields.get? name with
  | some value => .ok value
  | none => .error (.missingAttribute name)

def written (document : Document) : Except Fault String :=
  match document.display? with
  | some text => .ok text
  | none => .error .unwritable

/-- The id that a state of version 0 gets.  Both attributes are looked up before one is written. -/
def newId (state : Document.Fields) (environment : Environment) : Except Fault String := do
  let fields ← attributes state
  let name ← attributeNamed fields "name"
  let account ← attributeNamed fields "storage_account_name"
  pure (Identity.encode (← written account) (← written name) environment.suffix)

/-- A state that was brought up to date, and the event to report. -/
structure Upgraded where
  version : Document
  state : Document.Fields
  event : Option Event

/-- Brings a state up to date.  An old id that cannot be written is replaced without a report. -/
def run (version : Document) (state : Document.Fields) (environment : Environment) :
    Except Fault Upgraded :=
  if version.same (.int 0) then do
    let id ← newId state environment
    let old := ((state.get? "id").getD .null).display?
    pure ⟨currentVersion, state.set "id" (.text id), old.map fun old => .migrating old id⟩
  else if version.same currentVersion then .ok ⟨version, state, none⟩
  else do .error (.unknownVersion (← written version))

end Stowage.Migration
