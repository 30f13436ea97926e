import Stowage.Document.Basic

/-! # Shapes of records

A record has required and optional text fields.  A document is checked against such a shape before
any rule about its contents: every fault is reported, field by field.
-/

namespace Stowage

/-- What is wrong with one place of a document. -/
inductive Shape.FaultKind where
  | notAnObject
  | missing
  | notText
  | unexpected
  /-- The field of a finished record cannot be assigned. -/
  | frozen
deriving DecidableEq, Repr

/-- A fault at a field, or at the whole document where no field is named. -/
structure Shape.Fault where
  field : Option String
  kind : Shape.FaultKind
deriving DecidableEq, Repr

/-- The text fields of a record. -/
structure Shape where
  title : String
  required : List String
  optional : List String := []
  /-- Whether other fields are faults. -/
  closed : Bool := false

namespace Shape

def valueFaults (name : String) : Document → List Fault
  | .text _ => []
  | _ => [⟨some name, .notText⟩]

def namedFaults (shape : Shape) (fields : Document.Fields) : List Fault :=
  shape.required.flatMap (fun name => match fields.get? name with
    | some value => valueFaults name value
    | none => [⟨some name, .missing⟩]) ++
  shape.optional.flatMap fun name => match fields.get? name with
    | some value => valueFaults name value
    | none => []

/-- The faults of the fields that a closed shape does not name. -/
def extraFaults (shape : Shape) (fields : Document.Fields) : List Fault :=
  if shape.closed then
    (fields.filter fun field =>
      !(shape.required ++ shape.optional).contains field.1).map fun field =>
        ⟨some field.1, .unexpected⟩
  else []

/-- All faults of a document; a document without faults is an object of text fields. -/
def faults (shape : Shape) : Document → List Fault
  | .object fields => shape.namedFaults fields ++ shape.extraFaults fields
  | _ => [⟨none, .notAnObject⟩]

def Fault.message (shape : Shape) (fault : Fault) : String :=
  match fault.kind with
  | .notAnObject => s!"Input should be a valid dictionary or instance of {shape.title}"
  | .missing => "Field required"
  | .notText => "Input should be a valid string"
  | .unexpected => "Extra inputs are not permitted"
  | .frozen => "Instance is frozen"

def textOf (fields : Document.Fields) (name : String) : Option String :=
  match fields.get? name with
  | some (.text value) => some value
  | _ => none

end Shape

end Stowage
