import Stowage.Text.Case
import Stowage.Text.Quoted

/-! # Access types

Who may read a container without credentials.
-/

namespace Stowage

inductive AccessType where
  | closed
  | blob
  | container
deriving DecidableEq, Repr

namespace AccessType

/-- The access types in the order in which messages list them. -/
def all : List AccessType :=
  [.closed, .blob, .container]

def name : AccessType → String
  | .closed => "private"
  | .blob => "blob"
  | .container => "container"

/-- The value of the public-access header.  Private containers send none. -/
def header : AccessType → String
  | .closed => ""
  | other => other.name

def normalized (text : String) : String :=
  String.ofList (Text.lower text.toList)

/-- The access type of that name, in any case of letters. -/
def ofText? (text : String) : Option AccessType :=
  all.find? fun access => access.name == normalized text

def unknownMessage (text : String) : String :=
  s!"{Text.quoted (normalized text)} is not a valid AccessType"

/-- What is said of a declaration whose access type is unknown. -/
def violation? (text : String) : Option String :=
  match ofText? text with
  | some _ => none
  | none =>
    let allowed := String.intercalate ", " (all.map fun access => s!"'{access.name}'")
    some s!"container access type '{text}' is invalid, must be one of {allowed}"

end AccessType

end Stowage
