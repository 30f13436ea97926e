import Stowage.Shape
import Stowage.Text.Case

/-! # Environments

A cloud environment fixes the endpoint suffix under which its storage accounts live.
-/

namespace Stowage

structure Environment where
  name : String
  suffix : String
deriving DecidableEq, Repr

namespace Environment

/-- The environment that is meant where none is named. -/
def publicCloud : Environment :=
  ⟨"public", "core.windows.net"⟩

def builtIn : List Environment := [
  publicCloud,
  ⟨"china", "core.chinacloudapi.cn"⟩,
  ⟨"usgovernment", "core.usgovcloudapi.net"⟩,
  ⟨"german", "core.cloudapi.de"⟩]

/-- The built-in environment of that name, in any case of letters. -/
def named? (name : String) : Option Environment :=
  builtIn.find? fun environment => environment.name.toList == Text.lower name.toList

/-- Both fields must be given; others are ignored. -/
def shape : Shape where
  title := "Environment"
  required := ["name", "storage_endpoint_suffix"]

def ofDocument (document : Document) : Except (List Shape.Fault) Environment :=
  match shape.faults document, document with
  | [], .object fields =>
    .ok ⟨(Shape.textOf fields "name").getD "",
      (Shape.textOf fields "storage_endpoint_suffix").getD ""⟩
  | faults, _ => .error faults

def unknownMessage (name : String) : String :=
  s!"Unknown environment: '{name}'"

end Environment

end Stowage
