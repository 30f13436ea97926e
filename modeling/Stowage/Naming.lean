/-! # Names of containers

A container name has lower-case letters, digits and hyphens, does not begin with a hyphen, and has
between three and sixty-three characters.  The root container has a name of its own.
-/

namespace Stowage.Naming

def minLength : Nat := 3

def maxLength : Nat := 63

/-- The name of the root container. -/
def root : String := "$root"

def isNameChar (c : Char) : Bool :=
  c.isDigit || ('a' ≤ c && c ≤ 'z') || c == '-'

inductive Violation where
  | characters
  | length
  | leadingHyphen
deriving DecidableEq, Repr

def hasNameChars (name : String) : Bool :=
  name == root || (!name.isEmpty && name.toList.all isNameChar)

/-- The rules that the name breaks, in the order in which they are reported. -/
def violations (name : String) : List Violation :=
  (if hasNameChars name then [] else [.characters]) ++
  (if name.length < minLength || maxLength < name.length then [.length] else []) ++
  (if name.toList.head? == some '-' then [.leadingHyphen] else [])

def Violation.message (field name : String) : Violation → String
  | .characters =>
    s!"only lowercase alphanumeric characters and hyphens allowed in '{field}': '{name}'"
  | .length =>
    s!"'{field}' must be between {minLength} and {maxLength} characters: '{name}'"
  | .leadingHyphen => s!"'{field}' cannot begin with a hyphen: '{name}'"

def messages (name field : String) : List String :=
  (violations name).map (Violation.message field name)

end Stowage.Naming
