import Stowage.Decimal.Shortest
import Stowage.Document.Basic
import Stowage.Text.Quoted

/-! # Documents as text

A document inside a message or a rendered template: a text stands for itself, anything else is
written as a literal, in which texts are quoted.  A document that holds an integer of too many
digits cannot be written.
-/

namespace Stowage.Document

mutual

/-- The document as a literal. -/
def literal? : Document → Option String
  | .null => some "None"
  | .bool true => some "True"
  | .bool false => some "False"
  | .int value => Decimal.wholeText? value
  | .real value => some (Decimal.floatText value)
  | .text value => some (Text.quoted value)
  | .list items => do return "[" ++ String.intercalate ", " (← literalItems? items) ++ "]"
  | .object fields => do
    return "\x7b" ++ String.intercalate ", " (← literalFields? fields) ++ "\x7d"

def literalItems? : List Document → Option (List String)
  | [] => some []
  | item :: items => do
    let first ← literal? item
    let rest ← literalItems? items
    return first :: rest

def literalFields? : List (String × Document) → Option (List String)
  | [] => some []
  | (name, value) :: fields => do
    let first ← literal? value
    let rest ← literalFields? fields
    return (Text.quoted name ++ ": " ++ first) :: rest

end

/-- The document as it appears inside other text. -/
def display? : Document → Option String
  | .text value => some value
  | other => other.literal?

/-- What is said of a document that cannot be written. -/
def unwritable : String :=
  s!"Exceeds the limit ({Decimal.maxDigits} digits) for integer string conversion; " ++
    "use sys.set_int_max_str_digits() to increase the limit"

end Stowage.Document
