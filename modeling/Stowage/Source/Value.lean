import Stowage.Decimal.Shortest
import Stowage.Document.Basic
import Stowage.Source.Expression
import Stowage.Text.Quoted

/-! # What expressions stand for

Numbers, truth values, nothing, tuples and objects are values.  All other expressions, texts among
them, stay as they are written until they are put somewhere: there a text loses its quotes, and
anything else becomes a reference for later expansion.
-/

namespace Stowage.Source

inductive Fault where
  | malformed
  /-- A name is given to two attributes of a body, or to an attribute and a block. -/
  | repeated (name : String)
  | compositeKey (isTuple : Bool)
deriving DecidableEq, Repr

def Fault.message : Fault → String
  | .malformed => "the file does not follow the grammar"
  | .repeated name => s!"{name} already defined"
  | .compositeKey isTuple =>
    let kind := if isTuple then "list" else "dict"
    s!"unhashable type: '{kind}'"

inductive Value where
  /-- An expression as it is written. -/
  | written (text : String)
  /-- A value, and its literal. -/
  | settled (document : Document) (literal : String)

namespace Value

def text : Value → String
  | .written text => text
  | .settled _ literal => literal

def unquoted? (text : String) : Option String :=
  let chars := text.toList
  if chars.head? == some '"' && chars.getLast? == some '"' then
    some (String.ofList (chars.drop 1).dropLast)
  else none

/-- The text of a written expression where it is put to use. -/
def used (text : String) : String :=
  (unquoted? text).getD ("$\x7b" ++ text ++ "\x7d")

/-- The value where it is put to use. -/
def document : Value → Document
  | .written text => .text (used text)
  | .settled document _ => document

/-- The literal of the value where it is put to use. -/
def literal : Value → String
  | .written text => Text.quoted (used text)
  | .settled _ literal => literal

def tuple (items : List Value) : Value :=
  .settled (.list (items.map document)) ("[" ++ String.intercalate ", " (items.map literal) ++ "]")

/-! ## Objects -/

structure Name where
  name : String
  literal : String

def Name.ofText (text : String) : Name :=
  ⟨text, Text.quoted text⟩

def name : Value → Except Fault Name
  | .written text => .ok (Name.ofText ((unquoted? text).getD text))
  | .settled document literal =>
    match document with
    | .list _ => .error (.compositeKey true)
    | .object _ => .error (.compositeKey false)
    | .null => .ok ⟨"null", literal⟩
    | .bool value => .ok ⟨if value then "true" else "false", literal⟩
    | _ => .ok ⟨literal, literal⟩

def fieldLiteral (name : Name) (value : Value) : String :=
  name.literal ++ ": " ++ value.literal

/-- Puts a field among others: in its place if its name is there, at the end if not. -/
def place (name : Name) (value : Value) : List (Name × Value) → List (Name × Value)
  | [] => [(name, value)]
  | (other, old) :: fields =>
    if other.name = name.name then (other, value) :: fields
    else (other, old) :: place name value fields

/-- An object of the fields, of which the last of a name counts. -/
def object (fields : List (Name × Value)) : Value :=
  let kept := fields.foldl (fun kept (name, value) => place name value kept) []
  let literals := kept.map fun (name, value) => fieldLiteral name value
  .settled (.object (kept.map fun (name, value) => (name.name, value.document)))
    ("\x7b" ++ String.intercalate ", " literals ++ "\x7d")

/-! ## Numbers -/

def whole (digits : List Char) : Value :=
  let number : Int := Nat.ofDigitChars 10 digits 0
  .settled (.int number) (toString number)

def fraction (digits places : List Char) : Value :=
  let shifted := Nat.ofDigitChars 10 (digits ++ places) 0
  let number := Float.ofScientific shifted true places.length
  .settled (.real number) (Decimal.floatText number)

/-- A word: three words are values. -/
def word : String → Value
  | "true" => .settled (.bool true) "True"
  | "false" => .settled (.bool false) "False"
  | "null" => .settled .null "None"
  | name => .written name

end Value

namespace Expression

mutual

def value : Expression → Except Fault Value
  | .word name => .ok (Value.word name)
  | .whole digits => .ok (Value.whole digits)
  | .fraction digits places => .ok (Value.fraction digits places)
  | .quoted text => .ok (.written ("\"" ++ text ++ "\""))
  | .tuple items => return Value.tuple (← values items)
  | .object fields => return Value.object (← fieldValues fields)
  | .call function arguments => do
    let arguments ← values arguments
    return .written (function ++ "(" ++ String.intercalate ", " (arguments.map Value.text) ++ ")")
  | .element collection index => do
    let collection ← collection.value
    let index ← index.value
    return .written (collection.text ++ "[" ++ index.text ++ "]")
  | .member owner name => do
    let owner ← owner.value
    return .written (owner.text ++ "." ++ name)
  | .signed sign operand => do
    let operand ← operand.value
    return .written (sign.text ++ operand.text)
  | .binary left operator right => do
    let left ← left.value
    let right ← right.value
    return .written (left.text ++ " " ++ operator.text ++ " " ++ right.text)
  | .choice condition yes no => do
    let condition ← condition.value
    let yes ← yes.value
    let no ← no.value
    return .written (condition.text ++ " ? " ++ yes.text ++ " : " ++ no.text)

def values : List Expression → Except Fault (List Value)
  | [] => .ok []
  | item :: items => do
    let first ← item.value
    let rest ← values items
    return first :: rest

def fieldValues : List (Key Expression × Expression) → Except Fault (List (Value.Name × Value))
  | [] => .ok []
  | (.named name, expression) :: fields => do
    let field ← expression.value
    let rest ← fieldValues fields
    return (Value.Name.ofText name, field) :: rest
  | (.computed key, expression) :: fields => do
    let key ← key.value
    let field ← expression.value
    let name ← key.name
    let rest ← fieldValues fields
    return (name, field) :: rest

end

end Expression

end Stowage.Source
