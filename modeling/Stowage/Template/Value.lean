import Stowage.Decimal.Quotient
import Stowage.Document.Display
import Stowage.Document.Equality
import Stowage.Text.Case

/-! # Values of templates

What expressions of a template evaluate to: documents, ranges of numbers, the state of a repetition,
and also values that are missing.  A missing value may be named, tested for and replaced; every
other use of it is a fault that says what is missing.
-/

namespace Stowage.Template

/-- What a missing value was looked for as. -/
inductive Missing where
  | name (name : String)
  | attribute (owner name : String)
  /-- The index is none if it cannot be written. -/
  | element (owner : String) (index : Option String)
deriving DecidableEq, Repr

def Missing.message : Missing → String
  | .name word => Text.quoted word ++ " is undefined"
  | .attribute owner word => Text.quoted owner ++ " has no attribute " ++ Text.quoted word
  | .element owner (some index) => owner ++ " has no element " ++ index
  | .element _ none => Document.unwritable

inductive Fault where
  | malformed
  /-- A filter or a test has an unknown name, which was found before anything was written. -/
  | unknown (name : String)
  /-- A filter or a test has an unknown name, which was found when it was needed. -/
  | unknownInUse (name : String)
  | missing (gap : Missing)
  /-- A value has the wrong kind for what is done with it. -/
  | mismatch
  | divisionByZero
  /-- A value cannot be written. -/
  | unwritable
deriving DecidableEq, Repr

def Fault.message : Fault → String
  | .malformed => "the template does not follow the grammar"
  | .unknown name | .unknownInUse name => s!"nothing is called {name}"
  | .missing gap => gap.message
  | .mismatch => "a value has the wrong kind"
  | .divisionByZero => "division by zero"
  | .unwritable => Document.unwritable

/-- Where a repetition is. -/
structure Repetition where
  passed : Nat
  count : Nat
deriving DecidableEq, Repr

inductive Value where
  | known (document : Document)
  | missing (gap : Missing)
  | range (first last : Int)
  | turn (repetition : Repetition)
  /-- The function that makes ranges. -/
  | rangeMaker

namespace Value

abbrev text (value : String) : Value := .known (.text value)

abbrev bool (value : Bool) : Value := .known (.bool value)

abbrev int (value : Int) : Value := .known (.int value)

def integers (first last : Int) : List Int :=
  (List.range (last - first).toNat).map fun (n : Nat) => first + n

def kindName : Value → String
  | .known .null => "None"
  | .known (.bool _) => "bool object"
  | .known (.int _) => "int object"
  | .known (.real _) => "float object"
  | .known (.text _) => "str object"
  | .known (.list _) => "list object"
  | .known (.object _) => "dict object"
  | .range .. => "range object"
  | .missing _ => "missing object"
  | .turn _ => "repetition object"
  | .rangeMaker => "type object"

/-! ## Uses of a value -/

def display : Value → Except Fault String
  | .known document =>
    match document.display? with
    | some text => .ok text
    | none => .error .unwritable
  | .missing gap => .error (.missing gap)
  | .range first last =>
    match Decimal.wholeText? first, Decimal.wholeText? last with
    | some first, some last => .ok s!"range({first}, {last})"
    | _, _ => .error .unwritable
  | .turn repetition => .ok s!"<LoopContext {repetition.passed + 1}/{repetition.count}>"
  | .rangeMaker => .ok "<class 'range'>"

def isTrue : Value → Except Fault Bool
  | .known document => .ok (!document.isEmpty)
  | .missing gap => .error (.missing gap)
  | .range first last => .ok (decide (first < last))
  | .turn _ | .rangeMaker => .ok true

def items : Value → Except Fault (List Value)
  | .known (.list items) => .ok (items.map .known)
  | .known (.text text) => .ok (text.toList.map fun c => .text (String.singleton c))
  | .known (.object fields) => .ok (fields.map fun (name, _) => .text name)
  | .missing gap => .error (.missing gap)
  | .range first last => .ok ((integers first last).map .int)
  | _ => .error .mismatch

def length (value : Value) : Except Fault Nat :=
  match value with
  | .turn repetition => .ok repetition.count
  | value => List.length <$> value.items

def same : Value → Value → Except Fault Bool
  | .missing gap, _ | _, .missing gap => .error (.missing gap)
  | .known left, .known right => .ok (left.same right)
  | .range first last, .range first' last' =>
    .ok (integers first last == integers first' last')
  | .turn left, .turn right => .ok (left == right)
  | .rangeMaker, .rangeMaker => .ok true
  | _, _ => .ok false

/-! ## Looking up -/

/-- What is known of a repetition under a name. -/
def ofRepetition? (repetition : Repetition) : String → Option Value
  | "index" => some (.int (repetition.passed + 1))
  | "index0" => some (.int repetition.passed)
  | "first" => some (.bool (repetition.passed == 0))
  | "last" => some (.bool (repetition.passed + 1 == repetition.count))
  | "length" => some (.int repetition.count)
  | _ => none

def field (owner : Value) (name : String) : Except Fault Value :=
  match owner with
  | .missing gap => .error (.missing gap)
  | .known (.object fields) =>
    match fields.lookup name with
    | some value => .ok (.known value)
    | none => .ok (.missing (.attribute owner.kindName name))
  | .turn repetition =>
    .ok ((ofRepetition? repetition name).getD (.missing (.attribute owner.kindName name)))
  | owner => .ok (.missing (.attribute owner.kindName name))

/-- The element at a position; positions below zero count from the end. -/
def atPosition? (items : List Value) (position : Int) : Option Value :=
  let position := if position < 0 then position + items.length else position
  if position < 0 then none else items[position.toNat]?

def position? : Document → Option Int
  | .int value => some value
  | .bool value => some (if value then 1 else 0)
  | _ => none

/-- The value at an index of another.  A missing value is no position, but it cannot be looked for
among the names of an object either. -/
def item (owner index : Value) : Except Fault Value :=
  match owner, index with
  | .missing gap, _ => .error (.missing gap)
  | .known (.object _), .missing gap => .error (.missing gap)
  | owner, .missing _ => .ok (.missing (.element owner.kindName (some "Undefined")))
  | owner, .known (.text name) => owner.field name
  | .known (.object _), index => absent owner index
  | .turn _, index | .rangeMaker, index => absent owner index
  | owner, .known index =>
    match position? index, owner.items with
    | some position, .ok items =>
      match atPosition? items position with
      | some found => .ok found
      | none => absent owner (.known index)
    | _, _ => absent owner (.known index)
  | owner, index => absent owner index
where
  absent (owner index : Value) : Except Fault Value :=
    match index with
    | .known index => .ok (.missing (.element owner.kindName index.literal?))
    | index => do .ok (.missing (.element owner.kindName (some (← index.display))))

/-! ## Arithmetic -/

def Numeral.double : Document.Numeral → Float
  | .whole n => Float.ofInt n
  | .double x => x

/-- The quotient of two numbers, which is always a double. -/
def divided : Document.Numeral → Document.Numeral → Except Fault Float
  | .whole m, .whole n =>
    if n = 0 then .error .divisionByZero
    else
      let size := Decimal.quotient m.natAbs n.natAbs
      .ok (if (m < 0) != (n < 0) then -size else size)
  | x, y =>
    if Numeral.double y == 0 then .error .divisionByZero
    else .ok (Numeral.double x / Numeral.double y)

def quotient : Value → Value → Except Fault Value
  | .missing gap, _ | _, .missing gap => .error (.missing gap)
  | .known left, .known right =>
    match left.numeral?, right.numeral? with
    | some left, some right => (fun x => .known (.real x)) <$> divided left right
    | _, _ => .error .mismatch
  | _, _ => .error .mismatch

/-- The sum of two numbers, or two texts or lists one behind the other. -/
def sum : Value → Value → Except Fault Value
  | .missing gap, _ | _, .missing gap => .error (.missing gap)
  | .known (.text left), .known (.text right) => .ok (.text (left ++ right))
  | .known (.list left), .known (.list right) => .ok (.known (.list (left ++ right)))
  | .known left, .known right =>
    match left.numeral?, right.numeral? with
    | some (.whole m), some (.whole n) => .ok (.int (m + n))
    | some x, some y => .ok (.known (.real (Numeral.double x + Numeral.double y)))
    | _, _ => .error .mismatch
  | _, _ => .error .mismatch

end Value

end Stowage.Template
