import Stowage.Template.Statement
import Stowage.Template.Value

/-! # Evaluation of expressions

An expression is evaluated in a scope.  Names that the scope does not give are missing, except for
the one function that every template knows.
-/

namespace Stowage.Template

/-- The values of names, the innermost first. -/
abbrev Scope := List (String × Value)

namespace Scope

def ofContext (context : Document.Fields) : Scope :=
  context.map fun (name, document) => (name, .known document)

def value (scope : Scope) (name : String) : Value :=
  match scope.lookup name with
  | some value => value
  | none => if name = "range" then .rangeMaker else .missing (.name name)

end Scope

/-! ## Filters, tests and functions -/

inductive Filter where
  | standard
  | upper
  | join
  | length
deriving DecidableEq, Repr

namespace Filter

def ofName? : String → Option Filter
  | "default" | "d" => some .standard
  | "upper" => some .upper
  | "join" => some .join
  | "length" | "count" => some .length
  | _ => none

/-- A replacement for a missing value, and on demand for one that counts as false. -/
def replaced (value replacement : Value) (falseToo : Bool) : Except Fault Value :=
  match value with
  | .missing _ => .ok replacement
  | value => do
    if falseToo && !(← value.isTrue) then .ok replacement else .ok value

/-- The items of a value written one behind the other, with a separator between them. -/
def joined (separator value : Value) : Except Fault Value := do
  let items ← value.items
  let separator ← separator.display
  let texts ← items.mapM Value.display
  return .text (String.intercalate separator texts)

def apply (filter : Filter) (value : Value) (arguments : List Value) : Except Fault Value :=
  match filter, arguments with
  | .standard, [] => replaced value (.text "") false
  | .standard, [replacement] => replaced value replacement false
  | .standard, [replacement, falseToo] => do replaced value replacement (← falseToo.isTrue)
  | .upper, [] => do
    let text ← value.display
    return .text (String.ofList (Text.upper text.toList))
  | .join, [] => joined (.text "") value
  | .join, [separator] => joined separator value
  | .length, [] => do return .int (← value.length)
  | _, _ => .error .mismatch

end Filter

inductive Test where
  | defined
  | undefined
deriving DecidableEq, Repr

namespace Test

def ofName? : String → Option Test
  | "defined" => some .defined
  | "undefined" => some .undefined
  | _ => none

def holds : Test → Value → Bool
  | .defined, .missing _ => false
  | .defined, _ => true
  | .undefined, .missing _ => true
  | .undefined, _ => false

end Test

def Value.call (function : Value) (arguments : List Value) : Except Fault Value :=
  match function, arguments with
  | .missing gap, _ => .error (.missing gap)
  | .rangeMaker, [.known last] =>
    match position? last with
    | some last => .ok (.range 0 last)
    | none => .error .mismatch
  | .rangeMaker, [.known first, .known last] =>
    match position? first, position? last with
    | some first, some last => .ok (.range first last)
    | _, _ => .error .mismatch
  | _, _ => .error .mismatch

/-! ## Expressions -/

def documents : List Value → Except Fault (List Document)
  | [] => .ok []
  | .known document :: values => (document :: ·) <$> documents values
  | .missing gap :: _ => .error (.missing gap)
  | _ :: _ => .error .mismatch

/-- Whether each value has the relation to the next, up to the first that does not. -/
def chained (first : Value) : List (Relation × Except Fault Value) → Except Fault Bool
  | [] => .ok true
  | (relation, next) :: others => do
    let next ← next
    let equal ← first.same next
    if equal == decide (relation = .equal) then chained next others else .ok false

namespace Expression

mutual

def value (scope : Scope) : Expression → Except Fault Value
  | .constant document => .ok (.known document)
  | .name word => .ok (scope.value word)
  | .list items => do
    let values ← values scope items
    return .known (.list (← documents values))
  | .attribute owner word => do (← owner.value scope).field word
  | .item owner index => do
    let owner ← owner.value scope
    let index ← index.value scope
    owner.item index
  | .call function arguments => do
    let function ← function.value scope
    let arguments ← values scope arguments
    function.call arguments
  | .filter operand word arguments => do
    let operand ← operand.value scope
    let arguments ← values scope arguments
    match Filter.ofName? word with
    | some known => known.apply operand arguments
    | none => .error (.unknownInUse word)
  | .test operand word => do
    let operand ← operand.value scope
    match Test.ofName? word with
    | some known => return .bool (known.holds operand)
    | none => .error (.unknownInUse word)
  | .quotient left right => do
    let left ← left.value scope
    let right ← right.value scope
    left.quotient right
  | .joined parts => do
    let values ← values scope parts
    let texts ← values.mapM Value.display
    return .text (String.join texts)
  | .sum left right => do
    let left ← left.value scope
    let right ← right.value scope
    left.sum right
  | .compared first others => do
    let first ← first.value scope
    return .bool (← chained first (related scope others))
  | .not condition => do return .bool (!(← (← condition.value scope).isTrue))
  | .and left right => do
    let left ← left.value scope
    if ← left.isTrue then right.value scope else .ok left
  | .or left right => do
    let left ← left.value scope
    if ← left.isTrue then .ok left else right.value scope

def values (scope : Scope) : List Expression → Except Fault (List Value)
  | [] => .ok []
  | expression :: others => do
    let first ← expression.value scope
    let rest ← values scope others
    return first :: rest

def related (scope : Scope) :
    List (Relation × Expression) → List (Relation × Except Fault Value)
  | [] => []
  | (relation, expression) :: others =>
    (relation, expression.value scope) :: related scope others

end

/-! ## Unknown names -/

mutual

/-- The first filter or test of an expression whose name is unknown. -/
def unknown? : Expression → Option String
  | .constant _ | .name _ => none
  | .list items | .joined items => firstUnknown? items
  | .attribute owner _ => owner.unknown?
  | .item left right | .quotient left right | .sum left right | .and left right
  | .or left right => left.unknown? <|> right.unknown?
  | .call function arguments => function.unknown? <|> firstUnknown? arguments
  | .filter operand word arguments =>
    match Filter.ofName? word with
    | some _ => operand.unknown? <|> firstUnknown? arguments
    | none => some word
  | .test operand word =>
    match Test.ofName? word with
    | some _ => operand.unknown?
    | none => some word
  | .compared first others => first.unknown? <|> firstUnknownCompared? others
  | .not condition => condition.unknown?

def firstUnknown? : List Expression → Option String
  | [] => none
  | first :: rest => first.unknown? <|> firstUnknown? rest

def firstUnknownCompared? : List (Relation × Expression) → Option String
  | [] => none
  | (_, expression) :: others => expression.unknown? <|> firstUnknownCompared? others

end

end Expression

end Stowage.Template
