import Stowage.Document.Basic
import Stowage.Template.Token

/-! # Expressions of templates

The tree of an expression, and how it is read from tokens.  From the weakest to the strongest bind:
`or`, `and`, `not`, comparisons, `+`, `~`, `/`, and then filters, tests and everything that is
looked up in a value or applied to one.
-/

namespace Stowage.Template

inductive Relation where
  | equal
  | different
deriving DecidableEq, Repr

inductive Expression where
  | constant (value : Document)
  | name (name : String)
  | list (items : List Expression)
  | attribute (owner : Expression) (name : String)
  | item (owner index : Expression)
  | call (function : Expression) (arguments : List Expression)
  | filter (value : Expression) (name : String) (arguments : List Expression)
  | test (value : Expression) (name : String)
  | quotient (left right : Expression)
  /-- Values written one behind the other. -/
  | joined (parts : List Expression)
  | sum (left right : Expression)
  /-- A chain of comparisons, each with the next value. -/
  | compared (first : Expression) (others : List (Relation × Expression))
  | not (condition : Expression)
  | and (left right : Expression)
  | or (left right : Expression)

namespace Expression

def constant? (word : String) : Option Document :=
  if word = "true" ∨ word = "True" then some (.bool true)
  else if word = "false" ∨ word = "False" then some (.bool false)
  else if word = "none" ∨ word = "None" then some .null
  else none

def ofWord (word : String) : Expression :=
  match constant? word with
  | some value => .constant value
  | none => .name word

def double (number : Decimal) : Float :=
  Float.ofScientific number.digits (number.exponent < 0) number.exponent.natAbs

def relation? : Token → Option Relation
  | .sign .equal => some .equal
  | .sign .different => some .different
  | _ => none

/-- A value alone, or a chain of comparisons. -/
def comparison (first : Expression) : List (Relation × Expression) → Expression
  | [] => first
  | others => .compared first others

/-- A value alone, or values written one behind the other. -/
def row : List Expression → Expression
  | [part] => part
  | parts => .joined parts

mutual

def read? (tokens : List Token) : Option (Taken tokens Expression) := do
  let left ← conjunction? tokens
  match left.pop with
  | some ⟨(left, .word "or"), rest, shorter⟩ =>
    let right ← read? rest
    some ((right.map (.or left)).within (Nat.le_of_lt shorter))
  | _ => some left
termination_by 16 * tokens.length + 9

def conjunction? (tokens : List Token) : Option (Taken tokens Expression) := do
  let left ← negation? tokens
  match left.pop with
  | some ⟨(left, .word "and"), rest, shorter⟩ =>
    let right ← conjunction? rest
    some ((right.map (.and left)).within (Nat.le_of_lt shorter))
  | _ => some left
termination_by 16 * tokens.length + 8

def negation? (tokens : List Token) : Option (Taken tokens Expression) :=
  match tokens with
  | .word "not" :: rest => do
    let condition ← negation? rest
    some (condition.map .not).behind
  | tokens => do
    let first ← sum? tokens
    have _shorter := first.shorter
    let compared ← compared? ⟨[], first.rest, first.shorter⟩
    some (compared.map (comparison first.value))
termination_by 16 * tokens.length + 7

def compared? {tokens : List Token} (others : Taken tokens (List (Relation × Expression))) :
    Option (Taken tokens (List (Relation × Expression))) :=
  match equation : others.rest with
  | [] => some others
  | token :: behind =>
    match relation? token with
    | none => some others
    | some relation => do
      have entered : behind.length < others.rest.length := by
        rw [equation, List.length_cons]
        omega
      let ⟨next, rest, shorter⟩ ← sum? behind
      have bound := Nat.lt_trans shorter entered
      compared? ⟨others.value ++ [(relation, next)], rest, Nat.lt_trans bound others.shorter⟩
termination_by 16 * others.rest.length + 10

def sum? (tokens : List Token) : Option (Taken tokens Expression) := do
  let first ← parts? tokens
  have _shorter := first.shorter
  added? ⟨row first.value, first.rest, first.shorter⟩
termination_by 16 * tokens.length + 6

def added? {tokens : List Token} (left : Taken tokens Expression) :
    Option (Taken tokens Expression) :=
  match equation : left.rest with
  | .sign .plus :: behind => do
    have entered : behind.length < left.rest.length := by
      rw [equation, List.length_cons]
      omega
    let ⟨right, rest, shorter⟩ ← parts? behind
    have bound := Nat.lt_trans shorter entered
    added? ⟨.sum left.value (row right), rest, Nat.lt_trans bound left.shorter⟩
  | _ => some left
termination_by 16 * left.rest.length + 10

/-- Values with tildes between them. -/
def parts? (tokens : List Token) : Option (Taken tokens (List Expression)) := do
  let first ← term? tokens
  have _shorter := first.shorter
  let first ← divided? first
  match first.pop with
  | some ⟨(first, .sign .tilde), rest, shorter⟩ =>
    let parts ← parts? rest
    some ((parts.map (first :: ·)).within (Nat.le_of_lt shorter))
  | _ => some (first.map ([·]))
termination_by 16 * tokens.length + 5

def divided? {tokens : List Token} (left : Taken tokens Expression) :
    Option (Taken tokens Expression) :=
  match equation : left.rest with
  | .sign .over :: behind => do
    have entered : behind.length < left.rest.length := by
      rw [equation, List.length_cons]
      omega
    let ⟨right, rest, shorter⟩ ← term? behind
    have bound := Nat.lt_trans shorter entered
    divided? ⟨.quotient left.value right, rest, Nat.lt_trans bound left.shorter⟩
  | _ => some left
termination_by 16 * left.rest.length + 10

/-- A value with all that is looked up in it and applied to it. -/
def term? (tokens : List Token) : Option (Taken tokens Expression) := do
  let head ← head? tokens
  have _shorter := head.shorter
  let selected ← selected? head
  have _shorter := selected.shorter
  applied? selected
termination_by 16 * tokens.length + 4

def head? (tokens : List Token) : Option (Taken tokens Expression) :=
  match tokens with
  | .word word :: _ => some (.one (ofWord word))
  | .whole value :: _ => some (.one (.constant (.int value)))
  | .fraction value :: _ => some (.one (.constant (.real (double value))))
  | .text value :: _ => some (.one (.constant (.text value)))
  | .sign .openRound :: rest => do
    let inner ← read? rest
    let closed ← inner.followedBy (.sign .closeRound)
    some closed.behind
  | .sign .openSquare :: rest => do
    let items ← items? .closeSquare rest
    some (items.map .list).behind
  | _ => none
termination_by 16 * tokens.length

/-- Goes on with what is looked up in a value, and with calls. -/
def selected? {tokens : List Token} (value : Taken tokens Expression) :
    Option (Taken tokens Expression) :=
  match equation : value.rest with
  | .sign .dot :: .word word :: rest =>
    have bound : rest.length < value.rest.length := by
      rw [equation, List.length_cons, List.length_cons]
      omega
    selected? ⟨.attribute value.value word, rest, Nat.lt_trans bound value.shorter⟩
  | .sign .openSquare :: behind => do
    have entered : behind.length < value.rest.length := by
      rw [equation, List.length_cons]
      omega
    let index ← read? behind
    let ⟨index, rest, shorter⟩ ← index.followedBy (.sign .closeSquare)
    have bound := Nat.lt_trans shorter entered
    selected? ⟨.item value.value index, rest, Nat.lt_trans bound value.shorter⟩
  | .sign .openRound :: behind => do
    have entered : behind.length < value.rest.length := by
      rw [equation, List.length_cons]
      omega
    let ⟨arguments, rest, shorter⟩ ← items? .closeRound behind
    have bound := Nat.lt_trans shorter entered
    selected? ⟨.call value.value arguments, rest, Nat.lt_trans bound value.shorter⟩
  | _ => some value
termination_by 16 * value.rest.length + 12

def applied? {tokens : List Token} (value : Taken tokens Expression) :
    Option (Taken tokens Expression) :=
  match equation : value.rest with
  | .sign .bar :: .word word :: .sign .openRound :: behind => do
    have entered : behind.length < value.rest.length := by
      rw [equation, List.length_cons, List.length_cons, List.length_cons]
      omega
    let ⟨arguments, rest, shorter⟩ ← items? .closeRound behind
    have bound := Nat.lt_trans shorter entered
    applied? ⟨.filter value.value word arguments, rest, Nat.lt_trans bound value.shorter⟩
  | .sign .bar :: .word word :: rest =>
    have bound : rest.length < value.rest.length := by
      rw [equation, List.length_cons, List.length_cons]
      omega
    applied? ⟨.filter value.value word [], rest, Nat.lt_trans bound value.shorter⟩
  | .word "is" :: .word "not" :: .word word :: rest =>
    have bound : rest.length < value.rest.length := by
      rw [equation, List.length_cons, List.length_cons, List.length_cons]
      omega
    applied? ⟨.not (.test value.value word), rest, Nat.lt_trans bound value.shorter⟩
  | .word "is" :: .word "not" :: _ => none
  | .word "is" :: .word word :: rest =>
    have bound : rest.length < value.rest.length := by
      rw [equation, List.length_cons, List.length_cons]
      omega
    applied? ⟨.test value.value word, rest, Nat.lt_trans bound value.shorter⟩
  | _ => some value
termination_by 16 * value.rest.length + 12

/-- Expressions between commas, up to a closing sign.  A comma may stand behind the last. -/
def items? (close : Sign) (tokens : List Token) : Option (Taken tokens (List Expression)) :=
  match tokens with
  | [] => none
  | first :: rest =>
    if first = .sign close then some (.one [])
    else do
      let item ← read? (first :: rest)
      match item.pop with
      | some ⟨(item, .sign .comma), behind, shorter⟩ =>
        have _bound : behind.length < rest.length + 1 := shorter
        let items ← items? close behind
        some ((items.map (item :: ·)).within (Nat.le_of_lt shorter))
      | some ⟨(item, next), behind, shorter⟩ =>
        if next = .sign close then some ⟨[item], behind, shorter⟩ else none
      | none => none
termination_by 16 * tokens.length + 11

end

def ofTokens? (tokens : List Token) : Option Expression :=
  match read? tokens with
  | some ⟨expression, [], _⟩ => some expression
  | _ => none

end Expression

end Stowage.Template
