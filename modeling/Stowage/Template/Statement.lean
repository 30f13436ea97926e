import Stowage.Template.Expression
import Stowage.Template.Segment

/-! # Statements of templates

The tree of a template, and how it is read from segments.
-/

namespace Stowage.Template

inductive Statement where
  | plain (text : List Char)
  | output (value : Expression)
  | define (name : String) (value : Expression)
  | choose (condition : Expression) (yes no : List Statement)
  /-- Repeats statements for every item of a collection; others stand for an empty one. -/
  | each (name : String) (collection : Expression) (body otherwise : List Statement)

/-- A tag that ends a row of statements. -/
inductive Closing where
  | finish
  | otherwise
  | otherwiseIf (condition : Expression)
  | endChoice
  | endRepetition

inductive Tag where
  | closing (closing : Closing)
  | define (name : String) (value : Expression)
  | choice (condition : Expression)
  | repetition (name : String) (collection : Expression)

namespace Tag

def ofTokens? : List Token → Option Tag
  | [.word "else"] => some (.closing .otherwise)
  | [.word "endif"] => some (.closing .endChoice)
  | [.word "endfor"] => some (.closing .endRepetition)
  | .word "elif" :: condition =>
    (Expression.ofTokens? condition).map fun condition => .closing (.otherwiseIf condition)
  | .word "if" :: condition => (Expression.ofTokens? condition).map .choice
  | .word "set" :: .word name :: .sign .assign :: value =>
    (Expression.ofTokens? value).map (.define name)
  | .word "for" :: .word name :: .word "in" :: collection =>
    (Expression.ofTokens? collection).map (.repetition name)
  | _ => none

end Tag

namespace Statement

mutual

/-- Statements up to the tag that ends them, and that tag. -/
def row? (segments : List Segment) : Option (Taken segments (List Statement × Closing)) :=
  match segments with
  | [] => none
  | .finish :: _ => some (.one ([], .finish))
  | .plain text :: rest => do
    let row ← row? rest
    some (row.map fun (statements, closing) => (.plain text :: statements, closing)).behind
  | .output tokens :: rest => do
    let value ← Expression.ofTokens? tokens
    let row ← row? rest
    some (row.map fun (statements, closing) => (.output value :: statements, closing)).behind
  | .tag tokens :: rest => do
    match ← Tag.ofTokens? tokens with
    | .closing closing => some (.one ([], closing))
    | .define name value =>
      let row ← row? rest
      some (row.map fun (statements, closing) => (.define name value :: statements, closing)).behind
    | .choice condition =>
      let choice ← choice? condition rest
      have shorter := choice.shorter
      let row ← row? choice.rest
      some ((row.map fun (statements, closing) => (choice.value :: statements, closing)).within
        (Nat.le_of_lt shorter)).behind
    | .repetition name collection =>
      let ⟨(body, closing), rest', shorter⟩ ← row? rest
      match closing with
      | .endRepetition =>
        let row ← row? rest'
        some ((row.map fun (statements, closing) =>
          (.each name collection body [] :: statements, closing)).within
          (Nat.le_of_lt shorter)).behind
      | .otherwise =>
        let ⟨(otherwise, closing), rest'', shorter'⟩ ← row? rest'
        match closing with
        | .endRepetition =>
          let row ← row? rest''
          some ((row.map fun (statements, closing) =>
            (.each name collection body otherwise :: statements, closing)).within
            (Nat.le_of_lt (Nat.lt_trans shorter' shorter))).behind
        | _ => none
      | _ => none
termination_by 2 * segments.length

/-- A choice behind its condition. -/
def choice? (condition : Expression) (segments : List Segment) :
    Option (Taken segments Statement) := do
  let ⟨(yes, closing), rest, shorter⟩ ← row? segments
  match closing with
  | .endChoice => some ⟨.choose condition yes [], rest, shorter⟩
  | .otherwiseIf other =>
    let inner ← choice? other rest
    some ((inner.map fun inner => .choose condition yes [inner]).within (Nat.le_of_lt shorter))
  | .otherwise =>
    let ⟨(no, closing), rest', shorter'⟩ ← row? rest
    match closing with
    | .endChoice => some ⟨.choose condition yes no, rest', Nat.lt_trans shorter' shorter⟩
    | _ => none
  | _ => none
termination_by 2 * segments.length + 1

end

def ofText? (text : List Char) : Option (List Statement) := do
  let segments ← Segment.ofChars? text
  let ⟨(statements, closing), _, _⟩ ← row? segments
  match closing with
  | .finish => some statements
  | _ => none

end Statement

end Stowage.Template
