import Stowage.Source.Token

/-! # Expressions of declaration files

The tree of an expression, and how it is read from tokens.  Declarations are not computed: an
expression that is no plain value becomes text again, so the tree keeps operators in the order in
which they are written and parentheses leave no trace in it.
-/

namespace Stowage.Source

inductive Key (ε : Type) where
  /-- A word that stands for itself. -/
  | named (name : String)
  | computed (expression : ε)

inductive Sign where
  | minus
  | not
deriving DecidableEq, Repr

def Sign.text : Sign → String
  | .minus => "-"
  | .not => "!"

inductive Expression where
  | word (name : String)
  | whole (digits : List Char)
  | fraction (digits places : List Char)
  /-- A text, as it is written between its quotes. -/
  | quoted (text : String)
  | tuple (items : List Expression)
  | object (fields : List (Key Expression × Expression))
  | call (function : String) (arguments : List Expression)
  | element (collection index : Expression)
  | member (owner : Expression) (name : String)
  | signed (sign : Sign) (operand : Expression)
  | binary (left : Expression) (operator : Operator) (right : Expression)
  | choice (condition yes no : Expression)

namespace Expression

def afterLineEnd : List Token → List Token
  | .lineEnd :: rest => rest
  | tokens => tokens

theorem length_afterLineEnd_le (tokens : List Token) :
    (afterLineEnd tokens).length ≤ tokens.length := by
  unfold afterLineEnd
  split
  · simp
  · exact Nat.le_refl _

/-- A value and the line end behind it, if there is one. -/
def withLineEnd {tokens : List Token} {α : Type} (taken : Taken tokens α) : Taken tokens α :=
  taken.skipping afterLineEnd length_afterLineEnd_le

def digits :
    (tokens : List Token) → List Char × { rest : List Token // rest.length ≤ tokens.length }
  | .digit digit :: tokens =>
    let (more, ⟨rest, bound⟩) := digits tokens
    (digit :: more, ⟨rest, by rw [List.length_cons]; omega⟩)
  | tokens => ([], ⟨tokens, Nat.le_refl _⟩)

/-- A number.  A point behind its digits has to begin its places. -/
def number? (first : Char) (tokens : List Token) :
    Option (Taken (.digit first :: tokens) Expression) :=
  let (more, ⟨rest, bound⟩) := digits tokens
  match rest, bound with
  | .dot :: behind, bound =>
    match digits behind with
    | ([], _) => none
    | (places, ⟨rest, bound'⟩) =>
      some ⟨.fraction (first :: more) places, rest, by
        simp only [List.length_cons] at bound ⊢
        omega⟩
  | rest, bound => some ⟨.whole (first :: more), rest, by rw [List.length_cons]; omega⟩

mutual

/-- Operands, joined by operators or chosen between. -/
def read? (tokens : List Token) : Option (Taken tokens Expression) := do
  let operand ← operand? tokens
  match operand.pop with
  | some ⟨(left, .operator operator), rest, shorter⟩ =>
    let right ← read? rest
    some ((right.map (.binary left operator)).within (Nat.le_of_lt shorter))
  | some ⟨(condition, .question), rest, shorter⟩ =>
    let yes ← read? rest
    let ⟨yes, rest', shorter'⟩ ← yes.followedBy .colon
    let no ← read? rest'
    some ((no.map (.choice condition yes)).within (by omega))
  | _ => some operand
termination_by 8 * tokens.length + 3

/-- A term, with at most one sign in front. -/
def operand? (tokens : List Token) : Option (Taken tokens Expression) :=
  match tokens with
  | .operator .minus :: rest => do
    let operand ← term? rest
    some (operand.map (.signed .minus)).behind
  | .not :: rest => do
    let operand ← term? rest
    some (operand.map (.signed .not)).behind
  | tokens => term? tokens
termination_by 8 * tokens.length + 2

/-- A term with all that is looked up in it. -/
def term? (tokens : List Token) : Option (Taken tokens Expression) := do
  let head ← head? tokens
  have _shorter := head.shorter
  selected? head
termination_by 8 * tokens.length + 1

/-- A term in which nothing is looked up yet. -/
def head? (tokens : List Token) : Option (Taken tokens Expression) :=
  match tokens with
  | .opening .round :: rest => do
    let inner ← read? rest
    let closed ← inner.followedBy (.closing .round)
    some closed.behind
  | .digit first :: rest => number? first rest
  | .quoted text :: _ => some (.one (.quoted text))
  | .passage text :: _ => some (.one (.quoted text))
  | .opening .square :: rest => do
    let items ← items? .square rest
    some (items.map .tuple).behind
  | .opening .curly :: rest => do
    have bound := length_afterLineEnd_le rest
    let fields ← fields? (afterLineEnd rest)
    some ((fields.map .object).within bound).behind
  | .word function :: .opening .round :: rest => do
    let arguments ← items? .round rest
    some (arguments.map (.call function)).behind.behind
  | .word name :: _ => some (.one (.word name))
  | _ => none
termination_by 8 * tokens.length

/-- Goes on with what is looked up in a term.  A position behind a point is its first digit. -/
def selected? {tokens : List Token} (term : Taken tokens Expression) :
    Option (Taken tokens Expression) :=
  match equation : term.rest with
  | .dot :: .word name :: rest =>
    have bound : rest.length < term.rest.length := by
      rw [equation, List.length_cons, List.length_cons]
      omega
    selected? ⟨.member term.value name, rest, Nat.lt_trans bound term.shorter⟩
  | .dot :: .digit digit :: others =>
    let (_, ⟨rest, shorter⟩) := digits others
    have bound : rest.length < term.rest.length := by
      rw [equation, List.length_cons, List.length_cons]
      omega
    selected? ⟨.element term.value (.whole [digit]), rest, Nat.lt_trans bound term.shorter⟩
  | .dot :: _ => none
  | .opening .square :: others => do
    have entered : others.length < term.rest.length := by
      rw [equation, List.length_cons]
      omega
    let index ← read? others
    let ⟨index, rest, shorter⟩ ← index.followedBy (.closing .square)
    have bound := Nat.lt_trans shorter entered
    selected? ⟨.element term.value index, rest, Nat.lt_trans bound term.shorter⟩
  | _ => some term
termination_by 8 * term.rest.length + 7

/-- Expressions between commas, up to a closing bracket.  A comma may stand behind the last. -/
def items? (bracket : Bracket) (tokens : List Token) : Option (Taken tokens (List Expression)) :=
  match afterLineEnd tokens, length_afterLineEnd_le tokens with
  | [], _ => none
  | first :: others, bound =>
    have entered : others.length < tokens.length := bound
    if first = .closing bracket then some ⟨[], others, entered⟩
    else do
      let item ← read? (first :: others)
      match (withLineEnd item).pop with
      | some ⟨(item, .comma), rest, shorter⟩ =>
        let items ← items? bracket rest
        some ((items.map (item :: ·)).within (by omega))
      | some ⟨(item, next), rest, shorter⟩ =>
        if next = .closing bracket then some ⟨[item], rest, by omega⟩ else none
      | none => none
termination_by 8 * tokens.length + 5

/-- Fields between line ends or commas, up to the closing brace. -/
def fields? (tokens : List Token) : Option (Taken tokens (List (Key Expression × Expression))) :=
  match tokens with
  | .closing .curly :: _ => some (.one [])
  | tokens => do
    let ⟨key, rest, shorter⟩ ← key? tokens
    let value ← read? rest
    match value.pop with
    | some ⟨(value, .closing .curly), rest', shorter'⟩ =>
      some ⟨[(key, value)], rest', by omega⟩
    | some ⟨(value, .lineEnd), rest', shorter'⟩ =>
      let fields ← fields? rest'
      some ((fields.map ((key, value) :: ·)).within (by omega))
    | some ⟨(value, .comma), rest', shorter'⟩ =>
      have bound := length_afterLineEnd_le rest'
      let fields ← fields? (afterLineEnd rest')
      some ((fields.map ((key, value) :: ·)).within (by omega))
    | _ => none
termination_by 8 * tokens.length + 6

def key? (tokens : List Token) : Option (Taken tokens (Key Expression)) :=
  match tokens with
  | .word name :: .assign :: _ => some (.two (.named name))
  | .word name :: .colon :: _ => some (.two (.named name))
  | tokens => do
    let key ← read? tokens
    match key.pop with
    | some ⟨(key, .assign), rest, shorter⟩ => some ⟨.computed key, rest, shorter⟩
    | some ⟨(key, .colon), rest, shorter⟩ => some ⟨.computed key, rest, shorter⟩
    | _ => none
termination_by 8 * tokens.length + 4

end

end Expression

end Stowage.Source
