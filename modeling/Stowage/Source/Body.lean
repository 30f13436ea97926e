import Stowage.Source.Value

/-! # Bodies

A body holds attributes and blocks; a whole file is a body.  As a document, a body is an object in
which an attribute is a field and the blocks of one kind are the items of a list.  The labels of a
block nest: each is the only field of an object that the next one fills.
-/

namespace Stowage.Source

inductive Member where
  | attribute (name : String) (value : Expression)
  | block (kind : String) (labels : List String) (body : List Member)

namespace Body

/-! ## Reading -/

/-- The labels of a block, and the brace that opens it. -/
def labels? : (tokens : List Token) → Option (Taken tokens (List String))
  | .word name :: rest =>
    (labels? rest).map fun taken => (taken.map (name :: ·)).behind
  | .quoted text :: rest =>
    (labels? rest).map fun taken => (taken.map (text :: ·)).behind
  | .lineEnd :: .opening .curly :: _ => some (.two [])
  | .opening .curly :: _ => some (.one [])
  | _ => none

def read? (tokens : List Token) : Option (Taken tokens (List Member)) :=
  match Expression.afterLineEnd tokens, Expression.length_afterLineEnd_le tokens with
  | .closing .curly :: rest, bound => some ⟨[], rest, bound⟩
  | .word name :: .assign :: rest, bound => do
    have entered : rest.length + 1 < tokens.length := bound
    let value ← Expression.read? rest
    have shorter := value.shorter
    let members ← read? value.rest
    some ((members.map (.attribute name value.value :: ·)).within (by omega))
  | .word kind :: rest, bound => do
    have entered : rest.length < tokens.length := bound
    let labels ← labels? rest
    have shorter := labels.shorter
    let body ← read? labels.rest
    have shorter' := body.shorter
    let members ← read? body.rest
    some ((members.map (.block kind labels.value body.value :: ·)).within (by omega))
  | _, _ => none
termination_by tokens.length

/-! ## Documents -/

/-- What a name stands for in a body. -/
inductive Entry where
  | attribute (value : Document)
  | blocks (bodies : List Document)

def Entry.document : Entry → Document
  | .attribute value => value
  | .blocks bodies => .list bodies

/-- What a member adds to its body. -/
inductive Addition where
  | attribute (name : String) (value : Document)
  | block (kind : String) (body : Document)

/-- Adds a member.  Only blocks of one kind may share a name. -/
def add (addition : Addition) : List (String × Entry) → Except Fault (List (String × Entry))
  | [] =>
    match addition with
    | .attribute name value => .ok [(name, .attribute value)]
    | .block kind body => .ok [(kind, .blocks [body])]
  | (other, entry) :: entries =>
    match addition, entry with
    | .block kind body, .blocks bodies =>
      if other = kind then .ok ((other, .blocks (bodies ++ [body])) :: entries)
      else ((other, entry) :: ·) <$> add addition entries
    | .block kind _, .attribute _ =>
      if other = kind then .error (.repeated kind)
      else ((other, entry) :: ·) <$> add addition entries
    | .attribute name _, _ =>
      if other = name then .error (.repeated name)
      else ((other, entry) :: ·) <$> add addition entries

def assemble (additions : List Addition) : Except Fault Document := do
  let entries ← additions.foldlM (fun entries addition => add addition entries) []
  return .object (entries.map fun (name, entry) => (name, entry.document))

/-- Objects in each other, one for each label, around a body. -/
def nest (labels : List String) (body : Document) : Document :=
  labels.foldr (fun label inner => .object [(label, inner)]) body

mutual

/-- What each member adds.  Inner bodies come first, so their faults are found first. -/
def additions : List Member → Except Fault (List Addition)
  | [] => .ok []
  | member :: members => do
    let first ← addition member
    let rest ← additions members
    return first :: rest

def addition : Member → Except Fault Addition
  | .attribute name value => return .attribute name (← value.value).document
  | .block kind labels body => do
    let inner ← additions body
    let inner ← assemble inner
    return .block kind (nest labels inner)

end

def ofFile (text : String) : Except Fault Document :=
  match Token.ofChars? (text.toList ++ ['\n']) with
  | none => .error .malformed
  | some tokens =>
    match read? (tokens ++ [.closing .curly]) with
    | some ⟨members, [], _⟩ => additions members >>= assemble
    | _ => .error .malformed

end Body

end Stowage.Source
