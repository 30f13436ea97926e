import Stowage.Template.Evaluation

/-! # Rendering of templates

A template is read, checked for unknown filters and tests, and then written from the first statement
to the last.  Names that a statement gives are known to the statements behind it; a repetition
keeps them to itself, and a choice does not.
-/

namespace Stowage.Template

namespace Statement

mutual

/-- Unknown names in a statement.  What is written only under a condition is checked when it is
written. -/
def unknown? (conditional : Bool) : Statement → Option String
  | .plain _ => none
  | .output value | .define _ value => if conditional then none else value.unknown?
  | .choose _ yes no => firstUnknown? true yes <|> firstUnknown? true no
  | .each _ collection body otherwise =>
    (if conditional then none else collection.unknown?) <|>
      firstUnknown? false body <|> firstUnknown? false otherwise

def firstUnknown? (conditional : Bool) : List Statement → Option String
  | [] => none
  | statement :: statements =>
    statement.unknown? conditional <|> firstUnknown? conditional statements

end

mutual

/-- The text of a statement, and the scope behind it. -/
def render (scope : Scope) : Statement → Except Fault (List Char × Scope)
  | .plain text => .ok (text, scope)
  | .output value => do
    let value ← value.value scope
    let text ← value.display
    return (text.toList, scope)
  | .define name value => do
    let value ← value.value scope
    return ([], (name, value) :: scope)
  | .choose condition yes no => do
    let condition ← condition.value scope
    if ← condition.isTrue then renderAll scope yes else renderAll scope no
  | .each name collection body otherwise => do
    let collection ← collection.value scope
    let items ← collection.items
    match items with
    | [] =>
      let (text, _) ← renderAll scope otherwise
      return (text, scope)
    | items =>
      let texts ← items.zipIdx.mapM fun (item, passed) => do
        let turn : Value := .turn ⟨passed, items.length⟩
        let (text, _) ← renderAll ((name, item) :: ("loop", turn) :: scope) body
        return text
      return (texts.flatten, scope)

def renderAll (scope : Scope) : List Statement → Except Fault (List Char × Scope)
  | [] => .ok ([], scope)
  | statement :: statements => do
    let (first, scope) ← statement.render scope
    let (rest, scope) ← renderAll scope statements
    return (first ++ rest, scope)

end

end Statement

def render (context : Document.Fields) (template : String) : Except Fault String :=
  match Statement.ofText? template.toList with
  | none => .error .malformed
  | some statements =>
    match Statement.firstUnknown? false statements with
    | some name => .error (.unknown name)
    | none => do
      let (text, _) ← Statement.renderAll (Scope.ofContext context) statements
      return String.ofList text

end Stowage.Template
