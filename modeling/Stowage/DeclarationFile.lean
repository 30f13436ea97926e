import Stowage.Source.Body
import Stowage.Template.Rendering

/-! # Declaration files

A declaration file is a template whose text, once rendered, is a body of attributes and blocks.
-/

namespace Stowage.DeclarationFile

inductive Fault where
  /-- There is a directory in the place of the file. -/
  | isDirectory
  | notText
  | template (fault : Template.Fault)
  | source (fault : Source.Fault)
deriving DecidableEq, Repr

/-- The text with every line end as one line feed. -/
def unifyLineEnds : List Char → List Char
  | [] => []
  | '\r' :: '\n' :: rest => '\n' :: unifyLineEnds rest
  | '\r' :: rest => '\n' :: unifyLineEnds rest
  | c :: rest => c :: unifyLineEnds rest

def text? (content : ByteArray) : Option String :=
  (String.fromUTF8? content).map fun text => String.ofList (unifyLineEnds text.toList)

def load (context : Document.Fields) (content : ByteArray) : Except Fault Document :=
  match text? content with
  | none => .error .notText
  | some text => do
    let rendered ← (Template.render context text).mapError .template
    (Source.Body.ofFile rendered).mapError .source

def templateMessage (path : String) (fault : Template.Fault) : String :=
  s!"{path}: {fault.message}"

end Stowage.DeclarationFile
