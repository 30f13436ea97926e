import Stowage.Document.Basic
import Stowage.Logged
import Stowage.Text.WordChar

/-! # References in attributes

A text may refer to an environment variable as `${env.NAME}` and to the working directory as
`${CWD}`.  The text is first cut into references and plain characters, and all references are
then replaced at once, so that what is put in is never read again.
-/

namespace Stowage

/-- What references are replaced from. -/
structure Surroundings where
  environment : List (String × String) := []
  directory : String := "/work"

inductive Reference where
  /-- `${env.NAME}` -/
  | variable (name : String)
  /-- `${NAME}` -/
  | plain (name : String)
deriving DecidableEq, Repr

inductive Piece where
  | char (c : Char)
  | reference (reference : Reference)
deriving DecidableEq, Repr

namespace Reference

open Text

def text : Reference → List Char
  | .variable name => "$\x7benv.".toList ++ name.toList ++ ['\x7d']
  | .plain name => "$\x7b".toList ++ name.toList ++ ['\x7d']

/-- A name that a closing brace follows, and the text behind the brace. -/
def closedName? (text : List Char) : Option (List Char × List Char) :=
  let name := text.takeWhile isWordChar
  match text.dropWhile isWordChar with
  | '\x7d' :: rest => if name.isEmpty then none else some (name, rest)
  | _ => none

def afterEnv? : List Char → Option (List Char)
  | 'e' :: 'n' :: 'v' :: '.' :: rest => some rest
  | _ => none

def atHead? : List Char → Option (Reference × List Char)
  | '$' :: '\x7b' :: rest =>
    match afterEnv? rest with
    | some rest =>
      (closedName? rest).map fun (name, rest) => (.variable (String.ofList name), rest)
    | none => (closedName? rest).map fun (name, rest) => (.plain (String.ofList name), rest)
  | _ => none

theorem closedName?_shorter {text name rest : List Char}
    (found : closedName? text = some (name, rest)) : rest.length < text.length := by
  unfold closedName? at found
  have bound : (text.dropWhile isWordChar).length ≤ text.length :=
    (List.dropWhile_sublist _).length_le
  split at found
  · next tail shape =>
      dsimp only at found
      split at found
      · contradiction
      · simp only [Option.some.injEq, Prod.mk.injEq] at found
        rw [shape, List.length_cons] at bound
        rw [← found.2]
        omega
  · contradiction

theorem afterEnv?_shorter {text rest : List Char} (found : afterEnv? text = some rest) :
    rest.length < text.length := by
  unfold afterEnv? at found
  split at found
  · simp only [Option.some.injEq] at found
    simp [← found]
    omega
  · contradiction

theorem atHead?_shorter {text rest : List Char} {reference : Reference}
    (found : atHead? text = some (reference, rest)) : rest.length < text.length := by
  unfold atHead? at found
  split at found
  · next body =>
      split at found
      · next inner entered =>
          obtain ⟨⟨name, tail⟩, closed, same⟩ := Option.map_eq_some_iff.mp found
          have first := closedName?_shorter closed
          have second := afterEnv?_shorter entered
          simp only [Prod.mk.injEq] at same
          simp only [List.length_cons, ← same.2]
          omega
      · obtain ⟨⟨name, tail⟩, closed, same⟩ := Option.map_eq_some_iff.mp found
        have first := closedName?_shorter closed
        simp only [Prod.mk.injEq] at same
        simp only [List.length_cons, ← same.2]
        omega
  · contradiction

/-- What a reference is replaced by, and what is reported about it. -/
def expand (surroundings : Surroundings) : Reference → String × List Event
  | .variable name =>
    match surroundings.environment.lookup name with
    | some value => (value, [])
    | none => ("", [.unsetVariable name])
  | .plain "CWD" => (surroundings.directory, [])
  | .plain name => (String.ofList (text (.plain name)), [.unknownVariable name])

end Reference

namespace Piece

def text : Piece → List Char
  | .char c => [c]
  | .reference found => found.text

/-- Cuts a text into references and characters, from left to right. -/
def ofChars (text : List Char) : List Piece :=
  match _found : Reference.atHead? text with
  | some (head, rest) => .reference head :: ofChars rest
  | none =>
    match text with
    | [] => []
    | c :: rest => .char c :: ofChars rest
termination_by text.length
decreasing_by
  · exact Reference.atHead?_shorter ‹_›
  · simp

def expand (surroundings : Surroundings) : Piece → List Char × List Event
  | .char c => ([c], [])
  | .reference found =>
    let (value, events) := found.expand surroundings
    (value.toList, events)

end Piece

namespace Interpolation

def expandText {ε : Type} (surroundings : Surroundings) (text : String) : Logged ε String :=
  let expanded := (Piece.ofChars text.toList).map (Piece.expand surroundings)
  ⟨expanded.flatMap Prod.snd, .ok (String.ofList (expanded.flatMap Prod.fst))⟩

/-- Whether a reference is opened in a text, finished or not. -/
def opensReference : List Char → Bool
  | '$' :: '\x7b' :: _ => true
  | _ :: rest => opensReference rest
  | [] => false

/-- Replaces the references of a text, which is only cut where one is opened.  Other values, nested
texts among them, stay as they are. -/
def expand {ε : Type} (surroundings : Surroundings) : Document → Logged ε Document
  | .text text =>
    if opensReference text.toList then Document.text <$> expandText surroundings text
    else pure (.text text)
  | other => pure other

end Interpolation

end Stowage
