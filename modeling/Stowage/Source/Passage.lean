/-! # Passages

A passage is a text over several lines that a tag opens and closes.  Blanks and line ends before the
closing tag do not belong to it, and in an indented passage neither does the indentation that all
lines share.
-/

namespace Stowage.Source.Passage

def isTrailing (c : Char) : Bool :=
  c == '\n' || c == '\t' || c == ' '

def trimmed (text : List Char) : List Char :=
  (text.reverse.dropWhile isTrailing).reverse

/-- The lines of a text; an empty text is one empty line. -/
def lines : List Char → List (List Char)
  | [] => [[]]
  | c :: rest =>
    if c == '\n' then [] :: lines rest
    else match lines rest with
      | [] => [[c]]
      | line :: more => (c :: line) :: more

def indentation (line : List Char) : Nat :=
  (line.takeWhile (· == ' ')).length

/-- The smallest indentation of a text, empty lines included. -/
def sharedIndentation (text : List (List Char)) : Nat :=
  ((text.map indentation).min?).getD 0

def plain (text : List Char) : String :=
  String.ofList (trimmed text)

/-- A passage whose lines are moved to the left together. -/
def unindented (text : List Char) : String :=
  let text := lines (trimmed text)
  let shared := sharedIndentation text
  String.ofList (['\n'].intercalate (text.map fun line => line.drop shared))

end Stowage.Source.Passage
