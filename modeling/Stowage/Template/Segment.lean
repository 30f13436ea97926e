import Stowage.Template.Token

/-! # Segments of a template

A template is plain text with marks in it: outputs between doubled braces, tags between braces and
percent signs, comments between braces and number signs.  A hyphen inside a mark takes away the
blanks on its side.  Between the tags `raw` and `endraw` all marks are plain text.
-/

namespace Stowage.Template

inductive Segment where
  | plain (text : List Char)
  | output (tokens : List Token)
  | tag (tokens : List Token)
  | finish
deriving DecidableEq, Repr

inductive Opening where
  | output
  | tag
  | comment
deriving DecidableEq, Repr

/-- How an opening mark treats the blanks before it. -/
inductive Trim where
  | keep
  | strip
deriving DecidableEq, Repr

namespace Trim

/-- The sign for blanks behind an opening mark, and the text behind it. -/
def ofMark : (text : List Char) → Trim × { rest : List Char // rest.length ≤ text.length }
  | '-' :: rest => (.strip, ⟨rest, Nat.le_succ _⟩)
  | '+' :: rest => (.keep, ⟨rest, Nat.le_succ _⟩)
  | text => (.keep, ⟨text, Nat.le_refl _⟩)

def apply : Trim → List Char → List Char
  | .keep, text => text
  | .strip, text => Text.withoutFinalBlanks text

end Trim

namespace Segment

def opening? : Char → Option Opening
  | '\x7b' => some .output
  | '%' => some .tag
  | '#' => some .comment
  | _ => none

/-- The plain text before the first opening mark, and what the mark opens. -/
def upToMark? : (text : List Char) → Option (Taken text (List Char × Opening))
  | [] => none
  | first :: rest =>
    match if first = '\x7b' then rest.head?.bind opening? else none with
    | some opening => some (.upTo ([], opening) (rest.drop 1) (List.drop_sublist _ _).length_le)
    | none => (upToMark? rest).map fun taken =>
        (taken.map fun (before, opening) => (first :: before, opening)).behind

/-! ## Closing marks -/

/-- A brace behind a character, which closes a mark that the character opened. -/
def closing? (mark : Char) : (text : List Char) → Option (Taken text Unit)
  | first :: '\x7d' :: _ => if first = mark then some (.two ()) else none
  | _ => none

/-- A closing mark with its sign for blanks.  The sign that keeps blanks has no place at the end
of an output. -/
def closed? (mark : Char) (text : List Char) : Option (Taken text Unit) :=
  match text with
  | '-' :: rest =>
    (closing? mark rest).map fun taken =>
      (taken.skipping Text.withoutBlanks Text.length_withoutBlanks_le).behind
  | '+' :: rest => if mark = '%' then (closing? mark rest).map .behind else none
  | text => closing? mark text

def tokens? (mark : Char) (text : List Char) : Option (Taken text (List Token)) :=
  match text with
  | [] => none
  | c :: rest =>
    match closed? mark (c :: rest) with
    | some taken => some (taken.map fun _ => [])
    | none =>
      if Text.isBlank c then
        (tokens? mark rest).map .behind
      else
        match Token.next? (c :: rest) with
        | none => none
        | some ⟨token, behind, shorter⟩ =>
          have _bound : behind.length < rest.length + 1 := shorter
          (tokens? mark behind).map fun taken =>
            (taken.map (token :: ·)).within (Nat.le_of_lt shorter)
termination_by text.length

def comment? : (text : List Char) → Option (Taken text Unit)
  | '-' :: '#' :: '\x7d' :: _ =>
    some ((Taken.two ()).skipping Text.withoutBlanks Text.length_withoutBlanks_le).behind
  | '#' :: '\x7d' :: _ => some (.two ())
  | _ :: rest => (comment? rest).map .behind
  | [] => none

/-! ## Raw text -/

/-- A tag that is only the given word, behind its opening mark. -/
def wordTag? (word : List Char) (text : List Char) : Option (Taken text Unit) :=
  let inside := Text.withoutBlanks text
  if word.isPrefixOf inside then
    let behind := Text.withoutBlanks (inside.drop word.length)
    have bound : behind.length ≤ text.length :=
      Nat.le_trans (Text.length_withoutBlanks_le _)
        (Nat.le_trans (List.drop_sublist _ _).length_le (Text.length_withoutBlanks_le _))
    (closed? '%' behind).map fun taken => taken.within bound
  else none

/-- The text up to the tag that ends raw text, and how that tag treats the blanks before it. -/
def raw? : (text : List Char) → Option (Taken text (List Char × Trim))
  | [] => none
  | first :: rest =>
    match endTag? first rest with
    | some taken => some (taken.map fun trim => ([], trim))
    | none => (raw? rest).map fun taken =>
        (taken.map fun (text, trim) => (first :: text, trim)).behind
where
  endTag? (first : Char) : (rest : List Char) → Option (Taken (first :: rest) Trim)
    | '%' :: rest =>
      if first = '\x7b' then
        let (trim, ⟨inside, bound⟩) := Trim.ofMark rest
        (wordTag? "endraw".toList inside).map fun taken =>
          ((taken.map fun _ => trim).within bound).behind.behind
      else none
    | _ => none

/-! ## Whole templates -/

def ofChars? (text : List Char) : Option (List Segment) :=
  match upToMark? text with
  | none => some [.plain text, .finish]
  | some ⟨(before, opening), behind, _⟩ =>
    let (trim, ⟨inside, _⟩) := Trim.ofMark behind
    let plain := plain (trim.apply before)
    match opening with
    | .comment =>
      match comment? inside with
      | none => none
      | some ⟨_, rest, _⟩ => (ofChars? rest).map (plain :: ·)
    | .output =>
      match tokens? '\x7d' inside with
      | none => none
      | some ⟨tokens, rest, _⟩ => (ofChars? rest).map ([plain, .output tokens] ++ ·)
    | .tag =>
      match wordTag? "raw".toList inside with
      | some ⟨_, inner, _⟩ =>
        match raw? inner with
        | none => none
        | some ⟨(text, trim), rest, _⟩ =>
          (ofChars? rest).map ([plain, .plain (trim.apply text)] ++ ·)
      | none =>
        match tokens? '%' inside with
        | none => none
        | some ⟨tokens, rest, _⟩ => (ofChars? rest).map ([plain, .tag tokens] ++ ·)
termination_by text.length

end Segment

end Stowage.Template
