import Stowage.Source.Passage
import Stowage.Taken
import Stowage.Text.Cut

/-! # Tokens of declaration files

Blanks, tabs and enclosed comments only separate tokens.  A line end is a token, because it
separates the members of an object; so is a comment that reaches to the end of its line, together
with that end.  Line ends that follow each other count as one.
-/

namespace Stowage.Source

inductive Operator where
  | equal
  | different
  | atMost
  | atLeast
  | less
  | greater
  | minus
  | plus
  | times
  | over
  | remainder
  | both
  | either
deriving DecidableEq, Repr

def Operator.text : Operator → String
  | .equal => "=="
  | .different => "!="
  | .atMost => "<="
  | .atLeast => ">="
  | .less => "<"
  | .greater => ">"
  | .minus => "-"
  | .plus => "+"
  | .times => "*"
  | .over => "/"
  | .remainder => "%"
  | .both => "&&"
  | .either => "||"

inductive Bracket where
  | round
  | square
  | curly
deriving DecidableEq, Repr

inductive Token where
  | lineEnd
  | word (name : String)
  /-- One digit: blanks may stand inside a number. -/
  | digit (digit : Char)
  /-- What stands between double quotes, as it is written. -/
  | quoted (text : String)
  | passage (text : String)
  | operator (operator : Operator)
  | opening (bracket : Bracket)
  | closing (bracket : Bracket)
  | assign
  | not
  | question
  | colon
  | comma
  | dot
deriving DecidableEq, Repr

namespace Token

/-! ## Character classes -/

def opensWord (c : Char) : Bool :=
  c.isAlpha || c == '_'

def continuesWord (c : Char) : Bool :=
  c.isAlphanum || c == '_' || c == '-'

def continuesTag (c : Char) : Bool :=
  c.isAlphanum || c == '.' || c == '_' || c == '-'

/-! ## Readers

Each reader takes one token from the front of a text.  A token that is `none` separates.
-/

def comment? : (text : List Char) → Option (Taken text Unit)
  | '*' :: '/' :: _ => some (.two ())
  | _ :: rest => (comment? rest).map .behind
  | [] => none

/-- How deep references in a quoted text nest: one may hold others, and those hold none. -/
def referenceDepth : Nat := 2

/-- What is left of a quoted text, up to and with the closing quote.  Inside references, of which
`depth` are open, quotes have no meaning.  No reference is empty. -/
def quoted? (depth : Nat) : (text : List Char) → Option (Taken text (List Char))
  | [] => none
  | '$' :: '\x7b' :: rest =>
    let opens := depth < referenceDepth
    if opens ∧ rest.head? = some '\x7d' then none
    else (quoted? (if opens then depth + 1 else depth) rest).map fun taken =>
      (taken.map (['$', '\x7b'] ++ ·)).behind.behind
  | c :: rest =>
    match depth, c with
    | 0, '"' => some (.one [])
    | 0, '\\' =>
      match rest with
      | [] => none
      | escaped :: rest =>
        if escaped = '\n' then none
        else (quoted? 0 rest).map fun taken => (taken.map ([c, escaped] ++ ·)).behind.behind
    | 0, _ => (quoted? 0 rest).map fun taken => (taken.map (c :: ·)).behind
    | inner + 1, '\x7d' =>
      (quoted? inner rest).map fun taken => (taken.map (c :: ·)).behind
    | inner + 1, _ =>
      (quoted? (inner + 1) rest).map fun taken => (taken.map (c :: ·)).behind

/-- The tag that opens a passage, and the text behind its line. -/
def tag? : List Char → Option (List Char × List Char)
  | [] => none
  | first :: rest =>
    let tail := rest.takeWhile continuesTag
    match rest.dropWhile continuesTag with
    | '\n' :: body =>
      if first.isAlpha && !tail.isEmpty then some (first :: tail, body) else none
    | _ => none

theorem tag?_length {text tag body : List Char} (found : tag? text = some (tag, body)) :
    body.length < text.length := by
  unfold tag? at found
  split at found
  · contradiction
  · next first rest =>
      have bound : (rest.dropWhile continuesTag).length ≤ rest.length :=
        (List.dropWhile_sublist _).length_le
      dsimp only at found
      split at found
      · next tail shape =>
          split at found
          · simp only [Option.some.injEq, Prod.mk.injEq] at found
            rw [shape, List.length_cons] at bound
            rw [← found.2, List.length_cons]
            omega
          · contradiction
      · contradiction

/-- A passage behind its opening sign: it ends where its tag stands again. -/
def passage? (content : List Char → String) (text : List Char) : Option (Taken text Token) :=
  match opened : tag? text with
  | none => none
  | some (tag, body) =>
    match closed : Text.cut? tag body with
    | none => none
    | some (inside, rest) => some ⟨.passage (content inside), rest, by
        have first := tag?_length opened
        rw [Text.cut?_eq closed] at first
        simp only [List.length_append] at first
        omega⟩

def sign? : Char → Option Token
  | '=' => some .assign
  | '!' => some .not
  | '?' => some .question
  | ':' => some .colon
  | ',' => some .comma
  | '.' => some .dot
  | '(' => some (.opening .round)
  | ')' => some (.closing .round)
  | '[' => some (.opening .square)
  | ']' => some (.closing .square)
  | '\x7b' => some (.opening .curly)
  | '\x7d' => some (.closing .curly)
  | '<' => some (.operator .less)
  | '>' => some (.operator .greater)
  | '-' => some (.operator .minus)
  | '+' => some (.operator .plus)
  | '*' => some (.operator .times)
  | '/' => some (.operator .over)
  | '%' => some (.operator .remainder)
  | _ => none

def next? : (text : List Char) → Option (Taken text (Option Token))
  | [] => none
  | '/' :: '*' :: rest =>
    (comment? rest).map fun taken => (taken.map fun _ => none).behind.behind
  | '/' :: '/' :: rest => some (toLineEnd rest).behind
  | '<' :: '<' :: '-' :: rest =>
    (passage? Passage.unindented rest).map fun taken => (taken.map some).behind.behind.behind
  | '<' :: '<' :: rest =>
    (passage? Passage.plain rest).map fun taken => (taken.map some).behind.behind
  | '=' :: '=' :: _ => some (.two (some (.operator .equal)))
  | '!' :: '=' :: _ => some (.two (some (.operator .different)))
  | '<' :: '=' :: _ => some (.two (some (.operator .atMost)))
  | '>' :: '=' :: _ => some (.two (some (.operator .atLeast)))
  | '&' :: '&' :: _ => some (.two (some (.operator .both)))
  | '|' :: '|' :: _ => some (.two (some (.operator .either)))
  | '"' :: rest =>
    (quoted? 0 rest).map fun taken =>
      (taken.map fun text => some (.quoted (String.ofList text))).behind
  | '#' :: rest => some (toLineEnd rest)
  | '\n' :: _ => some (.one (some .lineEnd))
  | c :: rest =>
    if c == ' ' || c == '\t' then some (.one none)
    else if c.isDigit then some (.one (some (.digit c)))
    else if opensWord c then
      some (.upTo (some (.word (String.ofList (c :: rest.takeWhile continuesWord))))
        (rest.dropWhile continuesWord) (List.dropWhile_sublist _).length_le)
    else (sign? c).map fun token => .one (some token)
where
  toLineEnd {c : Char} (rest : List Char) : Taken (c :: rest) (Option Token) :=
    .upTo (some .lineEnd) (Text.after '\n' rest) (Text.length_after_le '\n' rest)

/-- Puts a token in front of others, so that no two line ends follow each other. -/
def cons : Option Token → List Token → List Token
  | none, tokens => tokens
  | some .lineEnd, .lineEnd :: tokens => .lineEnd :: tokens
  | some token, tokens => token :: tokens

def ofChars? (text : List Char) : Option (List Token) :=
  if text.isEmpty then some []
  else
    match next? text with
    | none => none
    | some ⟨token, rest, _⟩ => (ofChars? rest).map (cons token)
termination_by text.length

end Token

end Stowage.Source
