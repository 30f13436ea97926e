import Stowage.Decimal.Basic
import Stowage.Taken
import Stowage.Text.Blank
import Stowage.Text.WordChar

/-! # Tokens inside the marks of a template

What stands between the opening and the closing marks of a template: words, numbers, quoted texts
and signs, with blanks between them.
-/

namespace Stowage.Template

inductive Sign where
  | equal
  | different
  | plus
  | over
  | tilde
  | bar
  | dot
  | comma
  | assign
  | openRound
  | closeRound
  | openSquare
  | closeSquare
deriving DecidableEq, Repr

inductive Token where
  | word (name : String)
  | whole (value : Nat)
  | fraction (value : Decimal)
  | text (value : String)
  | sign (sign : Sign)
deriving DecidableEq, Repr

namespace Token

/-! ## Quoted texts -/

/-- What a backslash and a character stand for; a line end behind a backslash is left out. -/
def meant : Char → List Char
  | '\n' => []
  | '\\' => ['\\']
  | '\'' => ['\'']
  | '"' => ['"']
  | 'a' => ['\x07']
  | 'b' => ['\x08']
  | 'f' => ['\x0c']
  | 'n' => ['\n']
  | 'r' => ['\r']
  | 't' => ['\t']
  | 'v' => ['\x0b']
  | other => ['\\', other]

/-- How many hexadecimal digits follow a backslash and the character. -/
def escapeWidth? : Char → Option Nat
  | 'x' => some 2
  | 'u' => some 4
  | 'U' => some 8
  | _ => none

def hexDigit? (c : Char) : Option Nat :=
  if c.isDigit then some (c.toNat - '0'.toNat)
  else if 'a' ≤ c && c ≤ 'f' then some (c.toNat - 'a'.toNat + 10)
  else if 'A' ≤ c && c ≤ 'F' then some (c.toNat - 'A'.toNat + 10)
  else none

def charOfHex? (digits : List Char) : Option Char := do
  let values ← digits.mapM hexDigit?
  let code := values.foldl (fun code digit => 16 * code + digit) 0
  if code.isValidChar then some (Char.ofNat code) else none

def unescaped? (text : List Char) : Option (List Char) :=
  match text with
  | [] => some []
  | '\\' :: c :: rest =>
    match escapeWidth? c with
    | some width => do
      if rest.length < width then none
      else
        let char ← charOfHex? (rest.take width)
        let more ← unescaped? (rest.drop width)
        some (char :: more)
    | none => (meant c ++ ·) <$> unescaped? rest
  | c :: rest => (c :: ·) <$> unescaped? rest
termination_by text.length
decreasing_by all_goals (simp only [List.length_cons, List.length_drop]; omega)

/-- What is left of a quoted text, up to and with the closing quote. -/
def quoted? (quote : Char) : (text : List Char) → Option (Taken text (List Char))
  | [] => none
  | '\\' :: escaped :: rest =>
    (quoted? quote rest).map fun taken => (taken.map (['\\', escaped] ++ ·)).behind.behind
  | c :: rest =>
    if c = quote then some (.one [])
    else (quoted? quote rest).map fun taken => (taken.map (c :: ·)).behind

/-! ## Numbers -/

def ofDigits (digits : List Char) : Nat :=
  Nat.ofDigitChars 10 digits 0

/-- A number.  A whole number that begins with zero is zero. -/
def number (first : Char) (text : List Char) : Taken (first :: text) Token :=
  let digits := text.takeWhile Char.isDigit
  let behind := text.dropWhile Char.isDigit
  let places := (behind.drop 1).takeWhile Char.isDigit
  if behind.head? = some '.' ∧ places ≠ [] then
    .upTo (.fraction ⟨ofDigits (first :: digits ++ places), -(places.length : Int)⟩)
      ((behind.drop 1).dropWhile Char.isDigit)
      (((List.dropWhile_sublist _).trans (List.drop_sublist _ _)).trans
        (List.dropWhile_sublist _)).length_le
  else if first = '0' then
    .upTo (.whole 0) (text.dropWhile (· == '0')) (List.dropWhile_sublist _).length_le
  else .upTo (.whole (ofDigits (first :: digits))) behind (List.dropWhile_sublist _).length_le

/-! ## Tokens -/

def sign? : Char → Option Sign
  | '+' => some .plus
  | '/' => some .over
  | '~' => some .tilde
  | '|' => some .bar
  | '.' => some .dot
  | ',' => some .comma
  | '=' => some .assign
  | '(' => some .openRound
  | ')' => some .closeRound
  | '[' => some .openSquare
  | ']' => some .closeSquare
  | _ => none

/-- The token at the front of a text that does not begin with a blank. -/
def next? : (text : List Char) → Option (Taken text Token)
  | [] => none
  | '=' :: '=' :: _ => some (.two (.sign .equal))
  | '!' :: '=' :: _ => some (.two (.sign .different))
  | c :: rest =>
    if c = '\'' ∨ c = '"' then
      (quoted? c rest).bind fun taken => (unescaped? taken.value).map fun content =>
        (taken.map fun _ => .text (String.ofList content)).behind
    else if c.isDigit then some (number c rest)
    else if Text.isWordChar c then
      some (.upTo (.word (String.ofList (c :: rest.takeWhile Text.isWordChar)))
        (rest.dropWhile Text.isWordChar) (List.dropWhile_sublist _).length_le)
    else (sign? c).map fun sign => .one (.sign sign)

end Token

end Stowage.Template
