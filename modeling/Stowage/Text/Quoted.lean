import Stowage.Text.Printable

/-! # Quoted text

The form in which messages show a text unmistakably: between quotes, with a backslash before what
would be mistaken and numeric escapes for what cannot be shown.
-/

namespace Stowage.Text

/-- The lower-case hexadecimal digits of `n`, at least `width` of them. -/
def hexDigits (width n : Nat) : List Char :=
  let digits := Nat.toDigits 16 n
  List.replicate (width - digits.length) '0' ++ digits

/-- How one character is written between quotes of the kind `mark`. -/
def quotedChar (mark c : Char) : List Char :=
  if c == mark || c == '\\' then ['\\', c]
  else if c == '\t' then ['\\', 't']
  else if c == '\n' then ['\\', 'n']
  else if c == '\r' then ['\\', 'r']
  else if isPrintable c then [c]
  else if c.val < 0x100 then '\\' :: 'x' :: hexDigits 2 c.toNat
  else if c.val < 0x10000 then '\\' :: 'u' :: hexDigits 4 c.toNat
  else '\\' :: 'U' :: hexDigits 8 c.toNat

/-- Single quotes enclose the text, unless it holds single quotes and no double ones. -/
def quoteMark (text : List Char) : Char :=
  if text.contains '\'' && !text.contains '"' then '"' else '\''

def quotedChars (text : List Char) : List Char :=
  let mark := quoteMark text
  mark :: (text.flatMap (quotedChar mark) ++ [mark])

def quoted (text : String) : String :=
  String.ofList (quotedChars text.toList)

end Stowage.Text
