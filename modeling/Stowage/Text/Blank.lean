import Stowage.Text.CharRange

/-! # Blanks

The characters that show nothing and only separate: spaces of every width, line ends, and the
control characters between them.
-/

namespace Stowage.Text

/-- The blanks of Unicode 15.0, as ascending closed ranges of code points. -/
def blankRanges : List (Nat × Nat) := [
  (0x9, 0xD), (0x1C, 0x20), (0x85, 0x85), (0xA0, 0xA0), (0x1680, 0x1680), (0x2000, 0x200A),
  (0x2028, 0x2029), (0x202F, 0x202F), (0x205F, 0x205F), (0x3000, 0x3000)]

def isBlank (c : Char) : Bool :=
  inRanges blankRanges c

def withoutBlanks (text : List Char) : List Char :=
  text.dropWhile isBlank

def withoutFinalBlanks (text : List Char) : List Char :=
  (withoutBlanks text.reverse).reverse

theorem length_withoutBlanks_le (text : List Char) :
    (withoutBlanks text).length ≤ text.length :=
  (List.dropWhile_sublist _).length_le

end Stowage.Text
