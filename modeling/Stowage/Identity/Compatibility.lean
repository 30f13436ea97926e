import Stowage.Text.CharRange

/-! # Characters that hide a delimiter

Some characters are ligatures or wide forms of the characters that delimit the parts of an
address.  Software that folds them sees other parts, so a host must not hold them.
-/

namespace Stowage.Identity

/-- The characters beyond ASCII whose compatibility form holds one of `/ ? # @ :`, as of
Unicode 15.0. -/
def foldedDelimiters : List (Nat × Nat) := [
  (0x2047, 0x2049), (0x2100, 0x2101), (0x2105, 0x2106), (0x2A74, 0x2A74), (0xFE13, 0xFE13),
  (0xFE16, 0xFE16), (0xFE55, 0xFE56), (0xFE5F, 0xFE5F), (0xFE6B, 0xFE6B), (0xFF03, 0xFF03),
  (0xFF0F, 0xFF0F), (0xFF1A, 0xFF1A), (0xFF1F, 0xFF20)]

def hidesDelimiter (c : Char) : Bool :=
  Text.inRanges foldedDelimiters c

end Stowage.Identity
