import Stowage.Text.Cut

/-! # Bracketed hosts

A host between brackets is a numeric network address: eight groups of hexadecimal digits, of which
one run of zero groups may be left out and the last two may be written as a dotted quad, with an
optional zone after a percent sign; or a tagged address of a later version.
-/

namespace Stowage.Identity

open Text

def isHexDigit (c : Char) : Bool :=
  c.isDigit || ('a' ≤ c && c ≤ 'f') || ('A' ≤ c && c ≤ 'F')

/-- One number of a dotted quad: at most 255, no leading zeros. -/
def isOctet (text : List Char) : Bool :=
  !text.isEmpty && text.all Char.isDigit && text.length ≤ 3 &&
    (text == ['0'] || text.head? != some '0') && Nat.ofDigitChars 10 text 0 ≤ 255

def isDottedQuad (text : List Char) : Bool :=
  let octets := text.splitOn '.'
  octets.length == 4 && octets.all isOctet

def isGroup (text : List Char) : Bool :=
  !text.isEmpty && text.all isHexDigit && text.length ≤ 4

/-- The groups of an address as written: a dotted quad at the end counts as two groups. -/
def addressGroups? (text : List Char) : Option (List (List Char)) :=
  let groups := text.splitOn ':'
  if groups.length < 3 then none
  else
    let last := groups.getLast?.getD []
    if last.contains '.' then
      if isDottedQuad last then some (groups.dropLast ++ [['0'], ['0']]) else none
    else some groups

/-- Whether the groups are those of a full address, or of one with a single run left out.  An
empty group stands for the run; at an end of the address it needs a second one beside it. -/
def areGroups (groups : List (List Char)) : Bool :=
  let inner := groups.tail.dropLast
  let gaps := inner.countP List.isEmpty
  if groups.length > 9 || gaps > 1 then false
  else if gaps == 0 then groups.length == 8 && groups.all isGroup
  else
    let gap := 1 + inner.findIdx List.isEmpty
    let high := groups.take gap
    let low := groups.drop (gap + 1)
    let high := if high == [[]] then [] else high
    let low := if low == [[]] then [] else low
    high.length + low.length ≤ 7 && high.all isGroup && low.all isGroup

/-- An address of eight groups, with a zone if there is a percent sign. -/
def isGroupedAddress (text : List Char) : Bool :=
  let zone := after '%' text
  let zoned := !text.contains '%' || (!zone.isEmpty && !zone.contains '%')
  zoned && ((addressGroups? (before '%' text)).map areGroups).getD false

/-- The letter `v`, a version in hexadecimal digits, a point and some text. -/
def isTaggedAddress (text : List Char) : Bool :=
  match text with
  | 'v' :: rest =>
    let version := rest.takeWhile isHexDigit
    let tail := rest.dropWhile isHexDigit
    !version.isEmpty && tail.head? == some '.' && 2 ≤ tail.length
  | _ => false

end Stowage.Identity
