import Stowage.Decimal.Basic
import Stowage.Identity.Compatibility
import Stowage.Identity.HostLiteral
import Stowage.Text.Quoted

/-! # Addresses

The first stage of reading an id: the text is cut into a scheme, an authority and a path.  Query
and fragment are dropped.  Each cut is a function of its own on what the cut before it left over.
-/

namespace Stowage

/-- The parts of an address that an id is read from. -/
structure Address where
  /-- In lower case, empty where the text names no scheme. -/
  scheme : List Char
  /-- What stands between the two slashes and the path, empty where there are no two slashes. -/
  authority : List Char
  path : List Char
deriving DecidableEq, Repr

inductive Address.Fault where
  /-- The authority has only one of the two square brackets. -/
  | unbalancedBrackets
  | invalidTaggedHost
  | notNumericHost (host : List Char)
  | bracketedQuad
  | foldedDelimiter (authority : List Char)
  | portNotNumeric (port : List Char)
  | portTooLong (digits : Nat)
  | portOutOfRange
deriving DecidableEq, Repr

namespace Address

open Text Identity

/-- Blanks and control characters, which may stand before an address. -/
def isLeadingNoise (c : Char) : Bool :=
  c.val ≤ 0x20

/-- Tabs and line ends, which are dropped wherever they stand. -/
def isBreak (c : Char) : Bool :=
  c == '\t' || c == '\n' || c == '\r'

def isSchemeChar (c : Char) : Bool :=
  c.isAlphanum || c == '+' || c == '-' || c == '.'

/-- The text as it is cut up: without leading noise and without breaks. -/
def cleaned (text : List Char) : List Char :=
  (text.dropWhile isLeadingNoise).filter fun c => !isBreak c

/-- The scheme in lower case and the text after its colon.  A text that does not begin with a
letter and further scheme characters up to a colon has no scheme. -/
def splitScheme (text : List Char) : List Char × List Char :=
  let name := before ':' text
  let named := text.contains ':' && (name.head?.map Char.isAlpha).getD false &&
    name.all isSchemeChar
  if named then (name.map Char.toLower, after ':' text) else ([], text)

def endsAuthority (c : Char) : Bool :=
  c == '/' || c == '?' || c == '#'

def splitAuthority (text : List Char) : List Char × List Char :=
  match text with
  | '/' :: '/' :: rest =>
    (rest.takeWhile fun c => !endsAuthority c, rest.dropWhile fun c => !endsAuthority c)
  | _ => ([], text)

/-- The text up to its fragment and its query. -/
def pathOf (text : List Char) : List Char :=
  before '?' (before '#' text)

/-- Brackets come in pairs, and what the first two enclose is a numeric host.  What stands before
and behind them is not looked at, although nothing but user information and a port belongs there:
stricter readers of addresses refuse the rest here already. -/
def checkBrackets (authority : List Char) : Except Fault Unit :=
  match authority.contains '[', authority.contains ']' with
  | false, false => .ok ()
  | true, true =>
    let host := before ']' (after '[' authority)
    if host.head? == some 'v' then
      if isTaggedAddress host then .ok () else .error .invalidTaggedHost
    else if isDottedQuad host then .error .bracketedQuad
    else if isGroupedAddress host then .ok ()
    else .error (.notNumericHost host)
  | _, _ => .error .unbalancedBrackets

/-- No character of the authority hides a delimiter. -/
def checkFolding (authority : List Char) : Except Fault Unit :=
  if authority.any hidesDelimiter then .error (.foldedDelimiter authority) else .ok ()

/-- The host and the port: what follows the user information. -/
def hostPart (authority : List Char) : List Char :=
  afterLast '@' authority

/-- The port as written: what follows the first colon, or the first colon behind the brackets. -/
def portPart (authority : List Char) : List Char :=
  let host := hostPart authority
  if host.contains '[' then after ':' (after ']' (after '[' host)) else after ':' host

/-- A port is empty, or a number in ASCII digits up to 65535. -/
def checkPort (authority : List Char) : Except Fault Unit :=
  let port := portPart authority
  if port.isEmpty then .ok ()
  else if !port.all Char.isDigit then .error (.portNotNumeric port)
  else if Decimal.maxDigits < port.length then .error (.portTooLong port.length)
  else if Nat.ofDigitChars 10 port 0 ≤ 65535 then .ok ()
  else .error .portOutOfRange

def ofChars? (text : List Char) : Except Fault Address := do
  let (scheme, rest) := splitScheme (cleaned text)
  let (authority, rest) := splitAuthority rest
  checkBrackets authority
  checkFolding authority
  checkPort authority
  pure { scheme, authority, path := pathOf rest }

/-- The host without user information and port. -/
def host (address : Address) : List Char :=
  before ':' (hostPart address.authority)

def segments (address : Address) : List (List Char) :=
  (address.path.splitOn '/').filter fun segment => !segment.isEmpty

def Fault.message : Fault → String
  | .unbalancedBrackets => "Invalid IPv6 URL"
  | .invalidTaggedHost => "IPvFuture address is invalid"
  | .notNumericHost host =>
    s!"{quoted (String.ofList host)} does not appear to be an IPv4 or IPv6 address"
  | .bracketedQuad => "An IPv4 address cannot be in brackets"
  | .foldedDelimiter authority =>
    s!"netloc '{String.ofList authority}' contains invalid characters under NFKC normalization"
  | .portNotNumeric port =>
    s!"Port could not be cast to integer value as {quoted (String.ofList port)}"
  | .portTooLong digits =>
    s!"Exceeds the limit ({Decimal.maxDigits} digits) for integer string conversion: value has " ++
      s!"{digits} digits; use sys.set_int_max_str_digits() to increase the limit"
  | .portOutOfRange => "Port out of range 0-65535"

end Address

end Stowage
