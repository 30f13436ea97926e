import Stowage.Identity.Address
import Stowage.Text.Case

/-! # Identities

A container is known by its account and its name.  Its id is the address
`https://ACCOUNT.SUFFIX/CONTAINER`, where the suffix belongs to the environment.  Reading an id is
lenient about everything that is not the account or the container: the scheme, the case of the
suffix, user information, port, query, fragment and further segments.
-/

namespace Stowage

/-- The durable key of a container. -/
structure Identity where
  account : String
  container : String
deriving DecidableEq, Repr

namespace Identity

open Text

inductive Malformed where
  | unreadable (uri : String) (fault : Address.Fault)
  /-- The scheme is not that of a web address, or there is no host. -/
  | notAbsolute (uri : String)
  | foreignHost (host uri suffix : String)
  | noSegment (uri : String)
deriving DecidableEq, Repr

def Malformed.message : Malformed → String
  | .unreadable uri fault => s!"Error parsing '{uri}' as URI: {fault.message}"
  | .notAbsolute uri => s!"Error parsing '{uri}' as URI: expected an absolute URL"
  | .foreignHost host uri suffix => s!"Host '{host}' of '{uri}' is not under '{suffix}'"
  | .noSegment uri => s!"Expected at least one path segment in '{uri}'"

def encode (account container suffix : String) : String :=
  "https://" ++ account ++ "." ++ suffix ++ "/" ++ container

def uri (identity : Identity) (suffix : String) : String :=
  encode identity.account identity.container suffix

/-- The account of a host: what stands before the suffix and its point.  Case is ignored when the
suffix is looked for, and the cut is made by its length as given. -/
def accountOf? (host suffix : List Char) : Option (List Char) :=
  let ending := '.' :: suffix
  if endsIn (lower host) (lower ending) && host.length != ending.length then
    some (host.take (host.length - ending.length))
  else none

def isWebScheme (scheme : List Char) : Bool :=
  scheme == ['h', 't', 't', 'p', 's'] || scheme == ['h', 't', 't', 'p']

def decode (uri suffix : String) : Except Malformed Identity :=
  match Address.ofChars? uri.toList with
  | .error fault => .error (.unreadable uri fault)
  | .ok address =>
    let host := address.host
    if !isWebScheme address.scheme || host.isEmpty then .error (.notAbsolute uri)
    else match accountOf? host suffix.toList with
      | none => .error (.foreignHost (String.ofList host) uri suffix)
      | some account =>
        match address.segments with
        | [] => .error (.noSegment uri)
        | container :: _ =>
          .ok { account := String.ofList account, container := String.ofList container }

end Identity

end Stowage
