import Stowage.Text.Quoted

/-! # Events

What the library reports while it works.  An event is a value; its level and its wording are
functions of it, so that runs can be compared event by event.
-/

namespace Stowage

inductive Level where
  | debug
  | info
  | warning
  | error
deriving DecidableEq, Repr

/-- Why a declared resource was left alone. -/
inductive Skip where
  | present
  | upToDate
deriving DecidableEq, Repr

/-- What a declared resource needs. -/
inductive Change where
  | apply
  | remove
deriving DecidableEq, Repr

inductive Event where
  /-- An id was read. -/
  | decoded (uri account container : String)
  | retrying (attempt : Nat) (description reason delay : String)
  | gaveUp (description : String) (attempts : Nat) (timeout : String)
  | creating (container account : String)
  | settingAccess (access container : String)
  /-- A tracked container was not in the listing. -/
  | drifted (container account : String)
  | probing (container account : String)
  | absent (container account : String)
  | deleting (container account : String)
  | imported (uri : String)
  | replacing (uri newUri : String)
  | groupGone (account : String)
  | accountGone (account container : String)
  | migrating (oldId newId : String)
  | skipped (label : String) (reason : Skip)
  | notPresent (label : String)
  /-- A dry run reached a change. -/
  | planned (change : Change) (label : String)
  | performing (change : Change) (label : String)
  | tracked (label uri : String)
  | noDirectory (path : String)
  | loading (path : String)
  | unsetVariable (name : String)
  | unknownVariable (name : String)
  | building (kind resource : String)
  /-- A configuration breaks rules: the messages about each of its fields. -/
  | refused (name : String) (violations : List (String × List String))
deriving DecidableEq, Repr

namespace Change

def verb : Change → String
  | .apply => "apply"
  | .remove => "remove"

def participle : Change → String
  | .apply => "Applying"
  | .remove => "Removing"

end Change

namespace Event

/-- Messages under the names of fields, each text between quotes. -/
def quotedMessages (messages : List (String × List String)) : String :=
  let entries := messages.map fun entry =>
    Text.quoted entry.1 ++ ": [" ++ String.intercalate ", " (entry.2.map Text.quoted) ++ "]"
  "\x7b" ++ String.intercalate ", " entries ++ "\x7d"

def level : Event → Level
  | .decoded .. | .settingAccess .. | .probing .. | .absent .. | .migrating .. | .skipped ..
  | .notPresent .. | .tracked .. | .noDirectory .. | .loading .. | .building ..
  | .refused .. => .debug
  | .creating .. | .deleting .. | .imported .. | .replacing .. | .planned ..
  | .performing .. => .info
  | .retrying .. | .drifted .. | .groupGone .. | .accountGone .. | .unsetVariable ..
  | .unknownVariable .. => .warning
  | .gaveUp .. => .error

def message : Event → String
  | .decoded uri account container =>
    s!"Decoded '{uri}' -> account '{account}', container '{container}'"
  | .retrying attempt description reason delay =>
    s!"Attempt {attempt} of {description} failed: {reason}. Retrying in {delay}s..."
  | .gaveUp description attempts timeout =>
    s!"Giving up on {description} after {attempts} attempts over {timeout}s"
  | .creating container account =>
    s!"Creating container '{container}' in storage account '{account}'"
  | .settingAccess access container =>
    s!"Setting access type '{access}' on container '{container}'"
  | .drifted container account =>
    s!"Storage container '{container}' does not exist in account '{account}', " ++
      "removing from state"
  | .probing container account =>
    s!"Checking existence of container '{container}' in account '{account}'"
  | .absent container account =>
    s!"Storage container '{container}' does not exist in account '{account}'"
  | .deleting container account =>
    s!"Deleting container '{container}' in account '{account}'"
  | .imported uri => s!"Imported storage container '{uri}'"
  | .replacing uri newUri => s!"Replacing container '{uri}' with '{newUri}'"
  | .groupGone account =>
    s!"Cannot locate resource group for storage account '{account}' (presuming it's gone)"
  | .accountGone account container =>
    s!"Storage account '{account}' not found; container '{container}' cannot exist"
  | .migrating oldId newId => s!"Migrating storage container id '{oldId}' -> '{newId}'"
  | .skipped label .present => s!"Skipping {label}; already exists"
  | .skipped label .upToDate => s!"Skipping {label}; up to date"
  | .notPresent label => s!"Skipping removal of {label}; not present"
  | .planned change label => s!"[DRY RUN] Would {change.verb} {label}"
  | .performing change label => s!"{change.participle} {label}"
  | .tracked label uri => s!"Container {label} is now tracked as '{uri}'"
  | .noDirectory path => s!"Declaration directory '{path}' does not exist"
  | .loading path => s!"Loading declarations from '{path}'"
  | .unsetVariable name => s!"Environment variable '{name}' is not set"
  | .unknownVariable name => s!"Unknown variable '{name}'"
  | .building kind resource => s!"Decoding spec '{kind}' -> {resource}"
  | .refused name violations =>
    s!"Rejected container config '{name}': {quotedMessages violations}"

end Event

end Stowage
