/-! # File trees

A finite tree of files and directories, and the paths into it.  A path is a row of names; it is
compared name by name, and names are compared by code points.
-/

namespace Stowage

abbrev Names := List String

structure Path where
  /-- Whether the path begins at the root of all files and not in the tree. -/
  absolute : Bool := false
  names : Names
deriving DecidableEq, Repr

namespace Path

def pieces : List Char → List (List Char)
  | [] => [[]]
  | c :: rest =>
    if c == '/' then [] :: pieces rest
    else match pieces rest with
      | [] => [[c]]
      | piece :: more => (c :: piece) :: more

/-- The path that a text writes.  Empty names and single points say nothing. -/
def ofText (text : String) : Path :=
  let chars := text.toList
  { absolute := chars.head? == some '/'
    names := ((pieces chars).filter fun piece =>
      !(piece.isEmpty || piece == ['.'])).map String.ofList }

/-- The path of an entry under a path. -/
def under (path : Path) (names : Names) : Path :=
  { path with names := path.names ++ names }

def text (path : Path) : String :=
  if path.absolute then "/" ++ String.intercalate "/" path.names
  else if path.names.isEmpty then "."
  else String.intercalate "/" path.names

end Path

inductive FileTree where
  | file (content : ByteArray)
  | directory (entries : List (String × FileTree))

namespace FileTree

def child? : FileTree → String → Option FileTree
  | .file _, _ => none
  | .directory entries, name => entries.lookup name

def isDirectory : FileTree → Bool
  | .file _ => false
  | .directory _ => true

/-- Follows names from a place in a tree; `above` holds the directories it lies in, the nearest
first. -/
def follow? (above : List FileTree) (place : FileTree) : Names → Option FileTree
  | [] => some place
  | ".." :: names =>
    match place, above with
    | .directory _, parent :: above => follow? above parent names
    | _, _ => none
  | name :: names =>
    match place.child? name with
    | some child => follow? (place :: above) child names
    | none => none

def find? (tree : FileTree) (path : Path) : Option FileTree :=
  if path.absolute then none else follow? [] tree path.names

def entries : FileTree → List (String × FileTree)
  | .file _ => []
  | .directory entries => entries

mutual

/-- All entries under a directory, with the names that lead to them. -/
def descendants : FileTree → List (Names × FileTree)
  | .file _ => []
  | .directory entries => descendantsOf entries

def descendantsOf : List (String × FileTree) → List (Names × FileTree)
  | [] => []
  | (name, entry) :: entries =>
    ([name], entry) :: (entry.descendants.map fun (names, below) => (name :: names, below)) ++
      descendantsOf entries

end

def reachable (tree : FileTree) (recurse : Bool) : List (Names × FileTree) :=
  if recurse then tree.descendants else tree.entries.map fun (name, entry) => ([name], entry)

/-! ## Building trees -/

/-- Puts an entry into a directory, below directories that are made where they are missing.  A
directory that is there already is kept. -/
def put (entry : FileTree) : Names → List (String × FileTree) → List (String × FileTree)
  | [], entries => entries
  | name :: names, entries =>
    let below := (entries.lookup name).getD (.directory [])
    let entry :=
      if names.isEmpty then (if entry.isDirectory then below else entry)
      else .directory (put entry names below.entries)
    (name, entry) :: entries.filter fun (other, _) => other != name

def ofEntries (entries : List (Names × FileTree)) : FileTree :=
  .directory (entries.foldl (fun tree (names, entry) => put entry names tree) [])

end FileTree

end Stowage
