import Stowage.Declaration
import Stowage.DeclarationFile
import Stowage.FileTree

/-! # Scanning directories for declarations

All declaration files under a directory are loaded in the order of their paths, whatever order the
directories list them in.  The first fault ends the scan, and no later file is loaded.
-/

namespace Stowage.Scan

/-- Why a scan stops: a file that is not loaded for some reason, or what it declares. -/
inductive Stop (φ : Type) where
  | file (path : String) (fault : φ)
  | declaration (fault : Declaration.Fault)

abbrev Fault := Stop DeclarationFile.Fault

/-- How files are loaded: the document that a file holds under a context, and the fault of a
directory that stands in the place of a file. -/
structure Loader (φ : Type) where
  read : Document.Fields → ByteArray → Except φ Document
  directoryFault : φ

/-- Files are declaration files. -/
def Loader.standard : Loader DeclarationFile.Fault :=
  ⟨DeclarationFile.load, .isDirectory⟩

def ending : String := ".hcl"

def isDeclarationFile (names : Names) : Bool :=
  match names.getLast? with
  | some name => Text.endsIn name.toList ending.toList
  | none => false

/-- Whether one entry is loaded no later than another: their paths are compared name by name. -/
def before (first second : Names × FileTree) : Bool :=
  !second.1.lex first.1 fun name other => decide (name < other)

/-- The declaration files under a directory, in the order in which they are loaded. -/
def files (directory : FileTree) (recurse : Bool) : List (Names × FileTree) :=
  ((directory.reachable recurse).filter fun (names, _) => isDeclarationFile names).mergeSort before

variable {φ ρ : Type}

/-- The document of a file or of what stands in its place. -/
def Loader.load (loader : Loader φ) (context : Document.Fields) : FileTree → Except φ Document
  | .file content => loader.read context content
  | .directory _ => .error loader.directoryFault

def read (loader : Loader φ) (kinds : List (Kind ρ)) (surroundings : Surroundings)
    (context : Document.Fields) (path : String) (file : FileTree) :
    Logged (Stop φ) (List (Declaration ρ)) := do
  Logged.report (.loading path)
  let document ← Logged.ofExcept ((loader.load context file).mapError (.file path))
  (Declaration.ofDocument kinds surroundings document).mapError .declaration

/-- The declarations of all files under a path into a tree.  A path that leads to no directory has
none. -/
def runWith (loader : Loader φ) (kinds : List (Kind ρ)) (surroundings : Surroundings)
    (context : Document.Fields) (tree : FileTree) (path : Path) (recurse : Bool) :
    Logged (Stop φ) (List (Declaration ρ)) :=
  match tree.find? path with
  | some (.directory entries) =>
    List.flatten <$> Logged.collect (fun (names, file) =>
      read loader kinds surroundings context (path.under names).text file)
      (files (.directory entries) recurse)
  | _ => do
    Logged.report (.noDirectory path.text)
    pure []

def run (kinds : List (Kind ρ)) (surroundings : Surroundings) (context : Document.Fields)
    (tree : FileTree) (path : Path) (recurse : Bool) : Logged Fault (List (Declaration ρ)) :=
  runWith .standard kinds surroundings context tree path recurse

end Stowage.Scan
