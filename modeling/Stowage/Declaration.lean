import Stowage.Config
import Stowage.Document.Equality
import Stowage.Interpolation
import Stowage.Strategy

/-! # Declarations

A declaration file has blocks at its top level that name a strategy, a kind of resource and the
attributes of one resource.  Each block becomes one declaration.  The kinds are looked up in a
registry, so that this module knows nothing of particular resources.
-/

namespace Stowage

structure Kind (ρ : Type) where
  keyword : String
  resource : String
  build : Document.Fields → Logged Config.Rejection ρ

/-- A resource and what is asked for it. -/
structure Declaration (ρ : Type) where
  strategy : Strategy
  resource : ρ

namespace Declaration

inductive Fault where
  /-- The blocks of a strategy are nothing that holds blocks. -/
  | notBlocks
  | notObject
  | notAttributes
  /-- One of a list of attributes is no pair. -/
  | notPair (index length : Nat)
  | unknownKind (keyword : String)
  /-- An attribute has a name that resources cannot take. -/
  | unusableName
  | rejected (rejection : Config.Rejection)

def Fault.message : Fault → String
  | .notPair index length =>
    s!"dictionary update sequence element #{index} has length {length}; 2 is required"
  | .unknownKind keyword => s!"Unknown spec type: '{keyword}'"
  | .rejected (.unlawful violations) => violations.message
  | _ => ""

abbrev Reading (α : Type) : Type :=
  Logged Fault α

/-- The parts of a value that can be gone through: the items of a list, the characters of a text,
the names of an object. -/
def parts? : Document → Option (List Document)
  | .list items => some items
  | .text value => some (value.toList.map fun c => .text c.toString)
  | .object fields => some (fields.map fun field => .text field.1)
  | _ => none

/-- Attributes by name.  A name need not be a text as long as nothing is built from it. -/
abbrev Attributes := List (Document × Document)

/-- Writes an attribute: in its place if its name is there, at the end if not. -/
def Attributes.set (name value : Document) : Attributes → Attributes
  | [] => [(name, value)]
  | (key, old) :: rest =>
    if key.same name then (key, value) :: rest else (key, old) :: set name value rest

/-- Whether a value can name an attribute. -/
def canName : Document → Bool
  | .list _ | .object _ => false
  | _ => true

/-- Attributes from a list of pairs, of which the first has the given index. -/
def attributesOfPairs (index : Nat) (kept : Attributes) :
    List Document → Except Fault Attributes
  | [] => .ok kept
  | pair :: rest =>
    match parts? pair with
    | none => .error .notAttributes
    | some [name, value] =>
      if canName name then attributesOfPairs (index + 1) (kept.set name value) rest
      else .error .notAttributes
    | some items => .error (.notPair index items.length)

/-- The attributes of a block: an object, or pairs of a name and a value. -/
def attributes : Document → Except Fault Attributes
  | .object fields => .ok (fields.map fun field => (.text field.1, field.2))
  | other =>
    match parts? other with
    | some pairs => attributesOfPairs 0 [] pairs
    | none => .error .notAttributes

/-- The name that stands for a resource itself, which no attribute may have. -/
def reservedName : String := "self"

/-- The attributes under names that are texts and not reserved. -/
def namedAttributes : Attributes → Except Fault Document.Fields
  | [] => .ok []
  | (.text name, value) :: rest =>
    if name = reservedName then .error .unusableName
    else return (name, value) :: (← namedAttributes rest)
  | _ :: _ => .error .unusableName

variable {ρ : Type}

def build (kinds : List (Kind ρ)) (surroundings : Surroundings) (keyword : String)
    (given : Attributes) : Reading ρ := do
  match kinds.find? fun kind => kind.keyword == keyword with
  | none => .fail (.unknownKind keyword)
  | some kind =>
    let expanded ← Logged.collect (fun (name, value) => do
      let value ← Interpolation.expand surroundings value
      pure (name, value)) given
    Logged.report (.building keyword kind.resource)
    let fields ← Logged.ofExcept (namedAttributes expanded)
    (kind.build fields).mapError .rejected

/-- The declarations of one block, in the order of its fields. -/
def ofBlock (kinds : List (Kind ρ)) (surroundings : Surroundings) (strategy : Strategy) :
    Document → Reading (List (Declaration ρ))
  | .object fields => Logged.collect (fun (keyword, body) => do
      let given ← Logged.ofExcept (attributes body)
      let resource ← build kinds surroundings keyword given
      pure ⟨strategy, resource⟩) fields
  | _ => .fail .notObject

def ofStrategy (kinds : List (Kind ρ)) (surroundings : Surroundings) (file : Document.Fields)
    (strategy : Strategy) : Reading (List (Declaration ρ)) :=
  match file.get? strategy.keyword with
  | none => pure []
  | some value =>
    match parts? value with
    | none => .fail .notBlocks
    | some blocks => List.flatten <$> Logged.collect (ofBlock kinds surroundings strategy) blocks

def ofDocument (kinds : List (Kind ρ)) (surroundings : Surroundings) :
    Document → Reading (List (Declaration ρ))
  | .object file =>
    List.flatten <$> Logged.collect (ofStrategy kinds surroundings file) Strategy.all
  | _ => .fail .notObject

def containerKind (embed : Config → ρ) : Kind ρ where
  keyword := "storage_container"
  resource := "StorageContainer"
  build fields := embed <$> Config.read (.object fields)

end Declaration

end Stowage
