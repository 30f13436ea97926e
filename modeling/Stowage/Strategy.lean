import Stowage.Event

/-! # Strategies

What a declaration asks for: that a resource is present, that it is as declared, or that it is
absent.  A resource is known by four actions; whatever monad they run in, a strategy decides from
the answer of the first whether to change something.
-/

namespace Stowage

inductive Strategy where
  | present
  | ensure
  | absent
deriving DecidableEq, Repr

/-- A declared resource as strategies see it.  A change yields a value in `α`. -/
structure Specification (m : Type → Type) (α : Type) where
  label : String
  upToDate : m Bool
  /-- Whether there is such a resource. -/
  present : m Bool := upToDate
  apply : m α
  remove : m α

namespace Strategy

/-- The strategies in the order in which their declarations are carried out. -/
def all : List Strategy :=
  [.present, .ensure, .absent]

def keyword : Strategy → String
  | .present => "present"
  | .ensure => "ensure"
  | .absent => "absent"

def title : Strategy → String
  | .present => "Present"
  | .ensure => "Ensure"
  | .absent => "Absent"

def ofKeyword? (word : String) : Option Strategy :=
  all.find? fun strategy => strategy.keyword == word

def label (strategy : Strategy) (resource : String) : String :=
  s!"{strategy.title}({resource})"

variable {m : Type → Type} [Monad m] {α : Type}

/-- Makes a change, or only says so in a dry run. -/
def change (report : Event → m Unit) (dryRun : Bool) (change : Change) (label : String)
    (action : m α) : m (Option α) := do
  if dryRun then
    report (.planned change label)
    pure none
  else
    report (.performing change label)
    some <$> action

/-- Carries out a strategy.  The value is that of the change, if one was made. -/
def run (report : Event → m Unit) (dryRun : Bool) (resource : Specification m α) :
    Strategy → m (Option α)
  | .present => do
    if ← resource.present then
      report (.skipped resource.label .present)
      pure none
    else change report dryRun .apply resource.label resource.apply
  | .ensure => do
    if ← resource.upToDate then
      report (.skipped resource.label .upToDate)
      pure none
    else change report dryRun .apply resource.label resource.apply
  | .absent => do
    if ← resource.present then change report dryRun .remove resource.label resource.remove
    else
      report (.notPresent resource.label)
      pure none

end Strategy

end Stowage
