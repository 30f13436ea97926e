/-! # Tables

A finite map from names to values, kept in the order of the names.  `get?` is the view through
which the other operations are described.
-/

namespace Stowage

/-- A finite map from names to values. -/
structure Table (ν : Type) where
  entries : List (String × ν)
deriving Inhabited

namespace Table

variable {ν : Type}

def empty : Table ν :=
  ⟨[]⟩

def get? (table : Table ν) (name : String) : Option ν :=
  table.entries.lookup name

def contains (table : Table ν) (name : String) : Bool :=
  (table.get? name).isSome

def names (table : Table ν) : List String :=
  table.entries.map Prod.fst

/-- Puts an entry before the first greater name, in place of one of the same name. -/
def insertEntry (name : String) (value : ν) : List (String × ν) → List (String × ν)
  | [] => [(name, value)]
  | (key, old) :: rest =>
    if name = key then (name, value) :: rest
    else if name < key then (name, value) :: (key, old) :: rest
    else (key, old) :: insertEntry name value rest

def insert (table : Table ν) (name : String) (value : ν) : Table ν :=
  ⟨insertEntry name value table.entries⟩

def erase (table : Table ν) (name : String) : Table ν :=
  ⟨table.entries.filter fun entry => entry.1 != name⟩

@[simp] theorem get?_insert_self (table : Table ν) (name : String) (value : ν) :
    (table.insert name value).get? name = some value := by
  obtain ⟨entries⟩ := table
  simp only [insert, get?]
  induction entries with
  | nil => simp [insertEntry]
  | cons entry rest ih =>
      obtain ⟨key, old⟩ := entry
      by_cases same : name = key
      · simp [insertEntry, same]
      · by_cases less : name < key
        · simp [insertEntry, same, less]
        · have different : (name == key) = false := by simpa using same
          simp [insertEntry, same, less, List.lookup_cons, different, ih]

@[simp] theorem get?_insert_of_ne {name other : String} (distinct : other ≠ name)
    (table : Table ν) (value : ν) : (table.insert name value).get? other = table.get? other := by
  obtain ⟨entries⟩ := table
  have unequal : (other == name) = false := by simpa using distinct
  simp only [insert, get?]
  induction entries with
  | nil => simp [insertEntry, List.lookup_cons, unequal]
  | cons entry rest ih =>
      obtain ⟨key, old⟩ := entry
      by_cases same : name = key
      · subst same
        simp [insertEntry, List.lookup_cons, unequal]
      · by_cases less : name < key
        · simp [insertEntry, same, less, List.lookup_cons, unequal]
        · simp only [insertEntry, same, less, if_false, List.lookup_cons, ih]

@[simp] theorem get?_erase_self (table : Table ν) (name : String) :
    (table.erase name).get? name = none := by
  simp only [erase, get?, List.lookup_eq_none_iff, List.mem_filter]
  intro entry member
  have different : entry.1 ≠ name := by simpa using member.2
  simpa using different.symm

@[simp] theorem get?_erase_of_ne {name other : String} (distinct : other ≠ name)
    (table : Table ν) : (table.erase name).get? other = table.get? other := by
  obtain ⟨entries⟩ := table
  simp only [erase, get?]
  induction entries with
  | nil => rfl
  | cons entry rest ih =>
      obtain ⟨key, old⟩ := entry
      by_cases same : key = name
      · have different : (other == name) = false := by simpa using distinct
        simp [same, List.lookup_cons, different, ih]
      · have kept : (key != name) = true := by simpa using same
        simp only [List.filter, kept, List.lookup_cons, ih]

theorem get?_insert (table : Table ν) (name other : String) (value : ν) :
    (table.insert name value).get? other =
      if other = name then some value else table.get? other := by
  by_cases same : other = name
  · subst same
    simp
  · simp [same]

theorem get?_erase (table : Table ν) (name other : String) :
    (table.erase name).get? other = if other = name then none else table.get? other := by
  by_cases same : other = name
  · subst same
    simp
  · simp [same]

theorem contains_insert (table : Table ν) (name other : String) (value : ν) :
    (table.insert name value).contains other = (other == name || table.contains other) := by
  by_cases same : other = name
  · simp [contains, same]
  · simp [contains, same]

theorem contains_insert_of_contains {table : Table ν} {name other : String} {value : ν}
    (there : table.contains other = true) : (table.insert name value).contains other = true := by
  rw [contains_insert, there, Bool.or_true]

theorem contains_of_contains_erase {table : Table ν} {name other : String}
    (there : (table.erase name).contains other = true) : table.contains other = true := by
  rw [contains, get?_erase] at there
  split at there
  · cases there
  · exact there

end Table

end Stowage
