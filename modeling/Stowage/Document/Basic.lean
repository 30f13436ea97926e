/-! # Documents

The values that configurations, stored states, declarations and template contexts are made of.
Objects keep the order of their fields.
-/

namespace Stowage

inductive Document where
  | null
  | bool (value : Bool)
  | int (value : Int)
  | real (value : Float)
  | text (value : String)
  | list (items : List Document)
  | object (fields : List (String × Document))
deriving Inhabited

namespace Document

/-- The fields of an object, in order. -/
abbrev Fields := List (String × Document)

def Fields.get? (fields : Fields) (name : String) : Option Document :=
  fields.lookup name

/-- Writes a field: in its place if it is there, at the end if not. -/
def Fields.set (name : String) (value : Document) : Fields → Fields
  | [] => [(name, value)]
  | (key, old) :: rest =>
    if key = name then (key, value) :: rest else (key, old) :: set name value rest

/-- Writes the fields one by one, so that the last value of a name wins and the first decides its
place. -/
def Fields.ofList (fields : List (String × Document)) : Fields :=
  fields.foldl (fun kept field => kept.set field.1 field.2) []

theorem Fields.get?_set_self (fields : Fields) (name : String) (value : Document) :
    (Fields.set name value fields).get? name = some value := by
  induction fields with
  | nil => simp [Fields.set, Fields.get?]
  | cons field rest ih =>
      obtain ⟨key, old⟩ := field
      by_cases same : key = name
      · simp [Fields.set, Fields.get?, same]
      · have different : (name == key) = false := by simpa using Ne.symm same
        simpa [Fields.set, Fields.get?, List.lookup_cons, same, different] using ih

theorem Fields.get?_set_of_ne {name other : String} (distinct : other ≠ name) (fields : Fields)
    (value : Document) : (Fields.set name value fields).get? other = fields.get? other := by
  induction fields with
  | nil =>
      have different : (other == name) = false := by simpa using distinct
      simp [Fields.set, Fields.get?, List.lookup_cons, different]
  | cons field rest ih =>
      obtain ⟨key, old⟩ := field
      by_cases same : key = name
      · subst same
        have different : (other == key) = false := by simpa using distinct
        simp [Fields.set, Fields.get?, List.lookup_cons, different]
      · simp only [Fields.set, same, if_false, Fields.get?, List.lookup_cons]
        cases (other == key) with
        | true => rfl
        | false => exact ih

end Document

end Stowage
