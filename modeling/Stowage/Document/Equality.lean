import Stowage.Decimal.Double
import Stowage.Document.Basic

/-! # Equality of documents

Truth values, integers and doubles are one kind of number here: they are equal when their values
are.  Objects are equal when they hold the same values under the same names, in any order.
-/

namespace Stowage.Document

/-- A document as a number, where it is one: an integer or a double. -/
inductive Numeral where
  | whole (value : Int)
  | double (value : Float)

def numeral? : Document → Option Numeral
  | .bool value => some (.whole (if value then 1 else 0))
  | .int value => some (.whole value)
  | .real value => some (.double value)
  | _ => none

def Numeral.same : Numeral → Numeral → Bool
  | .whole m, .whole n => m == n
  | .double x, .double y => x == y
  | .whole n, .double x | .double x, .whole n =>
    match Dyadic.ofFloat? x with
    | some exact => exact.isInt n
    | none => false

mutual

def same : Document → Document → Bool
  | .null, other => match other with
    | .null => true
    | _ => false
  | .text value, other => match other with
    | .text value' => value == value'
    | _ => false
  | .list items, other => match other with
    | .list items' => sameItems items items'
    | _ => false
  | .object fields, other => match other with
    | .object fields' => fields.length == fields'.length && sameFields fields fields'
    | _ => false
  | .bool value, other => sameNumber (.whole (if value then 1 else 0)) other
  | .int value, other => sameNumber (.whole value) other
  | .real value, other => sameNumber (.double value) other

def sameItems : List Document → List Document → Bool
  | [], [] => true
  | item :: items, item' :: items' => same item item' && sameItems items items'
  | _, _ => false

def sameFields : List (String × Document) → List (String × Document) → Bool
  | [], _ => true
  | (name, value) :: rest, fields =>
    (match fields.lookup name with
      | some value' => same value value'
      | none => false) && sameFields rest fields

def sameNumber (number : Numeral) (other : Document) : Bool :=
  match other.numeral? with
  | some number' => number.same number'
  | none => false

end

/-- Whether a document counts as false: nothing, zero, and what is empty. -/
def isEmpty : Document → Bool
  | .null => true
  | .bool value => !value
  | .int value => value == 0
  | .real value => value == 0
  | .text value => value.isEmpty
  | .list items => items.isEmpty
  | .object fields => fields.isEmpty

end Stowage.Document
