import Mathlib.Algebra.Order.Ring.Rat
import Mathlib.Data.Rat.Cast.CharZero
import Mathlib.Tactic.NormNum
import Mathlib.Tactic.Ring
import Stowage.Engine
import Stowage.Migration
import Stowage.Proofs.Configuration
import Stowage.Proofs.Identity.RoundTrip

/-! # What migration does to a state

The version of a state is compared as a number (`same_int_iff`), so that a truth value or a double
can stand for it.  A state of version 0 gets a new id from two of its attributes and keeps all else;
one of version 1 is kept as it is; every other version is refused (`run_migrates`).  What has to be
written on the way, into the id or into the message about a version, may hold an integer that is too
long for that (`Document.display?_eq_none_iff`).
-/

namespace Stowage

/-! ## Versions as numbers -/

namespace Dyadic

/-- The number that a sign, a mantissa and a power of two stand for. -/
def value (x : Dyadic) : ℚ :=
  (if x.negative then -1 else 1) * x.mantissa * 2 ^ x.exponent

theorem value_eq_div (x : Dyadic) :
    x.value = (if x.negative then -1 else 1) * x.numerator / x.denominator := by
  have power : (2 : ℚ) ^ x.exponent = 2 ^ x.exponent.toNat / 2 ^ (-x.exponent).toNat := by
    conv_lhs => rw [← Int.toNat_sub_toNat_neg x.exponent]
    rw [zpow_sub₀ two_ne_zero, zpow_natCast, zpow_natCast]
  have up : (x.numerator : ℚ) = x.mantissa * 2 ^ x.exponent.toNat := by simp [numerator]
  have down : (x.denominator : ℚ) = 2 ^ (-x.exponent).toNat := by simp [denominator]
  rw [value, power, up, down]
  ring

theorem isInt_iff (x : Dyadic) (n : Int) : x.isInt n = true ↔ x.value = n := by
  have filled : (x.denominator : ℚ) ≠ 0 := Nat.cast_ne_zero.mpr x.denominator_pos.ne'
  rw [value_eq_div, div_eq_iff filled, isInt, beq_iff_eq]
  cases x.negative
  · simp only [Bool.false_eq_true, if_false, one_mul]
    exact_mod_cast Iff.rfl
  · simp only [if_true, neg_one_mul]
    exact_mod_cast Iff.rfl

end Dyadic

namespace Document

/-- The number that a document stands for: truth values count as one and zero. -/
def number? : Document → Option ℚ
  | .bool value => some (if value then 1 else 0)
  | .int value => some value
  | .real value => (Dyadic.ofFloat? value).map Dyadic.value
  | _ => none

theorem same_int_iff {document : Document} {n : Int} :
    document.same (.int n) = true ↔ document.number? = some (n : ℚ) := by
  cases document with
  | bool value =>
      cases value <;> simp only [same, sameNumber, numeral?, Numeral.same, number?, beq_iff_eq,
        Option.some.injEq] <;> exact_mod_cast Iff.rfl
  | real value =>
      cases exact : Dyadic.ofFloat? value with
      | none => simp [same, sameNumber, numeral?, Numeral.same, number?, exact]
      | some dyadic =>
          simp [same, sameNumber, numeral?, Numeral.same, number?, exact, Dyadic.isInt_iff]
  | int value => simp [same, sameNumber, numeral?, Numeral.same, number?]
  | null | text | list | object => simp [same, number?]

theorem Fields.map_fst_set (name : String) (value : Document) (fields : Fields) :
    (fields.set name value).map Prod.fst =
      if name ∈ fields.map Prod.fst then fields.map Prod.fst
      else fields.map Prod.fst ++ [name] := by
  induction fields with
  | nil => rfl
  | cons field rest ih =>
      obtain ⟨key, old⟩ := field
      by_cases same : key = name
      · simp [Fields.set, same]
      · simp only [Fields.set, same, if_false, List.map_cons, ih, List.mem_cons, Ne.symm same,
          false_or]
        split <;> rfl

/-! ## Documents that cannot be written -/

/-- The document is an integer of too many digits, or holds one somewhere. -/
inductive IsUnwritable : Document → Prop
  | int {value : Int} (long : 10 ^ Decimal.maxDigits ≤ value.natAbs) : IsUnwritable (.int value)
  | item {items : List Document} {item : Document} (member : item ∈ items)
      (unwritable : IsUnwritable item) : IsUnwritable (.list items)
  | field {fields : Fields} {field : String × Document} (member : field ∈ fields)
      (unwritable : IsUnwritable field.2) : IsUnwritable (.object fields)

theorem wholeText?_eq_none_iff {n : Int} :
    Decimal.wholeText? n = none ↔ 10 ^ Decimal.maxDigits ≤ n.natAbs := by
  have short : (Decimal.figures n.natAbs).length ≤ Decimal.maxDigits ↔
      n.natAbs < 10 ^ Decimal.maxDigits :=
    Nat.length_toDigits_le_iff (by decide) (by decide)
  rw [← not_lt, ← short, Decimal.wholeText?]
  split <;> simp_all

mutual

theorem literal?_eq_none_iff : (document : Document) →
    (document.literal? = none ↔ document.IsUnwritable)
  | .null => ⟨nofun, nofun⟩
  | .bool true => ⟨nofun, nofun⟩
  | .bool false => ⟨nofun, nofun⟩
  | .real _ => ⟨nofun, nofun⟩
  | .text _ => ⟨nofun, nofun⟩
  | .int value => by
      rw [literal?, wholeText?_eq_none_iff]
      exact ⟨.int, fun | .int long => long⟩
  | .list items => by
      have inner := literalItems?_eq_none_iff items
      constructor
      · intro none
        cases written : literalItems? items with
        | none =>
            obtain ⟨item, member, unwritable⟩ := inner.mp written
            exact .item member unwritable
        | some literals =>
            rw [literal?, written] at none
            cases none
      · rintro (_ | ⟨member, unwritable⟩ | _)
        rw [literal?, inner.mpr ⟨_, member, unwritable⟩]
        rfl
  | .object fields => by
      have inner := literalFields?_eq_none_iff fields
      constructor
      · intro none
        cases written : literalFields? fields with
        | none =>
            obtain ⟨field, member, unwritable⟩ := inner.mp written
            exact .field member unwritable
        | some literals =>
            rw [literal?, written] at none
            cases none
      · rintro (_ | _ | ⟨member, unwritable⟩)
        rw [literal?, inner.mpr ⟨_, member, unwritable⟩]
        rfl

theorem literalItems?_eq_none_iff : (items : List Document) →
    (literalItems? items = none ↔ ∃ item ∈ items, item.IsUnwritable)
  | [] => by simp [literalItems?]
  | item :: items => by
      rw [List.exists_mem_cons_iff, ← literal?_eq_none_iff item,
        ← literalItems?_eq_none_iff items, literalItems?]
      cases item.literal? <;> cases literalItems? items <;> simp

theorem literalFields?_eq_none_iff : (fields : List (String × Document)) →
    (literalFields? fields = none ↔ ∃ field ∈ fields, field.2.IsUnwritable)
  | [] => by simp [literalFields?]
  | (name, value) :: fields => by
      rw [List.exists_mem_cons_iff, ← literal?_eq_none_iff value,
        ← literalFields?_eq_none_iff fields, literalFields?]
      cases value.literal? <;> cases literalFields? fields <;> simp

end

theorem display?_eq_none_iff {document : Document} :
    document.display? = none ↔ document.IsUnwritable := by
  rw [← literal?_eq_none_iff]
  cases document with
  | text => exact ⟨nofun, nofun⟩
  | _ => exact Iff.rfl

theorem exists_display?_eq_some {document : Document} (writable : ¬document.IsUnwritable) :
    ∃ text, document.display? = some text :=
  Option.ne_none_iff_exists'.mp (mt display?_eq_none_iff.mp writable)

end Document

namespace Migration

open Identity

/-! ## Attributes -/

/-- The attributes of a state: those of an object, and none where the field is absent or holds what
counts as false. -/
inductive HasAttributes (state : Document.Fields) : Document.Fields → Prop
  | given {fields : Document.Fields} (held : state.get? "attributes" = some (.object fields)) :
      HasAttributes state fields
  | absent (missing : state.get? "attributes" = none) : HasAttributes state []
  | empty {value : Document} (held : state.get? "attributes" = some value)
      (empty : value.isEmpty = true) : HasAttributes state []

/-- The field for attributes holds something, and no object. -/
def HoldsNoObject (state : Document.Fields) : Prop :=
  ∃ value, state.get? "attributes" = some value ∧ value.isEmpty = false ∧
    ∀ fields, value ≠ .object fields

variable {state fields : Document.Fields} {version : Document} {environment : Environment}

theorem attributes_of_has (has : HasAttributes state fields) : attributes state = .ok fields := by
  cases has with
  | given held => rw [attributes, held]
  | absent missing => rw [attributes, missing]
  | @empty value held empty =>
      rw [attributes, held]
      cases value with
      | object fields =>
          obtain rfl : fields = [] := List.isEmpty_iff.mp empty
          rfl
      | _ => simp only [empty, if_true]

theorem attributes_of_holdsNoObject (other : HoldsNoObject state) :
    attributes state = .error .attributesNotObject := by
  obtain ⟨value, held, filled, noObject⟩ := other
  rw [attributes, held]
  cases value with
  | object fields => exact absurd rfl (noObject fields)
  | _ => simp only [filled, Bool.false_eq_true, if_false]

/-- A state has attributes, or its field for them is unusable. -/
theorem exists_hasAttributes_or (state : Document.Fields) :
    (∃ fields, HasAttributes state fields) ∨ HoldsNoObject state := by
  cases held : state.get? "attributes" with
  | none => exact .inl ⟨[], .absent held⟩
  | some value =>
      cases filled : value.isEmpty with
      | true => exact .inl ⟨[], .empty held filled⟩
      | false =>
          by_cases object : ∃ fields, value = .object fields
          · obtain ⟨fields, rfl⟩ := object
            exact .inl ⟨fields, .given held⟩
          · exact .inr ⟨value, held, filled, fun fields same => object ⟨fields, same⟩⟩

/-! ## One version after the other -/

/-- The state with another id: in the place of the old one, or behind all other fields. -/
structure IsRewritten (state : Document.Fields) (id : String) (after : Document.Fields) : Prop where
  id : after.get? "id" = some (.text id)
  others {key : String} (other : key ≠ "id") : after.get? key = state.get? key
  keys : after.map Prod.fst =
    if "id" ∈ state.map Prod.fst then state.map Prod.fst else state.map Prod.fst ++ ["id"]

theorem isRewritten_set (state : Document.Fields) (id : String) :
    IsRewritten state id (state.set "id" (.text id)) where
  id := Document.Fields.get?_set_self state "id" _
  others other := Document.Fields.get?_set_of_ne other state _
  keys := Document.Fields.map_fst_set "id" _ state

theorem isOld_iff : version.same (.int 0) = true ↔ version.number? = some 0 := by
  simpa using @Document.same_int_iff version 0

theorem isCurrent_iff : version.same currentVersion = true ↔ version.number? = some 1 := by
  simpa [currentVersion] using @Document.same_int_iff version 1

theorem run_of_zero (zero : version.number? = some 0) :
    run version state environment = (newId state environment).map fun id =>
      ⟨.int 1, state.set "id" (.text id),
        ((state.get? "id").getD .null).display?.map fun old => .migrating old id⟩ := by
  rw [run, if_pos (isOld_iff.mpr zero)]
  cases newId state environment <;> rfl

theorem run_of_one (one : version.number? = some 1) :
    run version state environment = .ok ⟨version, state, none⟩ := by
  have newer : ¬version.same (.int 0) = true := by
    rw [isOld_iff, one]
    norm_num
  rw [run, if_neg newer, if_pos (isCurrent_iff.mpr one)]

theorem run_of_other (noZero : version.number? ≠ some 0) (noOne : version.number? ≠ some 1) :
    run version state environment =
      written version >>= fun text => .error (.unknownVersion text) := by
  rw [run, if_neg (isOld_iff.not.mpr noZero), if_neg (isCurrent_iff.not.mpr noOne)]

theorem written_of_some {document : Document} {text : String}
    (shown : document.display? = some text) : written document = .ok text := by
  rw [written, shown]

theorem written_of_unwritable {document : Document} (unwritable : document.IsUnwritable) :
    written document = .error .unwritable := by
  rw [written, Document.display?_eq_none_iff.mpr unwritable]

/-- A document has a text, or writing it is the fault. -/
theorem written_cases (document : Document) :
    (∃ text, written document = .ok text) ∨ written document = .error .unwritable := by
  cases shown : document.display? with
  | none => exact .inr (written_of_unwritable (Document.display?_eq_none_iff.mp shown))
  | some text => exact .inl ⟨text, written_of_some shown⟩

theorem newId_of_holdsNoObject (other : HoldsNoObject state) :
    newId state environment = .error .attributesNotObject := by
  rw [newId, attributes_of_holdsNoObject other]
  rfl

theorem attributeNamed_of_some {name : String} {value : Document}
    (held : fields.get? name = some value) : attributeNamed fields name = .ok value := by
  rw [attributeNamed, held]

theorem attributeNamed_of_none {name : String} (missing : fields.get? name = none) :
    attributeNamed fields name = .error (.missingAttribute name) := by
  rw [attributeNamed, missing]

theorem newId_of_has (has : HasAttributes state fields) : newId state environment = do
    let name ← attributeNamed fields "name"
    let account ← attributeNamed fields "storage_account_name"
    return encode (← written account) (← written name) environment.suffix := by
  rw [newId, attributes_of_has has]
  rfl

theorem newId_of_nameless (has : HasAttributes state fields)
    (nameless : fields.get? "name" = none) :
    newId state environment = .error (.missingAttribute "name") := by
  rw [newId_of_has has, attributeNamed_of_none nameless]
  rfl

section Named

variable {name account : Document} (has : HasAttributes state fields)
  (named : fields.get? "name" = some name)

include has named

theorem newId_of_ownerless (ownerless : fields.get? "storage_account_name" = none) :
    newId state environment = .error (.missingAttribute "storage_account_name") := by
  rw [newId_of_has has, attributeNamed_of_some named, attributeNamed_of_none ownerless]
  rfl

theorem newId_of_owned (owned : fields.get? "storage_account_name" = some account) :
    newId state environment = do
      return encode (← written account) (← written name) environment.suffix := by
  rw [newId_of_has has, attributeNamed_of_some named, attributeNamed_of_some owned]
  rfl

theorem newId_of_written {accountText nameText : String}
    (owned : fields.get? "storage_account_name" = some account)
    (accountShown : account.display? = some accountText)
    (nameShown : name.display? = some nameText) :
    newId state environment = .ok (encode accountText nameText environment.suffix) := by
  rw [newId_of_owned has named owned, written_of_some accountShown, written_of_some nameShown]
  rfl

theorem newId_of_unwritable (owned : fields.get? "storage_account_name" = some account)
    (unwritable : account.IsUnwritable ∨ name.IsUnwritable) :
    newId state environment = .error .unwritable := by
  rw [newId_of_owned has named owned]
  rcases unwritable with unwritable | unwritable
  · rw [written_of_unwritable unwritable]
    rfl
  · rw [written_of_unwritable unwritable]
    rcases written_cases account with ⟨text, shown⟩ | unwritten
    · rw [shown]
      rfl
    · rw [unwritten]
      rfl

end Named

/-- Attributes are the fault if and only if they are no object. -/
theorem newId_eq_attributesNotObject_iff :
    newId state environment = .error .attributesNotObject ↔ HoldsNoObject state := by
  refine ⟨fun refused => ?_, newId_of_holdsNoObject⟩
  rcases exists_hasAttributes_or state with ⟨fields, has⟩ | other
  · exfalso
    cases named : fields.get? "name" with
    | none => cases (newId_of_nameless has named).symm.trans refused
    | some name =>
        cases owned : fields.get? "storage_account_name" with
        | none => cases (newId_of_ownerless has named owned).symm.trans refused
        | some account =>
            by_cases unwritable : account.IsUnwritable ∨ name.IsUnwritable
            · cases (newId_of_unwritable has named owned unwritable).symm.trans refused
            · obtain ⟨accountWritable, nameWritable⟩ := not_or.mp unwritable
              obtain ⟨_, accountShown⟩ := Document.exists_display?_eq_some accountWritable
              obtain ⟨_, nameShown⟩ := Document.exists_display?_eq_some nameWritable
              cases (newId_of_written has named owned accountShown nameShown).symm.trans refused
  · exact other

/-- What was brought up to date stays as it is when it is migrated again. -/
theorem run_run {upgraded : Upgraded} (migrated : run version state environment = .ok upgraded)
    (later : Environment) :
    run upgraded.version upgraded.state later = .ok ⟨upgraded.version, upgraded.state, none⟩ := by
  refine run_of_one ?_
  by_cases zero : version.number? = some 0
  · rw [run_of_zero zero] at migrated
    cases made : newId state environment with
    | error fault => simp [made, Except.map] at migrated
    | ok id =>
        rw [made] at migrated
        cases migrated
        simp [Document.number?]
  · by_cases one : version.number? = some 1
    · cases (run_of_one one).symm.trans migrated
      exact one
    · rw [run_of_other zero one] at migrated
      rcases written_cases version with ⟨text, shown⟩ | unwritable
      · rw [shown] at migrated
        cases migrated
      · rw [unwritable] at migrated
        cases migrated

/-- The id that a declared container gets is the one under which the engine looks for it. -/
theorem decode_encode_of_accepted {config : Config} (filled : config.account ≠ "")
    (hostAccount : IsHostText config.account) (hostSuffix : IsHostText environment.suffix) :
    decode (encode config.account config.name environment.suffix) environment.suffix =
      .ok ⟨config.account, config.name⟩ := by
  obtain ⟨filledName, segment⟩ := isSegmentText_of_lawful config.name_lawful
  exact decode_encode hostAccount filled hostSuffix segment filledName

/-- Negative zero is a version as well, and attributes need not be texts. -/
example : run (.real (-0.0)) [("attributes", .object [("name", .text "logs"),
      ("storage_account_name", .int 7)]), ("tags", .list [.null])] Environment.publicCloud =
    .ok ⟨.int 1, [("attributes", .object [("name", .text "logs"),
      ("storage_account_name", .int 7)]), ("tags", .list [.null]),
      ("id", .text "https://7.core.windows.net/logs")],
      some (.migrating "None" "https://7.core.windows.net/logs")⟩ := by
  rw [run_of_zero (isOld_iff.mp (by decide +kernel))]
  rfl

example : (Fault.missingAttribute "name").message = "v0 state is missing attribute 'name'" := by
  decide

end Migration

end Stowage
