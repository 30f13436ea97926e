import Stowage.Naming

/-! # The grammar of container names

A name breaks no rule if and only if it is that of the root container or a letter or digit followed
by two to sixty-two letters, digits and hyphens (`violations_eq_nil_iff`).  The rules that a name
breaks are reported in a fixed order, each of them once.
-/

namespace Stowage.Naming

/-- A digit or a lower-case letter of ASCII. -/
def IsAlphanumeric (c : Char) : Prop :=
  ('0' ≤ c ∧ c ≤ '9') ∨ ('a' ≤ c ∧ c ≤ 'z')

instance {c : Char} : Decidable (IsAlphanumeric c) :=
  inferInstanceAs (Decidable (_ ∨ _))

/-- The names that containers can have. -/
def IsName (name : String) : Prop :=
  name = root ∨ ∃ first rest, name.toList = first :: rest ∧ IsAlphanumeric first ∧
    (∀ c ∈ rest, IsAlphanumeric c ∨ c = '-') ∧ 2 ≤ rest.length ∧ rest.length ≤ 62

/-- The rules in the order in which they are reported. -/
def rules : List Violation :=
  [.characters, .length, .leadingHyphen]

/-- Whether a name breaks a rule. -/
def Violation.IsBrokenBy (name : String) : Violation → Prop
  | .characters =>
    name ≠ root ∧ (name.toList = [] ∨ ∃ c ∈ name.toList, ¬IsAlphanumeric c ∧ c ≠ '-')
  | .length => name.toList.length < 3 ∨ 63 < name.toList.length
  | .leadingHyphen => ∃ rest, name.toList = '-' :: rest

variable {name : String} {c : Char}

theorem isNameChar_iff : isNameChar c = true ↔ IsAlphanumeric c ∨ c = '-' := by
  have digit : c.isDigit = true ↔ '0' ≤ c ∧ c ≤ '9' :=
    Bool.and_eq_true_iff.trans (and_congr decide_eq_true_iff decide_eq_true_iff)
  simp only [isNameChar, IsAlphanumeric, Bool.or_eq_true, digit, Bool.and_eq_true,
    decide_eq_true_eq, beq_iff_eq]

theorem hasNameChars_iff : hasNameChars name = true ↔
    name = root ∨ name.toList ≠ [] ∧ ∀ c ∈ name.toList, IsAlphanumeric c ∨ c = '-' := by
  simp only [hasNameChars, Bool.or_eq_true, beq_iff_eq, Bool.and_eq_true, List.all_eq_true,
    isNameChar_iff]
  simp

theorem not_hasNameChars_iff :
    hasNameChars name = false ↔ Violation.characters.IsBrokenBy name := by
  rw [← Bool.not_eq_true, hasNameChars_iff, Violation.IsBrokenBy, not_or]
  refine and_congr_right fun _ => ?_
  by_cases empty : name.toList = []
  · simp [empty]
  · simp [empty]

theorem mem_violations_iff (rule : Violation) :
    rule ∈ violations name ↔ rule.IsBrokenBy name := by
  cases rule with
  | characters =>
      rw [← not_hasNameChars_iff]
      simp only [violations, List.mem_append]
      cases hasNameChars name <;> simp
  | length =>
      rw [Violation.IsBrokenBy, String.length_toList]
      simp [violations]
      rfl
  | leadingHyphen =>
      simp [violations, Violation.IsBrokenBy, List.head?_eq_some_iff]

theorem violations_sublist : (violations name).Sublist rules := by
  have kept {p : Prop} [Decidable p] (rule : Violation) :
      (if p then [rule] else []).Sublist [rule] := by
    split <;> simp
  have dropped {p : Prop} [Decidable p] (rule : Violation) :
      (if p then [] else [rule]).Sublist [rule] := by
    split <;> simp
  exact ((dropped .characters).append (kept .length)).append (kept .leadingHyphen)

theorem isName_of_unbroken (unbroken : ∀ rule : Violation, ¬rule.IsBrokenBy name) :
    IsName name := by
  by_cases isRoot : name = root
  · exact .inl isRoot
  have filled := unbroken .characters
  have bounded := unbroken .length
  have leading := unbroken .leadingHyphen
  simp only [Violation.IsBrokenBy, isRoot, ne_eq, not_false_eq_true, true_and, not_or] at filled
  simp only [Violation.IsBrokenBy, not_or, Nat.not_lt] at bounded
  cases spelled : name.toList with
  | nil => exact absurd spelled filled.1
  | cons first rest =>
      rw [spelled, List.length_cons] at bounded
      have letters : ∀ c ∈ first :: rest, IsAlphanumeric c ∨ c = '-' := by
        intro c member
        rw [← spelled] at member
        by_cases letter : IsAlphanumeric c
        · exact .inl letter
        · exact .inr (Decidable.byContradiction fun other => filled.2 ⟨c, member, letter, other⟩)
      have head : IsAlphanumeric first := by
        refine (letters first List.mem_cons_self).resolve_right fun hyphen => ?_
        exact leading ⟨rest, by rw [spelled, hyphen]⟩
      exact .inr ⟨first, rest, spelled, head, fun c member =>
        letters c (List.mem_cons_of_mem _ member), by omega, by omega⟩

theorem IsName.unbroken (named : IsName name) (rule : Violation) : ¬rule.IsBrokenBy name := by
  intro broken
  rcases named with rfl | ⟨first, rest, spelled, head, letters, least, most⟩
  · have lawful : violations root = [] := by decide
    have reported := (mem_violations_iff rule).mpr broken
    rw [lawful] at reported
    cases reported
  cases rule with
  | characters =>
      obtain ⟨_, empty | ⟨c, member, other, hyphen⟩⟩ := broken
      · cases spelled.symm.trans empty
      · rw [spelled] at member
        rcases List.mem_cons.mp member with rfl | member
        · exact other head
        · exact (letters c member).elim other hyphen
  | length =>
      simp only [Violation.IsBrokenBy, spelled, List.length_cons] at broken
      omega
  | leadingHyphen =>
      obtain ⟨others, same⟩ := broken
      obtain ⟨rfl, _⟩ := List.cons.inj (spelled.symm.trans same)
      revert head
      decide

/-- A name breaks no rule if and only if it has the form of a container name. -/
theorem violations_eq_nil_iff : violations name = [] ↔ IsName name := by
  have unbroken : violations name = [] ↔ ∀ rule : Violation, ¬rule.IsBrokenBy name := by
    simp only [← mem_violations_iff, List.eq_nil_iff_forall_not_mem]
  rw [unbroken]
  exact ⟨isName_of_unbroken, IsName.unbroken⟩

end Stowage.Naming
