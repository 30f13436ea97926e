import Stowage.Proofs.Text.Lowering
import Stowage.Identity.Compatibility

/-! # Classes of characters as sets of bits

A list of ranges is one number with a bit for each code point in it, so that whole classes are
compared at once: letters are no marks between letters, and none hides a delimiter.  The same
numbers say of every run of the case table that it maps letters to letters, from which
`lowerChar_cases` tells what the lower form of a character can be.
-/

namespace Stowage.Text

/-! ## The bits of a class -/

/-- The code points from `low` to `high` as bits. -/
def rangeMask (range : Nat × Nat) : Nat :=
  (1 <<< (range.2 + 1 - range.1) - 1) <<< range.1

/-- The code points of some ranges as bits. -/
def classMask (ranges : List (Nat × Nat)) : Nat :=
  ranges.foldr (fun range mask => rangeMask range ||| mask) 0

def asciiLetters : List (Nat × Nat) :=
  [(0x41, 0x5A), (0x61, 0x7A)]

def asciiMarks : List (Nat × Nat) :=
  [(0x27, 0x27), (0x2E, 0x2E), (0x3A, 0x3A), (0x5E, 0x5E), (0x60, 0x60)]

/-- The cased characters, those of ASCII with the others. -/
def casedMask : Nat :=
  classMask (asciiLetters ++ casedRanges)

/-- The marks between letters, those of ASCII with the others. -/
def markMask : Nat :=
  classMask (asciiMarks ++ caseMarkRanges)

variable {c : Char}

theorem testBit_rangeMask (range : Nat × Nat) (n : Nat) :
    (rangeMask range).testBit n = (decide (range.1 ≤ n) && decide (n ≤ range.2)) := by
  rw [rangeMask, Nat.testBit_shiftLeft, Nat.one_shiftLeft, Nat.testBit_two_pow_sub_one,
    Bool.eq_iff_iff]
  simp only [Bool.and_eq_true, decide_eq_true_eq]
  omega

theorem testBit_classMask (ranges : List (Nat × Nat)) (c : Char) :
    (classMask ranges).testBit c.toNat = inRanges ranges c := by
  induction ranges with
  | nil => simp [classMask, inRanges]
  | cons range rest ih =>
      have step : classMask (range :: rest) = rangeMask range ||| classMask rest := rfl
      rw [step, Nat.testBit_or, ih, testBit_rangeMask, inRanges, inRanges, List.any_cons]

theorem inRanges_append (left right : List (Nat × Nat)) (c : Char) :
    inRanges (left ++ right) c = (inRanges left c || inRanges right c) :=
  List.any_append

/-- A class that is given by one list of ranges below U+0080 and by another from there on. -/
theorem inRanges_append_of_split {low high : List (Nat × Nat)}
    (lowEnds : (low.all fun range => decide (range.2 < 0x80)) = true)
    (highStarts : (high.all fun range => decide (0x80 ≤ range.1)) = true) :
    inRanges (low ++ high) c = if c.val < 0x80 then inRanges low c else inRanges high c := by
  have small : c.val < 0x80 ↔ c.toNat < 0x80 := Iff.rfl
  simp only [inRanges_append, small]
  split
  · next ascii =>
    have none : inRanges high c = false := by
      rw [inRanges, List.any_eq_false]
      intro range listed inside
      have start := of_decide_eq_true (List.all_eq_true.mp highStarts range listed)
      simp only [Bool.and_eq_true, decide_eq_true_eq] at inside
      omega
    rw [none, Bool.or_false]
  · next beyond =>
    have none : inRanges low c = false := by
      rw [inRanges, List.any_eq_false]
      intro range listed inside
      have stop := of_decide_eq_true (List.all_eq_true.mp lowEnds range listed)
      simp only [Bool.and_eq_true, decide_eq_true_eq] at inside
      omega
    rw [none, Bool.false_or]

theorem isAlpha_eq_inRanges (c : Char) : c.isAlpha = inRanges asciiLetters c := by
  have listed : inRanges asciiLetters c = true ↔
      (65 ≤ c.toNat ∧ c.toNat ≤ 90) ∨ 97 ≤ c.toNat ∧ c.toNat ≤ 122 := by
    simp [inRanges, asciiLetters]
  rw [Bool.eq_iff_iff, listed]
  constructor
  · intro letter
    rcases Bool.or_eq_true_iff.mp letter with upper | lower
    · exact .inl (of_decide_eq_true upper)
    · obtain ⟨first, last⟩ := Bool.and_eq_true_iff.mp lower
      exact .inr ⟨of_decide_eq_true first, of_decide_eq_true last⟩
  · rintro (upper | ⟨first, last⟩)
    · exact Bool.or_eq_true_iff.mpr (.inl (decide_eq_true upper))
    · exact Bool.or_eq_true_iff.mpr
        (.inr (Bool.and_eq_true_iff.mpr ⟨decide_eq_true first, decide_eq_true last⟩))

theorem isCased_eq_testBit (c : Char) : isCased c = casedMask.testBit c.toNat := by
  rw [casedMask, testBit_classMask,
    inRanges_append_of_split (by decide) (by decide +kernel), isCased, isAlpha_eq_inRanges]

theorem isCaseMark_eq_testBit (c : Char) : isCaseMark c = markMask.testBit c.toNat := by
  have listed : decide (c ∈ ['\'', '.', ':', '^', '`']) = inRanges asciiMarks c := by
    rw [Bool.eq_iff_iff]
    simp [inRanges, asciiMarks, ← Char.toNat_inj, Nat.le_antisymm_iff]
    omega
  rw [markMask, testBit_classMask,
    inRanges_append_of_split (by decide) (by decide +kernel), isCaseMark, listed]

/-! ## Letters and what they are lowered to -/

theorem testBit_eq_false_of_apart {left right n : Nat} (apart : left &&& right = 0)
    (member : left.testBit n = true) : right.testBit n = false := by
  have both : (left.testBit n && right.testBit n) = false := by
    rw [← Nat.testBit_and, apart, Nat.zero_testBit]
  rwa [member, Bool.true_and] at both

theorem isCaseMark_of_isCased (cased : isCased c = true) : isCaseMark c = false := by
  have apart : casedMask &&& markMask = 0 := by decide +kernel
  rw [isCased_eq_testBit] at cased
  rw [isCaseMark_eq_testBit, testBit_eq_false_of_apart apart cased]

theorem hidesDelimiter_of_isCased (cased : isCased c = true) :
    Identity.hidesDelimiter c = false := by
  have apart : casedMask &&& classMask Identity.foldedDelimiters = 0 := by decide +kernel
  rw [isCased_eq_testBit] at cased
  rw [Identity.hidesDelimiter, ← testBit_classMask, testBit_eq_false_of_apart apart cased]

/-- Whether a code point is that of a letter, and so is its image, which is no final sigma. -/
def isLetterPair (source image : Nat) : Bool :=
  casedMask.testBit source && casedMask.testBit image && decide image.isValidChar &&
    image != 'ς'.toNat

/-- Whether every member of a run and its image are such letters. -/
def CaseRun.mapsLetters (run : CaseRun) : Bool :=
  (List.range ((run.last - run.first) / run.step + 1)).all fun k =>
    isLetterPair (run.first + run.step * k) ((run.first + run.step * k : Nat) + run.shift).toNat

theorem mapsLetters_lowerRuns : lowerRuns.all CaseRun.mapsLetters = true := by
  decide +kernel

theorem isLetterPair_of_mapsLetters {run : CaseRun} {n : Nat} (maps : run.mapsLetters = true)
    (start : run.first ≤ n) (stop : n ≤ run.last) (met : (n - run.first) % run.step = 0) :
    isLetterPair n (n + run.shift).toNat = true := by
  have place : run.first + run.step * ((n - run.first) / run.step) = n := by
    have divided := Nat.div_add_mod (n - run.first) run.step
    omega
  have bound : (n - run.first) / run.step ≤ (run.last - run.first) / run.step :=
    Nat.div_le_div_right (by omega)
  have checked := List.all_eq_true.mp maps _ (List.mem_range.mpr (Nat.lt_succ_of_le bound))
  rwa [place] at checked

theorem apply_lowerRuns (c : Char) :
    CaseRun.apply lowerRuns c = c ∨
      isCased c = true ∧ isCased (CaseRun.apply lowerRuns c) = true ∧
        CaseRun.apply lowerRuns c ≠ 'ς' := by
  rw [CaseRun.apply]
  split
  · next run found =>
    have inside := List.find?_some found
    simp only [Bool.and_eq_true, decide_eq_true_eq, beq_iff_eq] at inside
    have maps := List.all_eq_true.mp mapsLetters_lowerRuns run (List.mem_of_find?_eq_some found)
    have pair := isLetterPair_of_mapsLetters maps inside.1.1 inside.1.2 inside.2
    simp only [isLetterPair, Bool.and_eq_true, decide_eq_true_eq, bne_iff_ne] at pair
    obtain ⟨⟨⟨source, image⟩, valid⟩, other⟩ := pair
    have code : (Char.ofNat (c.toNat + run.shift).toNat).toNat = (c.toNat + run.shift).toNat := by
      rw [Char.ofNat, dif_pos valid]
      rfl
    refine .inr ⟨by rw [isCased_eq_testBit, source], ?_, fun same => other ?_⟩
    · rw [isCased_eq_testBit, code, image]
    · rw [← code, same]
  · exact .inl rfl

/-- What a character other than the dotted capital I is lowered to behind some text: itself, or a
letter for a letter.  A final sigma comes from a capital one behind a letter. -/
inductive LowersTo (before : List Char) (c : Char) : Char → Prop where
  | kept : LowersTo before c c
  | letter {image : Char} (cased : isCased c = true) (casedImage : isCased image = true)
      (final : image = 'ς' → c = 'Σ' ∧ meetsLetter before = true) : LowersTo before c image

theorem LowersTo.eq_of_uncased {before : List Char} {image : Char}
    (lowers : LowersTo before c image) (uncased : isCased image = false) : c = image := by
  cases lowers with
  | kept => rfl
  | letter _ casedImage _ =>
      rw [uncased] at casedImage
      cases casedImage

theorem lowerChar_cases (before after : List Char) (undotted : c ≠ 'İ') :
    ∃ image, LowersTo before c image ∧ lowerChar before c after = [image] := by
  rw [lowerChar]
  split
  · next ascii =>
    refine ⟨c.toLower, ?_, rfl⟩
    rcases toLower_eq_or c with same | ⟨upper, lower⟩
    · rw [same]
      exact .kept
    · have capital : c.isAlpha = true := Bool.or_eq_true_iff.mpr (.inl upper)
      have letter : c.toLower.isAlpha = true := Bool.or_eq_true_iff.mpr (.inr lower)
      have small : c.toLower.val < 0x80 := toNat_lt_of_isAlpha letter
      refine .letter ?_ ?_ fun same => ?_
      · simp [isCased, ascii, capital]
      · simp [isCased, small, letter]
      · rw [same] at small
        exact absurd small (by decide)
  · rw [if_neg (by simpa using undotted)]
    split
    · next sigma =>
      obtain rfl : c = 'Σ' := by simpa using sigma
      refine ⟨_, .letter (by decide) ?_ fun final => ?_, rfl⟩
      · split <;> decide
      · split at final
        · next inWord => exact ⟨rfl, (Bool.and_eq_true_iff.mp inWord).1⟩
        · exact absurd final (by decide)
    · refine ⟨_, ?_, rfl⟩
      rcases apply_lowerRuns c with same | ⟨cased, casedImage, other⟩
      · rw [same]
        exact .kept
      · exact .letter cased casedImage fun final => absurd final other

end Stowage.Text
