import Stowage.Text.Case

/-! # Texts that are lowered to ASCII letters

A lower form can be made of ASCII letters although the text is not: the Kelvin sign is lowered to a
`k`, and it is the only such character (`eq_kelvinSign_of_lowerChar`).  For words without that
letter, lowering a text and ignoring the case of its ASCII letters come to the same
(`lower_eq_iff_eqIgnoringCase`).
-/

namespace Stowage.Text

/-- The one character beyond ASCII whose lower form is a letter of ASCII. -/
def kelvinSign : Char := '\u212a'

theorem toNat_lt_of_isAlpha {c : Char} (letter : c.isAlpha = true) : c.toNat < 0x80 := by
  rcases Bool.or_eq_true_iff.mp letter with upper | lower
  · have bounds : 65 ≤ c.val.toNat ∧ c.val.toNat ≤ 90 := of_decide_eq_true upper
    exact Nat.lt_of_le_of_lt bounds.2 (by decide)
  · have bound : c.val.toNat ≤ 122 := of_decide_eq_true (Bool.and_eq_true_iff.mp lower).2
    exact Nat.lt_of_le_of_lt bound (by decide)

theorem lt_of_isAlpha_ofNat {n : Nat} (letter : (Char.ofNat n).isAlpha = true) : n < 0x80 := by
  have bound := toNat_lt_of_isAlpha letter
  by_cases valid : n.isValidChar
  · rw [Char.ofNat, dif_pos valid] at bound
    exact bound
  · rw [Char.ofNat, dif_neg valid] at letter
    cases letter

theorem lowerRuns_cases : ∀ run ∈ lowerRuns, 0x80 ≤ run.first + run.shift ∨
    run.first = kelvinSign.toNat ∧ run.last = kelvinSign.toNat := by
  have checked : lowerRuns.all (fun run => decide (0x80 ≤ run.first + run.shift) ||
      decide (run.first = kelvinSign.toNat) && decide (run.last = kelvinSign.toNat)) = true := by
    decide +kernel
  intro run member
  simpa using List.all_eq_true.mp checked run member

variable {before after text : List Char} {c : Char}

/-- Beyond ASCII only the Kelvin sign has a lower form of ASCII letters. -/
theorem eq_kelvinSign_of_lowerChar (beyond : 0x80 ≤ c.toNat)
    (letters : ∀ d ∈ lowerChar before c after, d.isAlpha = true) : c = kelvinSign := by
  have wide : ¬c.val < 0x80 := Nat.not_lt.mpr beyond
  rw [lowerChar, if_neg wide] at letters
  split at letters
  · cases letters '\u0307' (by simp)
  split at letters
  · split at letters <;> cases letters _ List.mem_cons_self
  have letter := letters _ List.mem_cons_self
  rw [CaseRun.apply] at letter
  cases found : lowerRuns.find? (fun run =>
      run.first ≤ c.toNat && c.toNat ≤ run.last && (c.toNat - run.first) % run.step == 0) with
  | none =>
      rw [found] at letter
      exact absurd (toNat_lt_of_isAlpha letter) (Nat.not_lt.mpr beyond)
  | some run =>
      rw [found] at letter
      have low := lt_of_isAlpha_ofNat letter
      have within := List.find?_some found
      simp only [Bool.and_eq_true, decide_eq_true_eq] at within
      rcases lowerRuns_cases run (List.mem_of_find?_eq_some found) with high | ⟨first, last⟩
      · omega
      · exact Char.toNat_inj.mp (by omega)

theorem lowerChar_kelvinSign : lowerChar before kelvinSign after = ['k'] := rfl

/-- A text whose lower form has ASCII letters alone, and no `k` among them, is ASCII itself. -/
theorem ascii_of_lowerFrom
    (letters : ∀ d ∈ lowerFrom before text, d.isAlpha = true ∧ d ≠ 'k') :
    ∀ c ∈ text, c.val < 0x80 := by
  induction text generalizing before with
  | nil => exact nofun
  | cons first rest ih =>
      rw [lowerFrom] at letters
      refine List.forall_mem_cons.mpr ⟨?_, ih fun d member =>
        letters d (List.mem_append_right _ member)⟩
      refine Nat.lt_of_not_le fun beyond => ?_
      obtain rfl := eq_kelvinSign_of_lowerChar beyond fun d member =>
        (letters d (List.mem_append_left _ member)).1
      rw [lowerChar_kelvinSign] at letters
      exact (letters 'k' List.mem_cons_self).2 rfl

/-- For a word of lower-case letters without `k`, lowering finds the texts that differ from it in
the case of ASCII letters, and no others. -/
theorem lower_eq_iff_eqIgnoringCase {word : List Char}
    (letters : ∀ d ∈ word, d.isAlpha = true ∧ d ≠ 'k') (lowered : word.map Char.toLower = word) :
    lower text = word ↔ EqIgnoringCase text word := by
  rw [EqIgnoringCase, lowered]
  constructor
  · intro same
    have ascii := ascii_of_lowerFrom fun d member => letters d (same ▸ member)
    rw [← same, lower_ascii text ascii]
  · intro same
    have ascii : ∀ c ∈ text, c.val < 0x80 := by
      intro c member
      have letter := (letters c.toLower (same ▸ List.mem_map_of_mem member)).1
      exact toNat_lt_of_isAlpha (isAlpha_of_toLower letter)
    rw [lower_ascii text ascii, same]

end Stowage.Text
