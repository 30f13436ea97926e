import Stowage.Proofs.Text.CharClass
import Mathlib.Data.List.Infix

/-! # Texts and their lower forms

What the characters around a text do to its lower form goes through one bit on each side: whether
a letter is met there.  Two texts can have one lower form for two reasons only.  The dotted capital
I is lowered to two characters, which may be written as such, so the texts need not have one length
(`exists_of_dottedForm_infix`).  And a final sigma is lowered to itself, but a capital one only
behind a letter (`lower_eq_of_lowerFrom_eq`).
-/

namespace Stowage.Text

variable {c d : Char} {before before' after after' text left right right' : List Char}

/-! ## The sides of a text -/

theorem meetsLetter_cons (c : Char) (side : List Char) :
    meetsLetter (c :: side) = if isCaseMark c then meetsLetter side else isCased c := by
  cases mark : isCaseMark c <;> simp [meetsLetter, mark]

theorem meetsLetter_cons_of_isCased (cased : isCased c = true) (side : List Char) :
    meetsLetter (c :: side) = true := by
  rw [meetsLetter_cons, isCaseMark_of_isCased cased, if_neg Bool.false_ne_true, cased]

theorem meetsLetter_cons_of_isCaseMark (mark : isCaseMark c = true) (side : List Char) :
    meetsLetter (c :: side) = meetsLetter side := by
  rw [meetsLetter_cons, if_pos mark]

theorem meetsLetter_cons_of_letters (left right : List Char) (cased : isCased c = true)
    (cased' : isCased d = true) : meetsLetter (c :: left) = meetsLetter (d :: right) := by
  rw [meetsLetter_cons_of_isCased cased, meetsLetter_cons_of_isCased cased']

theorem meetsLetter_cons_congr (c : Char) (same : meetsLetter left = meetsLetter right) :
    meetsLetter (c :: left) = meetsLetter (c :: right) := by
  rw [meetsLetter_cons, meetsLetter_cons, same]

theorem meetsLetter_append_congr (left : List Char)
    (same : meetsLetter right = meetsLetter right') :
    meetsLetter (left ++ right) = meetsLetter (left ++ right') := by
  induction left with
  | nil => exact same
  | cons c rest ih => exact meetsLetter_cons_congr c ih

theorem lowerChar_congr (c : Char) (sameBefore : meetsLetter before = meetsLetter before')
    (sameAfter : meetsLetter after = meetsLetter after') :
    lowerChar before c after = lowerChar before' c after' := by
  rw [lowerChar, lowerChar, sameBefore, sameAfter]

theorem lowerFrom_congr (text : List Char) (same : meetsLetter before = meetsLetter before') :
    lowerFrom before text = lowerFrom before' text := by
  induction text generalizing before before' with
  | nil => rfl
  | cons c rest ih =>
      rw [lowerFrom, lowerFrom, lowerChar_congr c same rfl, ih (meetsLetter_cons_congr c same)]

theorem lowerFrom_append_congr (before left : List Char)
    (side : meetsLetter right = meetsLetter right')
    (lowered : ∀ before, lowerFrom before right = lowerFrom before right') :
    lowerFrom before (left ++ right) = lowerFrom before (left ++ right') := by
  induction left generalizing before with
  | nil => exact lowered before
  | cons c rest ih =>
      rw [List.cons_append, List.cons_append, lowerFrom, lowerFrom,
        lowerChar_congr c rfl (meetsLetter_append_congr rest side), ih]

/-! ## Single characters of a lower form -/

theorem lowerChar_of_uncased (before after : List Char) (uncased : isCased c = false) :
    lowerChar before c after = [c] := by
  have undotted : c ≠ 'İ' := by
    rintro rfl
    exact absurd uncased (by decide)
  obtain ⟨d, lowers, lowered⟩ := lowerChar_cases before after undotted
  cases lowers with
  | kept => exact lowered
  | letter cased _ _ =>
      rw [uncased] at cased
      cases cased

theorem lowerFrom_cons_cases (before rest : List Char) (undotted : c ≠ 'İ') :
    ∃ d, LowersTo before c d ∧ lowerFrom before (c :: rest) = d :: lowerFrom (c :: before) rest := by
  obtain ⟨d, lowers, lowered⟩ := lowerChar_cases before rest undotted
  exact ⟨d, lowers, by rw [lowerFrom, lowered, List.singleton_append]⟩

theorem lowerFrom_cons_dotted (before rest : List Char) :
    lowerFrom before ('İ' :: rest) = 'i' :: '\u0307' :: lowerFrom ('İ' :: before) rest := rfl

theorem uncased_of_isCaseMark (mark : isCaseMark c = true) : isCased c = false := by
  by_contra cased
  rw [isCaseMark_of_isCased (by simpa using cased)] at mark
  cases mark

/-- Where an uncased character stands in a lower form, the text has it too.  The dot above is the
exception, as it is in the lower form of the dotted capital I. -/
theorem mem_lowerFrom_iff (uncased : isCased c = false) (noDot : c ≠ '\u0307') :
    c ∈ lowerFrom before text ↔ c ∈ text := by
  induction text generalizing before with
  | nil => rfl
  | cons head rest ih =>
      by_cases dotted : head = 'İ'
      · subst dotted
        have others : c ≠ 'i' ∧ c ≠ 'İ' := by
          constructor <;> rintro rfl <;> exact absurd uncased (by decide)
        rw [lowerFrom_cons_dotted]
        simp [ih, others, noDot]
      · obtain ⟨d, lowers, whole⟩ := lowerFrom_cons_cases before rest dotted
        rw [whole, List.mem_cons, List.mem_cons, ih]
        refine or_congr_left ?_
        cases lowers with
        | kept => rfl
        | letter cased casedImage _ =>
            constructor <;> rintro rfl
            · exact absurd casedImage (by simp [uncased])
            · exact absurd cased (by simp [uncased])

theorem meetsLetter_lowerFrom (before text : List Char) :
    meetsLetter (lowerFrom before text) = meetsLetter text := by
  induction text generalizing before with
  | nil => rfl
  | cons c rest ih =>
      by_cases dotted : c = 'İ'
      · subst dotted
        exact meetsLetter_cons_of_letters _ rest (by decide) (by decide)
      · obtain ⟨d, lowers, whole⟩ := lowerFrom_cons_cases before rest dotted
        rw [whole]
        cases lowers with
        | kept => exact meetsLetter_cons_congr c (ih _)
        | letter cased casedImage _ => exact meetsLetter_cons_of_letters _ rest casedImage cased

/-! ## Lengths and cuts -/

/-- The lower form of the dotted capital I. -/
def dottedForm : List Char :=
  ['i', '\u0307']

theorem length_lowerFrom (before text : List Char) :
    (lowerFrom before text).length = text.length + text.count 'İ' := by
  induction text generalizing before with
  | nil => rfl
  | cons c rest ih =>
      by_cases dotted : c = 'İ'
      · subst dotted
        rw [lowerFrom_cons_dotted]
        simp [ih]
        omega
      · obtain ⟨d, _, whole⟩ := lowerFrom_cons_cases before rest dotted
        simp [whole, ih, List.count_cons_of_ne dotted]
        omega

/-- Texts with one lower form have different lengths only if one has more dotted capitals. -/
theorem length_add_count_eq (same : lower left = lower right) :
    left.length + left.count 'İ' = right.length + right.count 'İ' := by
  have lengths := congrArg List.length same
  rwa [lower, lower, length_lowerFrom, length_lowerFrom] at lengths

theorem dottedForm_infix_of_mem (before : List Char) (member : 'İ' ∈ text) :
    dottedForm <:+: lowerFrom before text := by
  obtain ⟨left, right, rfl⟩ := List.append_of_mem member
  obtain ⟨start, whole⟩ := lowerFrom_append before left ('İ' :: right)
  exact ⟨start, lowerFrom ('İ' :: (left.reverse ++ before)) right, by
    rw [whole, lowerFrom_cons_dotted, dottedForm, List.append_assoc]
    rfl⟩

/-- A lower form that is cut anywhere but before a dot above cuts the text. -/
theorem exists_append_of_lowerFrom (cut : lowerFrom before text = left ++ right)
    (solid : right.head? ≠ some '\u0307') :
    ∃ first last, text = first ++ last ∧ lowerFrom (first.reverse ++ before) last = right := by
  induction text generalizing before left with
  | nil =>
      obtain ⟨rfl, rfl⟩ := List.append_eq_nil_iff.mp cut.symm
      exact ⟨[], [], rfl, rfl⟩
  | cons c rest ih =>
      cases left with
      | nil => exact ⟨[], c :: rest, rfl, cut⟩
      | cons image left =>
          -- What is left of the lower form when all that comes from `c` is taken away.
          have behind : ∃ left', lowerFrom (c :: before) rest = left' ++ right := by
            by_cases dotted : c = 'İ'
            · subst dotted
              rw [lowerFrom_cons_dotted] at cut
              cases left with
              | nil =>
                  obtain ⟨_, rfl⟩ := List.cons.inj cut
                  exact absurd rfl solid
              | cons dot left => exact ⟨left, (List.cons.inj (List.cons.inj cut).2).2⟩
            · obtain ⟨d, _, whole⟩ := lowerFrom_cons_cases before rest dotted
              exact ⟨left, (List.cons.inj (whole.symm.trans cut)).2⟩
          obtain ⟨left', cut'⟩ := behind
          obtain ⟨first, last, rfl, same⟩ := ih cut'
          exact ⟨c :: first, last, rfl, by simpa using same⟩

/-! ## Texts with one lower form -/

/-- Whether the first character that is no mark is a final sigma with no letter behind it. -/
def startsFinal (text : List Char) : Bool :=
  match text.dropWhile isCaseMark with
  | [] => false
  | c :: rest => c == 'ς' && !meetsLetter rest

theorem startsFinal_cons_of_isCaseMark (mark : isCaseMark c = true) (rest : List Char) :
    startsFinal (c :: rest) = startsFinal rest := by
  simp [startsFinal, mark]

theorem startsFinal_sigma (rest : List Char) : startsFinal ('ς' :: rest) = !meetsLetter rest := by
  have noMark : isCaseMark 'ς' = false := isCaseMark_of_isCased (by decide)
  simp [startsFinal, noMark]

theorem startsFinal_of_ascii (ascii : ∀ c ∈ text, c.val < 0x80) : startsFinal text = false := by
  unfold startsFinal
  split
  · rfl
  · next c rest begun =>
    have member : c ∈ text := (List.dropWhile_sublist _).subset (begun ▸ List.mem_cons_self)
    have other : c ≠ 'ς' := by
      rintro rfl
      exact absurd (ascii _ member) (by decide)
    simp [other]

theorem lowerChar_sigma (before after : List Char) :
    lowerChar before 'Σ' after =
      [if meetsLetter before && !meetsLetter after then 'ς' else 'σ'] := rfl

theorem lowerChar_of_ne_sigma (other : c ≠ 'Σ') :
    lowerChar before c after = lowerChar before' c after' := by
  simp [lowerChar, other]

theorem lower_cons_of_isCaseMark (mark : isCaseMark c = true) (rest : List Char) :
    lower (c :: rest) = c :: lower rest := by
  rw [lower, lowerFrom, lowerChar_of_uncased _ _ (uncased_of_isCaseMark mark),
    lowerFrom_congr rest (meetsLetter_cons_of_isCaseMark mark [])]
  rfl

/-- A text that is lowered to a final sigma and more, with nothing before it, begins with one. -/
theorem eq_final_of_lowerChar (lowered : lowerChar [] c after = ['ς']) : c = 'ς' := by
  have undotted : c ≠ 'İ' := by
    rintro rfl
    exact absurd lowered (by simp [lowerChar])
  obtain ⟨d, lowers, single⟩ := lowerChar_cases [] after undotted
  obtain rfl : d = 'ς' := by simpa [single] using lowered
  cases lowers with
  | kept => rfl
  | letter _ _ final => exact absurd (final rfl).2 (by decide)

/-- A character that is lowered behind something to what another one is lowered to alone, with as
much to meet after it, is lowered to that alone too. -/
theorem lowerChar_alone {e : Char} (lowered : lowerChar before c after = [d])
    (image : lowerChar [] e after' = [d]) (sides : meetsLetter after = meetsLetter after')
    (notFinal : startsFinal (e :: after') = false) : lowerChar [] c after = [d] := by
  by_cases sigma : c = 'Σ'
  · subst sigma
    rw [lowerChar_sigma] at lowered
    split at lowered
    · next inWord =>
      obtain rfl : e = 'ς' := eq_final_of_lowerChar (image.trans lowered.symm)
      have letter : meetsLetter after' = true := by simpa [startsFinal_sigma] using notFinal
      rw [sides, letter, Bool.not_true, Bool.and_false] at inWord
      cases inWord
    · simpa [lowerChar_sigma, meetsLetter] using lowered
  · rw [lowerChar_of_ne_sigma sigma, lowered]

/-- A text may have the lower form of another one behind something only.  Alone it has another one
if it begins with a capital sigma that was behind a letter, which is lowered to a final sigma; the
other text then begins with a final sigma itself. -/
theorem lower_eq_of_lowerFrom_eq (undotted : 'İ' ∉ left) (undotted' : 'İ' ∉ right)
    (notFinal : startsFinal right = false) (same : lowerFrom before left = lower right) :
    lower left = lower right := by
  induction left generalizing before right with
  | nil => exact same
  | cons c rest ih =>
      rw [List.mem_cons, not_or] at undotted
      obtain ⟨d, _, lowered⟩ := lowerChar_cases before rest (Ne.symm undotted.1)
      rw [lowerFrom, lowered, List.singleton_append] at same
      cases right with
      | nil => cases same
      | cons e rest' =>
          rw [List.mem_cons, not_or] at undotted'
          obtain ⟨d', lowers', image⟩ := lowerChar_cases [] rest' (Ne.symm undotted'.1)
          have whole : lower (e :: rest') = d' :: lowerFrom [e] rest' := by
            rw [lower, lowerFrom, image, List.singleton_append]
          obtain ⟨rfl, tails⟩ := List.cons.inj (same.trans whole)
          by_cases mark : isCaseMark c = true
          · -- A mark is kept in either text, and the texts behind it have the sides they had.
            have uncased := uncased_of_isCaseMark mark
            obtain rfl : c = d := by simpa [lowerChar_of_uncased _ _ uncased] using lowered
            obtain rfl : e = c := lowers'.eq_of_uncased uncased
            rw [startsFinal_cons_of_isCaseMark mark] at notFinal
            rw [lowerFrom_congr rest' (meetsLetter_cons_of_isCaseMark mark [])] at tails
            rw [lower_cons_of_isCaseMark mark, lower_cons_of_isCaseMark mark,
              ih undotted.2 undotted'.2 notFinal tails]
          · -- Any other character hides what stands before it from the rest.
            have hidden : lowerFrom (c :: before) rest = lowerFrom [c] rest :=
              lowerFrom_congr rest (by simp [meetsLetter_cons, mark])
            have sides : meetsLetter rest = meetsLetter rest' := by
              rw [← meetsLetter_lowerFrom (c :: before) rest, tails, meetsLetter_lowerFrom]
            rw [whole, lower, lowerFrom, lowerChar_alone lowered image sides notFinal,
              List.singleton_append, ← hidden, tails]

/-! ## Texts that share a lower form -/

theorem lowerFrom_append_of_marks (marks : ∀ c ∈ left, isCaseMark c = true)
    (before right : List Char) :
    lowerFrom before (left ++ right) = left ++ lowerFrom before right := by
  induction left generalizing before with
  | nil => rfl
  | cons c rest ih =>
      obtain ⟨mark, marks⟩ := List.forall_mem_cons.mp marks
      rw [List.cons_append, lowerFrom, lowerChar_of_uncased _ _ (uncased_of_isCaseMark mark),
        ih marks, lowerFrom_congr right (meetsLetter_cons_of_isCaseMark mark before)]
      rfl

/-- A text that begins with a final sigma, but for marks, and the same text with a capital one are
lowered to the same behind a letter, and to different texts alone. -/
theorem exists_of_startsFinal (final : startsFinal text = true) :
    ∃ marks rest, text = marks ++ 'ς' :: rest ∧
      (∀ before, meetsLetter before = true →
        lowerFrom before (marks ++ 'Σ' :: rest) = lower text) ∧
      lower (marks ++ 'Σ' :: rest) ≠ lower text := by
  unfold startsFinal at final
  split at final
  · cases final
  · next c rest begun =>
    simp only [Bool.and_eq_true, beq_iff_eq, Bool.not_eq_true'] at final
    obtain ⟨rfl, last⟩ := final
    have marks : ∀ c ∈ text.takeWhile isCaseMark, isCaseMark c = true := fun c =>
      List.all_eq_true.mp List.all_takeWhile c
    have whole : text = text.takeWhile isCaseMark ++ 'ς' :: rest := by
      rw [← begun, List.takeWhile_append_dropWhile]
    have lowered : lower text =
        text.takeWhile isCaseMark ++ 'ς' :: lowerFrom ['ς'] rest := by
      conv_lhs => rw [whole]
      exact lowerFrom_append_of_marks marks [] _
    refine ⟨text.takeWhile isCaseMark, rest, whole, fun before letter => ?_, ?_⟩
    · have sides : meetsLetter ('Σ' :: before) = meetsLetter ['ς'] :=
        meetsLetter_cons_of_letters before [] (by decide) (by decide)
      rw [lowered, lowerFrom_append_of_marks marks, lowerFrom, lowerChar_sigma, letter, last,
        lowerFrom_congr rest sides]
      rfl
    · rw [lowered, lower, lowerFrom_append_of_marks marks, lowerFrom, lowerChar_sigma]
      simp [meetsLetter]

theorem isCased_of_toLower (ascii : c.val < 0x80) (small : c.toLower = 'i') : isCased c = true := by
  have letter : c.isAlpha = true := isAlpha_of_toLower (by rw [small]; rfl)
  simp [isCased, ascii, letter]

/-- The dotted capital I and the letter I with a dot above are lowered to the same. -/
theorem lowerFrom_cons_dot (ascii : c.val < 0x80) (small : c.toLower = 'i')
    (before rest : List Char) :
    lowerFrom before (c :: '\u0307' :: rest) = lowerFrom before ('İ' :: rest) := by
  have sides : meetsLetter ('\u0307' :: c :: before) = meetsLetter ('İ' :: before) := by
    rw [meetsLetter_cons_of_isCaseMark (by decide)]
    exact meetsLetter_cons_of_letters _ _ (isCased_of_toLower ascii small) (by decide)
  rw [lowerFrom_cons_dotted, ← lowerFrom_congr rest sides, lowerFrom, lowerFrom,
    lowerChar_of_uncased _ rest (by decide), lowerChar, if_pos ascii, small]
  rfl

/-- Only the ASCII letter I is lowered to a small i alone. -/
theorem ascii_of_lowerChar (lowered : lowerChar before c after = ['i']) :
    c.val < 0x80 ∧ c.toLower = 'i' := by
  have ascii : c.val < 0x80 := by
    refine Nat.lt_of_not_le fun beyond => ?_
    have letters : ∀ d ∈ lowerChar before c after, d.isAlpha = true := by simp [lowered]
    obtain rfl := eq_kelvinSign_of_lowerChar beyond letters
    rw [lowerChar_kelvinSign] at lowered
    exact absurd lowered (by simp)
  rw [lowerChar, if_pos ascii] at lowered
  exact ⟨ascii, by simpa using lowered⟩

theorem exists_dot_of_lowerFrom (undotted : c ≠ 'İ')
    (same : lowerFrom before (c :: text) = 'i' :: '\u0307' :: right) :
    ∃ rest, text = '\u0307' :: rest ∧ c.val < 0x80 ∧ c.toLower = 'i' := by
  obtain ⟨d, _, lowered⟩ := lowerChar_cases before text undotted
  rw [lowerFrom, lowered, List.singleton_append] at same
  obtain ⟨rfl, behind⟩ := List.cons.inj same
  cases text with
  | nil => cases behind
  | cons e rest =>
      have undotted' : e ≠ 'İ' := by
        rintro rfl
        rw [lowerFrom_cons_dotted] at behind
        exact absurd (List.cons.inj behind).1 (by decide)
      obtain ⟨d', lowers, whole⟩ := lowerFrom_cons_cases (c :: before) rest undotted'
      obtain ⟨rfl, _⟩ := List.cons.inj (whole.symm.trans behind)
      obtain rfl := lowers.eq_of_uncased (by decide)
      exact ⟨rest, rfl, ascii_of_lowerChar lowered⟩

/-- Where the lower form of the dotted capital I stands in a lower form, a text of another length
has the same one. -/
theorem exists_of_dottedForm_infix (dotted : dottedForm <:+: lower text) :
    ∃ other, lower other = lower text ∧ other.length ≠ text.length ∧
      ∀ c ∈ other, c ∈ text ∨ c ∈ ['İ', 'i', '\u0307'] := by
  obtain ⟨left, right, whole⟩ := dotted
  rw [dottedForm, List.append_assoc] at whole
  obtain ⟨first, last, rfl, same⟩ := exists_append_of_lowerFrom whole.symm (by simp)
  cases last with
  | nil => cases same
  | cons c rest =>
      by_cases capital : c = 'İ'
      · subst capital
        refine ⟨first ++ 'i' :: '\u0307' :: rest, ?_, by simp, ?_⟩
        · exact lowerFrom_append_congr [] first
            (meetsLetter_cons_of_letters _ _ (by decide) (by decide)) fun before =>
              lowerFrom_cons_dot (by decide) rfl before rest
        · grind
      · obtain ⟨rest, rfl, ascii, small⟩ := exists_dot_of_lowerFrom capital same
        refine ⟨first ++ 'İ' :: rest, ?_, by simp, ?_⟩
        · exact (lowerFrom_append_congr [] first
            (meetsLetter_cons_of_letters _ _ (isCased_of_toLower ascii small) (by decide))
              fun before => lowerFrom_cons_dot ascii small before rest).symm
        · grind

end Stowage.Text
