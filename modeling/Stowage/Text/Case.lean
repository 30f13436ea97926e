import Stowage.Text.CaseTable

/-! # Lower and upper case

Case mapping of whole texts.  A text may grow (`İ` becomes two characters), and the lower form of
a capital sigma depends on whether it ends a word.  On ASCII texts both maps work letter by
letter, which `lower_ascii` states, and leave everything but letters alone (`eq_of_toLower_eq`).
-/

namespace Stowage.Text

/-- Letters that make a neighbouring sigma part of a word. -/
def isCased (c : Char) : Bool :=
  if c.val < 0x80 then c.isAlpha else inRanges casedRanges c

/-- Marks inside words, such as the apostrophe, that are looked through for the next letter. -/
def isCaseMark (c : Char) : Bool :=
  if c.val < 0x80 then c ∈ ['\'', '.', ':', '^', '`'] else inRanges caseMarkRanges c

/-- Whether the nearest character that is no mark is a letter. -/
def meetsLetter (side : List Char) : Bool :=
  match side.dropWhile isCaseMark with
  | [] => false
  | c :: _ => isCased c

/-- The lower form of one character between the text before it, nearest first, and the text
after it. -/
def lowerChar (before : List Char) (c : Char) (after : List Char) : List Char :=
  if c.val < 0x80 then [c.toLower]
  else if c == 'İ' then ['i', '\u0307']
  else if c == 'Σ' then [if meetsLetter before && !meetsLetter after then 'ς' else 'σ']
  else [CaseRun.apply lowerRuns c]

/-- `lower` with the characters already passed, nearest first. -/
def lowerFrom (before : List Char) : List Char → List Char
  | [] => []
  | c :: after => lowerChar before c after ++ lowerFrom (c :: before) after

def lower (text : List Char) : List Char :=
  lowerFrom [] text

def upperChar (c : Char) : List Char :=
  if c.val < 0x80 then [c.toUpper]
  else match upperExpansions.lookup c.toNat with
    | some form => form.map Char.ofNat
    | none => [CaseRun.apply upperRuns c]

def upper (text : List Char) : List Char :=
  text.flatMap upperChar

theorem lowerFrom_ascii (before text : List Char) (ascii : ∀ c ∈ text, c.val < 0x80) :
    lowerFrom before text = text.map Char.toLower := by
  induction text generalizing before with
  | nil => rfl
  | cons c after ih =>
      have head : c.val < 0x80 := ascii c (by simp)
      have tail : ∀ d ∈ after, d.val < 0x80 := fun d member => ascii d (by simp [member])
      simp [lowerFrom, lowerChar, head, ih _ tail]

/-- The lower form of a text begins with that of its first part, as it stands before the rest. -/
theorem lowerFrom_append (before left right : List Char) :
    ∃ start, lowerFrom before (left ++ right) =
      start ++ lowerFrom (left.reverse ++ before) right := by
  induction left generalizing before with
  | nil => exact ⟨[], rfl⟩
  | cons c rest ih =>
      obtain ⟨start, same⟩ := ih (c :: before)
      refine ⟨lowerChar before c (rest ++ right) ++ start, ?_⟩
      rw [List.cons_append, lowerFrom, same, List.append_assoc, List.reverse_cons,
        List.append_assoc, List.singleton_append]

/-- ASCII texts are lowered letter by letter. -/
theorem lower_ascii (text : List Char) (ascii : ∀ c ∈ text, c.val < 0x80) :
    lower text = text.map Char.toLower :=
  lowerFrom_ascii [] text ascii

section Letters

variable {mark c : Char} {left right : List Char}

/-- Two texts that differ at most in the case of ASCII letters. -/
def EqIgnoringCase (left right : List Char) : Prop :=
  left.map Char.toLower = right.map Char.toLower

instance : Decidable (EqIgnoringCase left right) :=
  inferInstanceAs (Decidable (_ = _))

theorem toLower_eq_or (c : Char) :
    c.toLower = c ∨ c.isUpper = true ∧ c.toLower.isLower = true := by
  unfold Char.toLower
  split
  · next upper =>
    have bounds : 65 ≤ c.val.toNat ∧ c.val.toNat ≤ 90 := upper
    have shifted : (c.val + 32).toNat = c.val.toNat + 32 := by
      rw [UInt32.toNat_add]
      change (c.val.toNat + 32) % 4294967296 = c.val.toNat + 32
      omega
    have lower : 97 ≤ (c.val + 32).toNat ∧ (c.val + 32).toNat ≤ 122 := by omega
    exact .inr ⟨decide_eq_true upper, Bool.and_eq_true_iff.mpr
      ⟨decide_eq_true lower.1, decide_eq_true lower.2⟩⟩
  · exact .inl rfl

theorem isAlpha_of_toLower (letter : c.toLower.isAlpha = true) : c.isAlpha = true := by
  rcases toLower_eq_or c with same | ⟨upper, _⟩
  · rwa [same] at letter
  · exact Bool.or_eq_true_iff.mpr (.inl upper)

/-- Only letters have other characters in lower case. -/
theorem eq_of_toLower_eq (noLetter : mark.isAlpha = false) (same : c.toLower = mark) :
    c = mark := by
  rcases toLower_eq_or c with kept | ⟨_, lower⟩
  · exact kept.symm.trans same
  · have noLower : mark.isLower = false := (Bool.or_eq_false_iff.mp noLetter).2
    rw [same, noLower] at lower
    cases lower

end Letters

end Stowage.Text
