import Stowage.Proofs.Identity.Spelling

/-! # Normal forms of ids

Of all the ids under which a container is read, one is written for it: the normal form.  Whatever a
readable id carries beside the account and the container, its normal form is read as the same
container (`decode_normalForm`), so ids address one container exactly when their normal forms are
the same text.
-/

namespace Stowage.Identity

open Text Address

/-- The id that is written for the container under an id. -/
def normalForm (uri suffix : String) : Except Malformed String :=
  (decode uri suffix).map fun identity => identity.uri suffix

variable {uri suffix : String} {identity : Identity}

instance : Decidable (decode uri suffix = .ok identity) :=
  decidable_of_iff ((decode uri suffix).toOption = some identity) <| by
    cases decode uri suffix <;> simp [Except.toOption]

theorem normalForm_of_ok (decoded : decode uri suffix = .ok identity) :
    normalForm uri suffix = .ok (identity.uri suffix) := by
  rw [normalForm, decoded]
  rfl

/-- Characters that end no host do so in either case. -/
theorem isHostChar_of_toLower_eq {c d : Char} (ascii : c.val < 0x80)
    (same : c.toLower = d.toLower) (hostChar : isHostChar d = true) : isHostChar c = true := by
  cases plain : isHostChar c with
  | true => rfl
  | false =>
      have listed : c ∈ ['/', '?', '#', '@', ':', '[', ']', '\t', '\n', '\r'] := by
        simpa only [isHostChar, ascii, decide_true, Bool.true_and, Bool.not_eq_false',
          List.contains_iff_mem] using plain
      have noLetters : ∀ mark ∈ ['/', '?', '#', '@', ':', '[', ']', '\t', '\n', '\r'],
          mark.isAlpha = false ∧ mark.toLower = mark := by simp
      obtain ⟨noLetter, kept⟩ := noLetters c listed
      have identical : d = c := eq_of_toLower_eq noLetter (same.symm.trans kept)
      rw [identical, plain] at hostChar
      cases hostChar

section Readable

variable (plain : ∀ c ∈ uri.toList, c.val < 0x80 ∧ c ≠ '[' ∧ c ≠ ']')
  (asciiSuffix : ∀ c ∈ suffix.toList, c.val < 0x80)

include plain asciiSuffix

/-- Nothing that ends a part of an address gets into an account that is read, and none of it is in a
suffix under which anything is read. -/
theorem isHostText_of_decode (decoded : decode uri suffix = .ok identity) :
    identity.account ≠ "" ∧ IsHostText identity.account ∧ IsHostText suffix := by
  obtain ⟨spelling, written, lawful, rfl⟩ := exists_spelling_of_decode plain asciiSuffix decoded
  have hosted : ∀ c ∈ spelling.host, isHostChar c = true := by
    intro c member
    have inText := Spelling.mem_text (.inl (Spelling.mem_authority member))
    rw [written] at inText
    obtain ⟨given, smooth⟩ := mem_cleaned inText
    obtain ⟨ascii, brackets⟩ := plain c given
    have delimits := lawful.plain_host c member
    have opened : endsAuthority c = false := endsAuthority_eq_false_iff.mpr fun listed =>
      delimits (List.mem_append_left ['@', ':'] listed)
    refine isHostChar_iff.mpr ⟨ascii, brackets, smooth, opened, ?_, ?_⟩
    · rintro rfl
      exact delimits (by decide)
    · rintro rfl
      exact delimits (by decide)
  refine ⟨?_, fun c member => ?_, fun c member => ?_⟩
  · simpa [Spelling.identity] using lawful.filledAccount
  · refine hosted c (List.mem_append_left _ ?_)
    simpa [Spelling.identity] using member
  · -- The host may spell the suffix in other letters, but only letters differ.
    have lowered : c.toLower ∈ spelling.suffix.map Char.toLower := by
      rw [lawful.suffix]
      exact List.mem_map_of_mem member
    obtain ⟨d, spelled, same⟩ := List.mem_map.mp lowered
    refine isHostChar_of_toLower_eq (asciiSuffix c member) same.symm (hosted d ?_)
    exact List.mem_append_right _ (List.mem_cons_of_mem _ spelled)

/-- The normal form of a readable id is read as the same container. -/
theorem decode_normalForm (decoded : decode uri suffix = .ok identity) :
    decode (identity.uri suffix) suffix = .ok identity := by
  obtain ⟨filledAccount, hostAccount, hostSuffix⟩ := isHostText_of_decode plain asciiSuffix decoded
  obtain ⟨_, filledContainer, segment⟩ := chars_of_decode decoded
  exact decode_encode hostAccount filledAccount hostSuffix segment filledContainer

/-- A readable id and its normal form are read as one container, the normal form has itself as its
normal form, and another id is read as that container if and only if it has the same normal form. -/
theorem normalForm_of_decode (decoded : decode uri suffix = .ok identity) :
    normalForm uri suffix = .ok (identity.uri suffix) ∧
    decode (identity.uri suffix) suffix = .ok identity ∧
    normalForm (identity.uri suffix) suffix = .ok (identity.uri suffix) ∧
    ∀ other its, (∀ c ∈ other.toList, c.val < 0x80 ∧ c ≠ '[' ∧ c ≠ ']') →
      decode other suffix = .ok its →
      (its = identity ↔ normalForm other suffix = normalForm uri suffix) := by
  have again := decode_normalForm plain asciiSuffix decoded
  refine ⟨normalForm_of_ok decoded, again, normalForm_of_ok again,
    fun other its plainOther decodedOther => ?_⟩
  rw [normalForm_of_ok decoded, normalForm_of_ok decodedOther]
  constructor
  · rintro rfl
    rfl
  · intro same
    have read := decode_normalForm plainOther asciiSuffix decodedOther
    rw [Except.ok.inj same, again] at read
    exact (Except.ok.inj read).symm

end Readable

/-- Two ids of one container: with user information, a port, other letters and a query, and with a
line end inside and a further segment. -/
theorem normalForm_of_decode_dressed :
    let uri := "HTTP://ops@A.b.Core.Windows.NET:443//logs?x"
    let other := " https://A.b.core.windows.\nnet/logs/y"
    (∀ c ∈ uri.toList, c.val < 0x80 ∧ c ≠ '[' ∧ c ≠ ']') ∧
      (∀ c ∈ other.toList, c.val < 0x80 ∧ c ≠ '[' ∧ c ≠ ']') ∧
      (∀ c ∈ "core.windows.net".toList, c.val < 0x80) ∧
      decode uri "core.windows.net" = .ok ⟨"A.b", "logs"⟩ ∧
      decode other "core.windows.net" = .ok ⟨"A.b", "logs"⟩ ∧
      normalForm other "core.windows.net" = normalForm uri "core.windows.net" := by
  intro uri other
  have plain : ∀ c ∈ uri.toList, c.val < 0x80 ∧ c ≠ '[' ∧ c ≠ ']' := by simp [uri]
  have plainOther : ∀ c ∈ other.toList, c.val < 0x80 ∧ c ≠ '[' ∧ c ≠ ']' := by simp [other]
  have asciiSuffix : ∀ c ∈ "core.windows.net".toList, c.val < 0x80 := by simp
  have decoded : decode uri "core.windows.net" = .ok ⟨"A.b", "logs"⟩ := by decide
  have decodedOther : decode other "core.windows.net" = .ok ⟨"A.b", "logs"⟩ := by decide
  obtain ⟨_, _, _, alike⟩ := normalForm_of_decode plain asciiSuffix decoded
  exact ⟨plain, plainOther, asciiSuffix, decoded, decodedOther,
    (alike other _ plainOther decodedOther).mp rfl⟩

end Stowage.Identity
