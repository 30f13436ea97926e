import Stowage.Proofs.Identity.RoundTrip

/-! # Accounts that ids give back

Nothing restricts the account of a declaration, and its id is written without escapes.  Which
accounts are read back from the ids that are written for them is settled here for texts of any
characters (`decode_encode_iff_isAccountText`): those that no stage of reading cuts or refuses.
-/

namespace Stowage.Address

open Text Identity

variable {host authority : List Char}

/-- The square brackets of an authority without ports: there are none, or both kinds are there and
the text behind the first opening one is a tagged address up to the next closing one. -/
def HasLawfulBrackets (authority : List Char) : Prop :=
  ('[' ∉ authority ∧ ']' ∉ authority) ∨
    '[' ∈ authority ∧ ']' ∈ authority ∧ isTaggedAddress (before ']' (after '[' authority)) = true

instance : Decidable (HasLawfulBrackets authority) :=
  inferInstanceAs (Decidable ((_ ∧ _) ∨ _ ∧ _ ∧ _))

theorem isGroupedAddress_of_not_mem (noColon : ':' ∉ host) : isGroupedAddress host = false := by
  have single : (before '%' host).splitOn ':' = [before '%' host] :=
    List.splitOn_eq_singleton fun member => noColon (mem_of_mem_before member)
  simp [isGroupedAddress, addressGroups?, single]

theorem head?_of_isTaggedAddress (tagged : isTaggedAddress host = true) :
    host.head? = some 'v' := by
  unfold isTaggedAddress at tagged
  split at tagged
  · rfl
  · cases tagged

theorem checkBrackets_eq_ok_iff (noPort : ':' ∉ authority) :
    checkBrackets authority = .ok () ↔ HasLawfulBrackets authority := by
  have ungrouped : isGroupedAddress (before ']' (after '[' authority)) = false :=
    isGroupedAddress_of_not_mem fun member =>
      noPort (mem_of_mem_after (mem_of_mem_before member))
  unfold checkBrackets HasLawfulBrackets
  by_cases opening : '[' ∈ authority
  · by_cases closing : ']' ∈ authority
    · cases tagged : isTaggedAddress (before ']' (after '[' authority)) with
      | true => simp [opening, closing, tagged, head?_of_isTaggedAddress tagged]
      | false =>
          simp [opening, closing, tagged, ungrouped]
          grind
    · simp [opening, closing]
  · by_cases closing : ']' ∈ authority <;> simp [opening, closing]

theorem checkFolding_eq_ok_iff :
    checkFolding authority = .ok () ↔ ∀ c ∈ authority, hidesDelimiter c = false := by
  simp [checkFolding]

end Stowage.Address

namespace Stowage.Identity

open Text Address

variable {account container suffix : String}

/-- An account that ids under the suffix give back: it is not empty, nothing in it ends a part of an
address, is dropped from it or hides a delimiter, and its brackets are lawful. -/
structure IsAccountText (account suffix : String) : Prop where
  filled : account ≠ ""
  plain : ∀ c ∈ account.toList, c ∉ ['/', '?', '#', '@', ':', '\t', '\n', '\r']
  unfolded : ∀ c ∈ account.toList, hidesDelimiter c = false
  brackets : HasLawfulBrackets (account.toList ++ '.' :: suffix.toList)

instance : Decidable (IsAccountText account suffix) :=
  decidable_of_iff (account ≠ "" ∧
      (account.toList.all fun c => c ∉ ['/', '?', '#', '@', ':', '\t', '\n', '\r']) = true ∧
      (account.toList.all fun c => !hidesDelimiter c) = true ∧
      HasLawfulBrackets (account.toList ++ '.' :: suffix.toList)) <| by
    constructor
    · rintro ⟨filled, plain, unfolded, brackets⟩
      exact ⟨filled, by simpa using plain, by simpa using unfolded, brackets⟩
    · rintro ⟨filled, plain, unfolded, brackets⟩
      exact ⟨filled, by simpa using plain, by simpa using unfolded, brackets⟩

theorem plain_iff {c : Char} :
    c ∉ ['/', '?', '#', '@', ':', '\t', '\n', '\r'] ↔
      isBreak c = false ∧ endsAuthority c = false ∧ c ≠ '@' ∧ c ≠ ':' := by
  simp [isBreak, endsAuthority]
  grind

section

variable (hostSuffix : IsHostText suffix)

include hostSuffix

theorem isAccountText_iff_checks (plain : ∀ c ∈ account.toList,
      isBreak c = false ∧ endsAuthority c = false ∧ c ≠ '@' ∧ c ≠ ':') :
    IsAccountText account suffix ↔
      account ≠ "" ∧
        checkBrackets (account.toList ++ '.' :: suffix.toList) = .ok () ∧
        checkFolding (account.toList ++ '.' :: suffix.toList) = .ok () := by
  have noPort : ':' ∉ account.toList ++ '.' :: suffix.toList :=
    fun member => (plain_of_mem_authority hostSuffix plain ':' member).2.2.2 rfl
  rw [checkBrackets_eq_ok_iff noPort, checkFolding_eq_ok_iff]
  constructor
  · rintro ⟨filled, _, unfolded, brackets⟩
    refine ⟨filled, brackets, fun c member => ?_⟩
    rcases List.mem_append.mp member with member | member
    · exact unfolded c member
    · exact hidesDelimiter_of_ascii
        (isHostChar_iff.mp (isHostChar_of_mem_ending hostSuffix c member)).1
  · rintro ⟨filled, brackets, unfolded⟩
    exact ⟨filled, fun c member => plain_iff.mpr (plain c member),
      fun c member => unfolded c (List.mem_append_left _ member), brackets⟩

/-- An id is read as its account and its container if and only if the account is one that ids give
back. -/
theorem decode_encode_iff_isAccountText (segment : IsSegmentText container)
    (filledContainer : container ≠ "") :
    decode (encode account container suffix) suffix = .ok ⟨account, container⟩ ↔
      IsAccountText account suffix := by
  constructor
  · intro decoded
    have plain := (chars_of_decode decoded).1
    exact (isAccountText_iff_checks hostSuffix plain).mpr
      ((decode_encode_iff_of_plain hostSuffix plain segment filledContainer).mp decoded)
  · intro text
    have plain := fun c member => plain_iff.mp (text.plain c member)
    exact (decode_encode_iff_of_plain hostSuffix plain segment filledContainer).mpr
      ((isAccountText_iff_checks hostSuffix plain).mp text)

end

/-- A slash in an account ends the host of its id. -/
theorem decode_slashed_account :
    decode (encode "a/b" "logs" "core.windows.net") "core.windows.net" =
      .error (.foreignHost "a" "https://a/b.core.windows.net/logs" "core.windows.net") := by
  let address : Address := ⟨['h', 't', 't', 'p', 's'], ['a'], "/b.core.windows.net/logs".toList⟩
  have read : Address.ofChars? "https://a/b.core.windows.net/logs".toList = .ok address := rfl
  have host : address.host = ['a'] := rfl
  have foreign : accountOf? ['a'] "core.windows.net".toList = none := by decide
  change decode "https://a/b.core.windows.net/logs" "core.windows.net" = _
  simp only [decode, read, host, foreign]
  rfl

end Stowage.Identity
