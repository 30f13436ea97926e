import Stowage.Config
import Stowage.Proofs.Identity.Parts

/-! # Ids are read as they were written

`decode` is inverted stage by stage (`decode_eq_ok_iff`).  An id gives its account and its container
back exactly when neither holds a character that some stage cuts at or drops.
-/

namespace Stowage.Identity

open Text Address

/-- ASCII characters that neither end a host or a part of it nor are dropped from an address. -/
def isHostChar (c : Char) : Bool :=
  c.val < 0x80 && not (['/', '?', '#', '@', ':', '[', ']', '\t', '\n', '\r'].contains c)

/-- Characters that neither end a segment of a path nor are dropped from an address. -/
def isSegmentChar (c : Char) : Bool :=
  not (['/', '?', '#', '\t', '\n', '\r'].contains c)

/-- A text that stands for an account or a suffix in any id. -/
def IsHostText (text : String) : Prop :=
  ∀ c ∈ text.toList, isHostChar c = true

/-- A text that stands for a container in any id. -/
def IsSegmentText (text : String) : Prop :=
  ∀ c ∈ text.toList, isSegmentChar c = true

instance (text : String) : Decidable (IsHostText text) :=
  decidable_of_iff (text.toList.all isHostChar = true) List.all_eq_true

instance (text : String) : Decidable (IsSegmentText text) :=
  decidable_of_iff (text.toList.all isSegmentChar = true) List.all_eq_true

variable {account container suffix uri : String} {identity : Identity} {c : Char}

theorem isHostChar_iff :
    isHostChar c = true ↔ c.val < 0x80 ∧ (c ≠ '[' ∧ c ≠ ']') ∧
      isBreak c = false ∧ endsAuthority c = false ∧ c ≠ '@' ∧ c ≠ ':' := by
  simp [isHostChar, isBreak, endsAuthority]
  grind

theorem isSegmentChar_iff :
    isSegmentChar c = true ↔ isBreak c = false ∧ c ≠ '?' ∧ c ≠ '#' ∧ c ≠ '/' := by
  simp [isSegmentChar, isBreak]
  grind

/-! ## Reading, stage by stage -/

theorem decode_eq_ok_iff :
    decode uri suffix = .ok identity ↔
      ∃ address account container others, ofChars? uri.toList = .ok address ∧
        isWebScheme address.scheme = true ∧ address.host ≠ [] ∧
        accountOf? address.host suffix.toList = some account ∧
        address.segments = container :: others ∧
        identity = ⟨String.ofList account, String.ofList container⟩ := by
  constructor
  · intro decoded
    cases read : ofChars? uri.toList with
    | error fault => simp [decode, read] at decoded
    | ok address =>
        by_cases absolute : (!isWebScheme address.scheme || address.host.isEmpty) = true
        · simp [decode, read, absolute] at decoded
        · cases found : accountOf? address.host suffix.toList with
          | none => simp [decode, read, absolute, found] at decoded
          | some account =>
              cases pieces : address.segments with
              | nil => simp [decode, read, absolute, found, pieces] at decoded
              | cons container others =>
                  simp only [decode, read, absolute, found, pieces] at decoded
                  simp only [Bool.or_eq_true, Bool.not_eq_true', List.isEmpty_iff, not_or,
                    Bool.not_eq_false] at absolute
                  exact ⟨address, account, container, others, rfl, absolute.1, absolute.2, found,
                    pieces, by simpa using decoded.symm⟩
  · rintro ⟨address, account, container, others, read, web, filled, found, pieces, rfl⟩
    simp [decode, read, web, filled, found, pieces]

/-- Whatever stands before it, an ASCII text is the end of the whole in lower case too. -/
theorem endsIn_lower_append (left : List Char) {right : List Char}
    (ascii : ∀ c ∈ right, c.val < 0x80) : endsIn (lower (left ++ right)) (lower right) = true := by
  obtain ⟨start, same⟩ := lowerFrom_append [] left right
  rw [lower, same, lowerFrom_ascii _ right ascii, lower_ascii right ascii]
  exact List.isSuffixOf_iff_suffix.mpr (List.suffix_append _ _)

theorem accountOf?_append {account suffix : List Char} (filled : account ≠ [])
    (ascii : ∀ c ∈ '.' :: suffix, c.val < 0x80) :
    accountOf? (account ++ '.' :: suffix) suffix = some account := by
  simp [accountOf?, endsIn_lower_append account ascii, filled]

/-- Among ASCII texts the account is what stands before the suffix, whatever the case of its
letters, and its point. -/
theorem accountOf?_eq_some_iff {host suffix account : List Char}
    (asciiHost : ∀ c ∈ host, c.val < 0x80) (asciiSuffix : ∀ c ∈ suffix, c.val < 0x80) :
    accountOf? host suffix = some account ↔
      ∃ ending, host = account ++ '.' :: ending ∧ account ≠ [] ∧ EqIgnoringCase ending suffix := by
  have asciiEnding : ∀ c ∈ '.' :: suffix, c.val < 0x80 :=
    List.forall_mem_cons.mpr ⟨by decide, asciiSuffix⟩
  simp only [accountOf?, endsIn, lower_ascii _ asciiHost, lower_ascii _ asciiEnding,
    Option.ite_none_right_eq_some, Option.some.injEq, Bool.and_eq_true, bne_iff_ne,
    List.isSuffixOf_iff_suffix]
  constructor
  · rintro ⟨⟨⟨start, whole⟩, longer⟩, rfl⟩
    obtain ⟨first, last, rfl, _, lowered⟩ := List.map_eq_append_iff.mp whole.symm
    obtain ⟨point, ending, rfl, pointed, same⟩ := List.map_eq_cons_iff.mp lowered
    obtain rfl : point = '.' := eq_of_toLower_eq rfl pointed
    have size : ending.length = suffix.length := by simpa using congrArg List.length same
    have cut : (first ++ '.' :: ending).length - ('.' :: suffix).length = first.length := by
      simp [size]
    rw [cut, List.take_left]
    refine ⟨ending, rfl, ?_, same⟩
    rintro rfl
    exact longer (by simp [size])
  · rintro ⟨ending, rfl, filled, same⟩
    have size : ending.length = suffix.length := by simpa using congrArg List.length same
    refine ⟨⟨⟨account.map Char.toLower, ?_⟩, ?_⟩, ?_⟩
    · rw [List.map_append, List.map_cons, List.map_cons, same]
    · simpa [size] using filled
    · have cut : (account ++ '.' :: ending).length - ('.' :: suffix).length = account.length := by
        simp [size]
      rw [cut, List.take_left]

/-- Among ASCII texts the suffix is shorter than the host, so something is left. -/
theorem accountOf?_ne_nil {host suffix account : List Char}
    (asciiHost : ∀ c ∈ host, c.val < 0x80) (asciiSuffix : ∀ c ∈ suffix, c.val < 0x80)
    (found : accountOf? host suffix = some account) : account ≠ [] := by
  obtain ⟨_, _, filled, _⟩ := (accountOf?_eq_some_iff asciiHost asciiSuffix).mp found
  exact filled

theorem mem_of_accountOf? {host suffix account : List Char}
    (found : accountOf? host suffix = some account) (member : c ∈ account) : c ∈ host := by
  simp only [accountOf?, Option.ite_none_right_eq_some, Option.some.injEq] at found
  obtain ⟨_, rfl⟩ := found
  exact (List.take_sublist _ _).subset member

/-! ## Writing, stage by stage -/

theorem toList_encode :
    (encode account container suffix).toList =
      'h' :: 't' :: 't' :: 'p' :: 's' :: ':' :: '/' :: '/' ::
        (account.toList ++ '.' :: suffix.toList ++ '/' :: container.toList) := by
  simp [encode, String.toList_append]

theorem ascii_encode (asciiAccount : ∀ c ∈ account.toList, c.val < 0x80)
    (asciiSuffix : ∀ c ∈ suffix.toList, c.val < 0x80)
    (asciiContainer : ∀ c ∈ container.toList, c.val < 0x80) :
    ∀ c ∈ (encode account container suffix).toList, c.val < 0x80 := by
  intro c member
  simp only [encode, String.toList_append, List.mem_append] at member
  rcases member with ((((member | member) | member) | member) | member) | member
  · exact (by simp : ∀ c ∈ "https://".toList, c.val < 0x80) c member
  · exact asciiAccount c member
  · exact (by simp : ∀ c ∈ ".".toList, c.val < 0x80) c member
  · exact asciiSuffix c member
  · exact (by simp : ∀ c ∈ "/".toList, c.val < 0x80) c member
  · exact asciiContainer c member

theorem not_mem_of_not_hostChar {text : List Char} {mark : Char}
    (plain : ∀ c ∈ text, isHostChar c = true) (other : isHostChar mark = false) : mark ∉ text := by
  intro member
  simp [plain mark member] at other

theorem isHostChar_of_mem_ending (hostSuffix : IsHostText suffix) :
    ∀ c ∈ '.' :: suffix.toList, isHostChar c = true := by
  intro c member
  rcases List.mem_cons.mp member with rfl | member
  · decide
  · exact hostSuffix c member

section Plain

variable (hostSuffix : IsHostText suffix)
  (plain : ∀ c ∈ account.toList,
    isBreak c = false ∧ endsAuthority c = false ∧ c ≠ '@' ∧ c ≠ ':')

include hostSuffix plain

theorem plain_of_mem_authority :
    ∀ c ∈ account.toList ++ '.' :: suffix.toList,
      isBreak c = false ∧ endsAuthority c = false ∧ c ≠ '@' ∧ c ≠ ':' := by
  intro c member
  rcases List.mem_append.mp member with member | member
  · exact plain c member
  · exact (isHostChar_iff.mp (isHostChar_of_mem_ending hostSuffix c member)).2.2

theorem parts_encode (segment : IsSegmentText container) :
    parts (encode account container suffix).toList =
      ⟨['h', 't', 't', 'p', 's'], account.toList ++ '.' :: suffix.toList,
        '/' :: container.toList⟩ := by
  have inAuthority := plain_of_mem_authority hostSuffix plain
  rw [toList_encode]
  refine parts_https (fun c member => ?_) fun c member => ?_
  · exact ⟨(inAuthority c member).1, (inAuthority c member).2.1⟩
  · obtain ⟨smooth, noQuery, noFragment, _⟩ := isSegmentChar_iff.mp (segment c member)
    exact ⟨smooth, noQuery, noFragment⟩

/-- An id whose account holds nothing that is cut at or dropped is read as it was written if and
only if the account is not empty and the checks on the authority let it pass. -/
theorem decode_encode_iff_of_plain (segment : IsSegmentText container)
    (filledContainer : container ≠ "") :
    decode (encode account container suffix) suffix = .ok ⟨account, container⟩ ↔
      account ≠ "" ∧
        checkBrackets (account.toList ++ '.' :: suffix.toList) = .ok () ∧
        checkFolding (account.toList ++ '.' :: suffix.toList) = .ok () := by
  have inAuthority := plain_of_mem_authority hostSuffix plain
  have noUser : '@' ∉ account.toList ++ '.' :: suffix.toList :=
    fun member => (inAuthority '@' member).2.2.1 rfl
  have noPort : ':' ∉ account.toList ++ '.' :: suffix.toList :=
    fun member => (inAuthority ':' member).2.2.2 rfl
  have whole := parts_encode hostSuffix plain segment
  have hosted : (parts (encode account container suffix).toList).host =
      account.toList ++ '.' :: suffix.toList := by
    rw [whole]
    exact host_of_not_mem noUser noPort
  rw [decode_eq_ok_iff]
  constructor
  · rintro ⟨address, prefixed, first, others, read, _, _, found, _, same⟩
    obtain ⟨rfl, brackets, folding, _⟩ := ofChars?_eq_ok_iff.mp read
    rw [hosted] at found
    rw [whole] at brackets folding
    refine ⟨?_, brackets, folding⟩
    rintro rfl
    simp [accountOf?] at found
  · rintro ⟨filled, brackets, folding⟩
    have noSlash : '/' ∉ container.toList := fun member => by
      simpa [isSegmentChar] using segment '/' member
    have read : ofChars? (encode account container suffix).toList = .ok _ :=
      ofChars?_eq_ok_iff.mpr ⟨whole, brackets, folding, checkPort_of_not_mem noUser noPort⟩
    rw [whole] at hosted
    -- Read forwards: the host is whole, the suffix is cut off its end, and one segment is left.
    refine ⟨_, account.toList, container.toList, [], read, rfl, ?_, ?_, ?_, ?_⟩
    · rw [hosted]
      simp
    · rw [hosted]
      exact accountOf?_append (by simpa using filled) fun c member =>
        (isHostChar_iff.mp (isHostChar_of_mem_ending hostSuffix c member)).1
    · exact segments_singleton (by simpa using filledContainer) noSlash
    · simp

end Plain

section Written

variable (hostAccount : IsHostText account) (hostSuffix : IsHostText suffix)

include hostAccount hostSuffix

theorem isHostChar_of_mem_host :
    ∀ c ∈ account.toList ++ '.' :: suffix.toList, isHostChar c = true :=
  fun c member => (List.mem_append.mp member).elim (hostAccount c)
    (isHostChar_of_mem_ending hostSuffix c)

variable {other : String} (segment : IsSegmentText container) (filledContainer : container ≠ "")

include segment filledContainer

/-- An id is read, under any suffix, as the account that its host has under that suffix. -/
theorem decode_encode_eq :
    decode (encode account container suffix) other =
      match accountOf? (account.toList ++ '.' :: suffix.toList) other.toList with
      | none => .error (.foreignHost (account ++ "." ++ suffix)
          (encode account container suffix) other)
      | some rest => .ok ⟨String.ofList rest, container⟩ := by
  have inHost := isHostChar_of_mem_host hostAccount hostSuffix
  have noUser : '@' ∉ account.toList ++ '.' :: suffix.toList := not_mem_of_not_hostChar inHost rfl
  have noPort : ':' ∉ account.toList ++ '.' :: suffix.toList := not_mem_of_not_hostChar inHost rfl
  have whole := parts_encode hostSuffix
    (fun c member => (isHostChar_iff.mp (hostAccount c member)).2.2) segment
  have read : ofChars? (encode account container suffix).toList = .ok _ :=
    ofChars?_eq_ok_iff.mpr ⟨whole,
      checkBrackets_of_not_mem (not_mem_of_not_hostChar inHost rfl)
        (not_mem_of_not_hostChar inHost rfl),
      checkFolding_of_ascii fun c member => (isHostChar_iff.mp (inHost c member)).1,
      checkPort_of_not_mem noUser noPort⟩
  have noSlash : '/' ∉ container.toList := fun member => by
    simpa [isSegmentChar] using segment '/' member
  have written : String.ofList (account.toList ++ '.' :: suffix.toList) =
      account ++ "." ++ suffix := by
    simp [← String.toList_inj]
  simp only [decode, read, host_of_not_mem noUser noPort, written,
    segments_singleton (by simpa using filledContainer) noSlash]
  cases accountOf? (account.toList ++ '.' :: suffix.toList) other.toList with
  | none => simp [isWebScheme]
  | some rest => simp [isWebScheme]

end Written

theorem decode_encode (hostAccount : IsHostText account) (filledAccount : account ≠ "")
    (hostSuffix : IsHostText suffix) (segment : IsSegmentText container)
    (filledContainer : container ≠ "") :
    decode (encode account container suffix) suffix = .ok ⟨account, container⟩ := by
  have found : accountOf? (account.toList ++ '.' :: suffix.toList) suffix.toList =
      some account.toList :=
    accountOf?_append (by simpa using filledAccount) fun c member =>
      (isHostChar_iff.mp (isHostChar_of_mem_ending hostSuffix c member)).1
  rw [decode_encode_eq hostAccount hostSuffix segment filledContainer, found]
  simp

/-- What is read is never a character that a stage cuts at or drops. -/
theorem chars_of_decode (decoded : decode uri suffix = .ok identity) :
    (∀ c ∈ identity.account.toList,
      isBreak c = false ∧ endsAuthority c = false ∧ c ≠ '@' ∧ c ≠ ':') ∧
    identity.container ≠ "" ∧ IsSegmentText identity.container := by
  obtain ⟨address, account, container, others, read, _, _, found, pieces, rfl⟩ :=
    decode_eq_ok_iff.mp decoded
  obtain ⟨rfl, _⟩ := ofChars?_eq_ok_iff.mp read
  obtain ⟨filled, noSlash, inPath⟩ := mem_segments (pieces ▸ List.mem_cons_self)
  refine ⟨?_, by simpa using filled, ?_⟩
  · intro c member
    obtain ⟨inAuthority, noUser, noPort⟩ :=
      mem_host (mem_of_accountOf? found (by simpa using member))
    obtain ⟨_, smooth, opened⟩ := mem_authority inAuthority
    exact ⟨smooth, opened, noUser, noPort⟩
  · intro c member
    have held : c ∈ container := by simpa using member
    obtain ⟨_, smooth, noQuery, noFragment⟩ := mem_path (inPath c held)
    exact isSegmentChar_iff.mpr ⟨smooth, noQuery, noFragment, fun same => noSlash (same ▸ held)⟩

theorem account_ne_empty_of_decode (asciiUri : ∀ c ∈ uri.toList, c.val < 0x80)
    (asciiSuffix : ∀ c ∈ suffix.toList, c.val < 0x80) (decoded : decode uri suffix = .ok identity) :
    identity.account ≠ "" := by
  obtain ⟨address, account, container, others, read, _, _, found, _, rfl⟩ :=
    decode_eq_ok_iff.mp decoded
  obtain ⟨rfl, _⟩ := ofChars?_eq_ok_iff.mp read
  have asciiHost : ∀ c ∈ (parts uri.toList).host, c.val < 0x80 :=
    fun c member => asciiUri c (mem_authority (mem_host member).1).1
  simpa using accountOf?_ne_nil asciiHost asciiSuffix found

theorem isSegmentChar_of_isNameChar (named : Naming.isNameChar c = true) :
    isSegmentChar c = true := by
  cases plain : isSegmentChar c with
  | true => rfl
  | false =>
      have listed : c ∈ ['/', '?', '#', '\t', '\n', '\r'] := by
        simpa only [isSegmentChar, Bool.not_eq_false', List.contains_iff_mem] using plain
      have foreign : ['/', '?', '#', '\t', '\n', '\r'].all (not ∘ Naming.isNameChar) = true := by
        decide
      simpa [named] using List.all_eq_true.mp foreign c listed

theorem isSegmentText_of_lawful (lawful : Naming.violations container = []) :
    container ≠ "" ∧ IsSegmentText container := by
  have named : Naming.hasNameChars container = true := by
    cases allowed : Naming.hasNameChars container with
    | true => rfl
    | false => simp [Naming.violations, allowed] at lawful
  simp only [Naming.hasNameChars, Bool.or_eq_true, Bool.and_eq_true, beq_iff_eq] at named
  rcases named with rfl | ⟨filled, allowed⟩
  · exact ⟨by decide, by decide⟩
  · exact ⟨by simpa using filled, fun c member =>
      isSegmentChar_of_isNameChar (List.all_eq_true.mp allowed c member)⟩

theorem decode_encode_config (config : Config) (hostAccount : IsHostText config.account)
    (filledAccount : config.account ≠ "") (hostSuffix : IsHostText suffix) :
    decode (encode config.account config.name suffix) suffix =
      .ok ⟨config.account, config.name⟩ := by
  obtain ⟨filledName, segment⟩ := isSegmentText_of_lawful config.name_lawful
  exact decode_encode hostAccount filledAccount hostSuffix segment filledName

theorem isHostText_iff (asciiAccount : ∀ c ∈ account.toList, c.val < 0x80 ∧ c ≠ '[' ∧ c ≠ ']') :
    IsHostText account ↔
      ∀ c ∈ account.toList, c ∉ ['/', '?', '#', '@', ':', '\t', '\n', '\r'] := by
  constructor
  · intro plain c member listed
    have other : ['/', '?', '#', '@', ':', '\t', '\n', '\r'].all (not ∘ isHostChar) = true := by
      decide
    simpa [plain c member] using List.all_eq_true.mp other c listed
  · intro unlisted c member
    obtain ⟨ascii, noOpening, noClosing⟩ := asciiAccount c member
    have free := unlisted c member
    simp only [List.mem_cons, List.not_mem_nil, or_false, not_or] at free
    simp [isHostChar, ascii, noOpening, noClosing, free]

/-- An id is read back as it was written exactly when its account and its container hold nothing
that is cut at or dropped; names that keep the naming rules never do. -/
theorem decode_encode_eq_ok_iff (hostSuffix : IsHostText suffix)
    (asciiAccount : ∀ c ∈ account.toList, c.val < 0x80 ∧ c ≠ '[' ∧ c ≠ ']') :
    (∀ container : String, (∀ c ∈ container.toList, c.val < 0x80) →
      (decode (encode account container suffix) suffix = .ok ⟨account, container⟩ ↔
        (account ≠ "" ∧
          ∀ c ∈ account.toList, c ∉ ['/', '?', '#', '@', ':', '\t', '\n', '\r']) ∧
        container ≠ "" ∧ ∀ c ∈ container.toList, c ∉ ['/', '?', '#', '\t', '\n', '\r'])) ∧
    (account ≠ "" → (∀ c ∈ account.toList, c ∉ ['/', '?', '#', '@', ':', '\t', '\n', '\r']) →
      ∀ container : String, Naming.violations container = [] →
        decode (encode account container suffix) suffix = .ok ⟨account, container⟩) := by
  rw [← isHostText_iff asciiAccount]
  have asciiSuffix : ∀ c ∈ suffix.toList, c.val < 0x80 :=
    fun c member => (isHostChar_iff.mp (hostSuffix c member)).1
  constructor
  · intro container asciiContainer
    have segment_iff : IsSegmentText container ↔
        ∀ c ∈ container.toList, c ∉ ['/', '?', '#', '\t', '\n', '\r'] := by
      simp [IsSegmentText, isSegmentChar]
    rw [← segment_iff]
    constructor
    · intro decoded
      obtain ⟨inAccount, filledContainer, segment⟩ := chars_of_decode decoded
      have asciiUri : ∀ c ∈ (encode account container suffix).toList, c.val < 0x80 :=
        ascii_encode (fun c member => (asciiAccount c member).1) asciiSuffix asciiContainer
      refine ⟨⟨account_ne_empty_of_decode asciiUri asciiSuffix decoded, fun c member => ?_⟩,
        filledContainer, segment⟩
      obtain ⟨ascii, brackets⟩ := asciiAccount c member
      exact isHostChar_iff.mpr ⟨ascii, brackets, inAccount c member⟩
    · rintro ⟨⟨filledAccount, hostAccount⟩, filledContainer, segment⟩
      exact decode_encode hostAccount filledAccount hostSuffix segment filledContainer
  · intro filledAccount hostAccount container lawful
    obtain ⟨filledContainer, segment⟩ := isSegmentText_of_lawful lawful
    exact decode_encode hostAccount filledAccount hostSuffix segment filledContainer

theorem decode_encode_nested :
    IsHostText "core.windows.net" ∧
      (∀ c ∈ "A b.core.windows.net".toList, c.val < 0x80 ∧ c ≠ '[' ∧ c ≠ ']') ∧
      decode (encode "A b.core.windows.net" "$root" "core.windows.net") "core.windows.net" =
        .ok ⟨"A b.core.windows.net", "$root"⟩ ∧
      decode (encode "A b.core.windows.net" "a/b" "core.windows.net") "core.windows.net" ≠
        .ok ⟨"A b.core.windows.net", "a/b"⟩ := by
  have suffix : IsHostText "core.windows.net" := by decide
  have nested : IsHostText "A b.core.windows.net" := by decide
  have account : ∀ c ∈ "A b.core.windows.net".toList, c.val < 0x80 ∧ c ≠ '[' ∧ c ≠ ']' := by
    intro c member
    obtain ⟨ascii, brackets, _⟩ := isHostChar_iff.mp (nested c member)
    exact ⟨ascii, brackets⟩
  obtain ⟨whole, named⟩ := decode_encode_eq_ok_iff suffix account
  refine ⟨suffix, account,
    named (by decide) ((isHostText_iff account).mp nested) "$root" (by decide), ?_⟩
  rw [Ne, whole "a/b" (by simp)]
  simp

end Stowage.Identity
