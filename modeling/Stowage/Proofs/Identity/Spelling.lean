import Stowage.Proofs.Identity.Cuts
import Stowage.Proofs.Identity.RoundTrip

/-! # The spellings of an id

An id may be spelled in many ways: with another case of letters in its scheme and its suffix, with
user information, a port, more slashes, and anything behind the container.  `Spelling` has the
pieces of such a text, and `decode_eq_ok_iff_spelled` says that these are all the texts of ASCII
characters that are read, and what they are read as.
-/

namespace Stowage.Identity

open Text Address

/-- The pieces of an id as it may be spelled. -/
structure Spelling where
  scheme : List Char
  /-- What stands before the sign that ends the user information; none where there is no sign. -/
  user : Option (List Char)
  account : List Char
  suffix : List Char
  /-- What stands behind the colon of a port; none where there is no colon. -/
  port : Option (List Char)
  /-- How many slashes stand before the container. -/
  slashes : Nat
  container : List Char
  tail : List Char

namespace Spelling

variable (spelling : Spelling)

def host : List Char :=
  spelling.account ++ '.' :: spelling.suffix

def authority : List Char :=
  userText spelling.user ++ (spelling.host ++ portText spelling.port)

def path : List Char :=
  List.replicate spelling.slashes '/' ++ (spelling.container ++ spelling.tail)

def text : List Char :=
  spelling.scheme ++ ':' :: '/' :: '/' :: (spelling.authority ++ spelling.path)

def identity : Identity :=
  ⟨String.ofList spelling.account, String.ofList spelling.container⟩

/-- The rules for the pieces of an id under a suffix. -/
structure IsLawful (suffix : String) : Prop where
  scheme : EqIgnoringCase spelling.scheme "https".toList ∨
    EqIgnoringCase spelling.scheme "http".toList
  user : ∀ text ∈ spelling.user, ∀ c ∈ text, c ∉ ['/', '?', '#']
  filledAccount : spelling.account ≠ []
  account : ∀ c ∈ spelling.account, c ∉ ['/', '?', '#', '@', ':']
  suffixPlain : ∀ c ∈ spelling.suffix, c ∉ ['/', '?', '#', '@', ':']
  suffix : EqIgnoringCase spelling.suffix suffix.toList
  port : ∀ digits ∈ spelling.port, IsPort digits
  slashes : 0 < spelling.slashes
  filledContainer : spelling.container ≠ []
  container : ∀ c ∈ spelling.container, c ∉ ['/', '?', '#']
  tail : ∀ c ∈ spelling.tail.head?, c ∈ ['/', '?', '#']

variable {spelling} {uri suffix : String}

theorem mem_text (member : c ∈ spelling.authority ∨ c ∈ spelling.path) : c ∈ spelling.text := by
  simp only [text, List.mem_append, List.mem_cons]
  exact .inr (.inr (.inr (.inr member)))

theorem mem_authority (member : c ∈ spelling.host) : c ∈ spelling.authority := by
  simp [authority, member]

namespace IsLawful

variable (lawful : spelling.IsLawful suffix)

include lawful

theorem web : isWebScheme (spelling.scheme.map Char.toLower) = true := by
  rcases lawful.scheme with same | same <;> rw [same] <;> decide

theorem plain_host : ∀ c ∈ spelling.host, c ∉ ['/', '?', '#', '@', ':'] := by
  intro c member
  rcases List.mem_append.mp member with member | member
  · exact lawful.account c member
  · rcases List.mem_cons.mp member with rfl | member
    · decide
    · exact lawful.suffixPlain c member

theorem open_authority : ∀ c ∈ spelling.authority, endsAuthority c = false := by
  intro c member
  rw [endsAuthority_eq_false_iff]
  rcases List.mem_append.mp member with inUser | member
  · cases given : spelling.user with
    | none => simp [given, userText] at inUser
    | some text =>
        have inside : c ∈ text ∨ c = '@' := by simpa [given, userText] using inUser
        rcases inside with inside | rfl
        · exact lawful.user text given c inside
        · decide
  · rcases List.mem_append.mp member with inHost | inPort
    · have plain := lawful.plain_host c inHost
      exact fun listed => plain (List.mem_append_left ['@', ':'] listed)
    · cases given : spelling.port with
      | none => simp [given, portText] at inPort
      | some digits =>
          have inside : c = ':' ∨ c ∈ digits := by simpa [given, portText] using inPort
          rcases inside with rfl | inside
          · decide
          · intro listed
            have digit := (lawful.port digits given).1 c inside
            simp at listed
            rcases listed with rfl | rfl | rfl <;> simp at digit

theorem leads_path : Leads spelling.path spelling.container :=
  ⟨spelling.slashes, spelling.tail, rfl, lawful.filledContainer,
    fun c member => endsAuthority_eq_false_iff.mpr (lawful.container c member),
    fun c member => endsAuthority_eq_true_iff.mpr (lawful.tail c member)⟩

/-- A lawful text is cut into its pieces. -/
theorem parts_eq {chars : List Char} (written : spelling.text = cleaned chars) :
    parts chars = ⟨spelling.scheme.map Char.toLower, spelling.authority, pathOf spelling.path⟩ := by
  obtain ⟨slashes, counted⟩ := Nat.exists_eq_succ_of_ne_zero (Nat.ne_of_gt lawful.slashes)
  have begun : spelling.path = '/' :: (List.replicate slashes '/' ++
      (spelling.container ++ spelling.tail)) := by
    rw [path, counted]
    rfl
  rw [parts, ← written, text, splitScheme_of_web lawful.web]
  dsimp only
  rw [begun, splitAuthority_slashes lawful.open_authority]

end IsLawful

end Spelling

section Read

variable {uri suffix : String} {identity : Identity}
  (plain : ∀ c ∈ uri.toList, c.val < 0x80 ∧ c ≠ '[' ∧ c ≠ ']')
  (asciiSuffix : ∀ c ∈ suffix.toList, c.val < 0x80)

include plain asciiSuffix

theorem decode_of_lawful {spelling : Spelling} (written : spelling.text = cleaned uri.toList)
    (lawful : spelling.IsLawful suffix) : decode uri suffix = .ok spelling.identity := by
  have cut := lawful.parts_eq written
  have given : ∀ c ∈ spelling.authority, c.val < 0x80 ∧ c ≠ '[' ∧ c ≠ ']' := by
    intro c member
    have inText := Spelling.mem_text (.inl member)
    rw [written] at inText
    exact plain c (mem_cleaned inText).1
  have noOpening : '[' ∉ spelling.authority := fun member => (given _ member).2.1 rfl
  have noClosing : ']' ∉ spelling.authority := fun member => (given _ member).2.2 rfl
  obtain ⟨hosted, port⟩ := (host_eq_iff noOpening).mpr ⟨spelling.user, spelling.port, rfl,
    lawful.port, fun member => lawful.plain_host _ member (by decide),
    fun member => lawful.plain_host _ member (by decide)⟩
  have read : ofChars? uri.toList = .ok _ := ofChars?_eq_ok_iff.mpr ⟨cut,
    checkBrackets_of_not_mem noOpening noClosing,
    checkFolding_of_ascii fun c member => (given c member).1, port⟩
  obtain ⟨others, pieces⟩ := List.head?_eq_some_iff.mp (head?_segments_iff.mpr lawful.leads_path)
  -- The account may hold the suffix too: `accountOf?` takes away the last one only.
  refine decode_eq_ok_iff.mpr ⟨_, spelling.account, spelling.container, others, read, lawful.web,
    ?_, ?_, pieces, rfl⟩
  · rw [host, hosted]
    simp [Spelling.host]
  · rw [host, hosted]
    refine (accountOf?_eq_some_iff (fun c member => ?_) asciiSuffix).mpr
      ⟨spelling.suffix, rfl, lawful.filledAccount, lawful.suffix⟩
    exact (given c (Spelling.mem_authority member)).1

/-- Whatever is read is spelled by the rules. -/
theorem exists_spelling_of_decode (decoded : decode uri suffix = .ok identity) :
    ∃ spelling : Spelling, spelling.text = cleaned uri.toList ∧ spelling.IsLawful suffix ∧
      spelling.identity = identity := by
  obtain ⟨address, account, container, others, read, web, filled, found, pieces, rfl⟩ :=
    decode_eq_ok_iff.mp decoded
  obtain ⟨rfl, _, _, checked⟩ := ofChars?_eq_ok_iff.mp read
  have filledAuthority : (parts uri.toList).authority ≠ [] := fun empty => filled <| by
    rw [host, empty]
    rfl
  have given : ∀ c ∈ (parts uri.toList).authority, (c.val < 0x80 ∧ c ≠ '[' ∧ c ≠ ']') ∧
      endsAuthority c = false := fun c member =>
    ⟨plain c (mem_authority member).1, (mem_authority member).2.2⟩
  have hostPlain : ∀ c ∈ (parts uri.toList).host, c ∉ ['/', '?', '#', '@', ':'] :=
    fun c => plain_of_mem_host
  have asciiHost : ∀ c ∈ (parts uri.toList).host, c.val < 0x80 :=
    fun c member => (given c (mem_host member).1).1.1
  obtain ⟨ending, cut, filledAccount, same⟩ :=
    (accountOf?_eq_some_iff asciiHost asciiSuffix).mp found
  obtain ⟨scheme, authority, rest, whole, written, stop⟩ := exists_of_parts_web web filledAuthority
  rw [whole] at web checked given hostPlain cut pieces
  have noOpening : '[' ∉ authority := fun member => (given _ member).1.2.1 rfl
  obtain ⟨user, port, rfl, ports, _, _⟩ := (host_eq_iff noOpening).mp ⟨cut, checked⟩
  obtain ⟨slashes, tail, rfl, filledContainer, inside, stopped⟩ :=
    head?_segments_iff.mp (List.head?_eq_some_iff.mpr ⟨others, pieces⟩)
  rw [cut] at hostPlain
  refine ⟨⟨scheme, user, account, ending, port, slashes, container, tail⟩, written.symm, ?_, rfl⟩
  exact {
    scheme := by simpa [isWebScheme, EqIgnoringCase] using web
    user := fun text present c member => by
      subst present
      refine endsAuthority_eq_false_iff.mp (given c ?_).2
      simp [userText, member]
    filledAccount
    account := fun c member => hostPlain c (List.mem_append_left _ member)
    suffixPlain := fun c member =>
      hostPlain c (List.mem_append_right _ (List.mem_cons_of_mem _ member))
    suffix := same
    port := ports
    slashes := by
      -- Without a slash the container would have gone into the authority.
      rcases Nat.eq_zero_or_pos slashes with rfl | positive
      · obtain ⟨first, others, rfl⟩ := List.exists_cons_of_ne_nil filledContainer
        have ends := stop first rfl
        rw [inside first List.mem_cons_self] at ends
        cases ends
      · exact positive
    filledContainer
    container := fun c member => endsAuthority_eq_false_iff.mp (inside c member)
    tail := fun c member => endsAuthority_eq_true_iff.mp (stopped c member) }

/-- A text is read if and only if it is spelled by the rules, as the account and the container of
any such spelling, which are the same in all; every other text is malformed. -/
theorem decode_eq_ok_iff_spelled :
    (∀ identity, decode uri suffix = .ok identity ↔
      ∃ spelling : Spelling, spelling.text = cleaned uri.toList ∧ spelling.IsLawful suffix ∧
        spelling.identity = identity) ∧
    ((∀ spelling : Spelling, spelling.text = cleaned uri.toList → ¬spelling.IsLawful suffix) →
      ∃ fault, decode uri suffix = .error fault) ∧
    ∀ first second : Spelling, first.text = cleaned uri.toList → first.IsLawful suffix →
      second.text = cleaned uri.toList → second.IsLawful suffix →
      first.identity = second.identity := by
  refine ⟨fun identity => ⟨exists_spelling_of_decode plain asciiSuffix, ?_⟩, fun unspelled => ?_,
    fun first second writtenFirst lawfulFirst writtenSecond lawfulSecond => ?_⟩
  · rintro ⟨spelling, written, lawful, rfl⟩
    exact decode_of_lawful plain asciiSuffix written lawful
  · cases decoded : decode uri suffix with
    | error fault => exact ⟨fault, rfl⟩
    | ok identity =>
        obtain ⟨spelling, written, lawful, _⟩ :=
          exists_spelling_of_decode plain asciiSuffix decoded
        exact absurd lawful (unspelled spelling written)
  · have read := decode_of_lawful plain asciiSuffix writtenFirst lawfulFirst
    exact Except.ok.inj
      (read.symm.trans (decode_of_lawful plain asciiSuffix writtenSecond lawfulSecond))

end Read

/-- An id with everything that it may carry, and two signs that could end its user information. -/
theorem decode_eq_ok_iff_spelled_dressed :
    let uri := "\t HTTPS://ops:pw@x@A.core.b.Core.Win\ndows.NET:00443//logs/x?y#z"
    let spelling : Spelling := ⟨"HTTPS".toList, some "ops:pw@x".toList, "A.core.b".toList,
      "Core.Windows.NET".toList, some "00443".toList, 2, "logs".toList, "/x?y#z".toList⟩
    (∀ c ∈ uri.toList, c.val < 0x80 ∧ c ≠ '[' ∧ c ≠ ']') ∧
      (∀ c ∈ "core.windows.net".toList, c.val < 0x80) ∧
      spelling.text = cleaned uri.toList ∧ spelling.IsLawful "core.windows.net" ∧
      decode uri "core.windows.net" = .ok ⟨"A.core.b", "logs"⟩ := by
  intro uri spelling
  have plain : ∀ c ∈ uri.toList, c.val < 0x80 ∧ c ≠ '[' ∧ c ≠ ']' := by simp [uri]
  have asciiSuffix : ∀ c ∈ "core.windows.net".toList, c.val < 0x80 := by simp
  have written : spelling.text = cleaned uri.toList := by decide
  have lawful : spelling.IsLawful "core.windows.net" := {
    scheme := by decide
    user := by
      rintro text ⟨⟩
      simp
    filledAccount := by decide
    account := by simp [spelling]
    suffixPlain := by simp [spelling]
    suffix := by decide
    port := by
      rintro digits ⟨⟩
      decide
    slashes := by decide
    filledContainer := by decide
    container := by simp [spelling]
    tail := by simp [spelling] }
  exact ⟨plain, asciiSuffix, written, lawful,
    ((decode_eq_ok_iff_spelled plain asciiSuffix).1 _).mpr ⟨spelling, written, lawful, by decide⟩⟩

end Stowage.Identity
