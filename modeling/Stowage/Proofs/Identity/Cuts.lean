import Stowage.Proofs.Identity.Parts

/-! # The cuts of an address, both ways

Each cut of an address is described by the texts that it comes from: which texts begin with the
scheme of a web address, where the authority stops, what stands around a host, and which texts lead
to a first segment.
-/

namespace Stowage.Address

open Text Identity

variable {text rest authority host path segment scheme : List Char} {c : Char}

theorem endsAuthority_eq_true_iff : endsAuthority c = true ↔ c ∈ ['/', '?', '#'] := by
  simp [endsAuthority, or_assoc]

theorem endsAuthority_eq_false_iff : endsAuthority c = false ↔ c ∉ ['/', '?', '#'] := by
  rw [← endsAuthority_eq_true_iff, Bool.not_eq_true]

/-! ## Each cut and its pieces -/

/-- A text that names the scheme of a web address, whatever the case of its letters. -/
theorem splitScheme_of_web (web : isWebScheme (scheme.map Char.toLower) = true) :
    splitScheme (scheme ++ ':' :: rest) = (scheme.map Char.toLower, rest) := by
  simp only [isWebScheme, Bool.or_eq_true, beq_iff_eq] at web
  have lowered : ∀ c ∈ scheme.map Char.toLower, c.isAlpha = true := by
    rcases web with web | web <;> simp [web]
  have letters : ∀ c ∈ scheme, c.isAlpha = true := fun c member =>
    isAlpha_of_toLower (lowered _ (List.mem_map_of_mem member))
  have noColon : ':' ∉ scheme := fun member => by simpa using letters ':' member
  have filled : scheme ≠ [] := by
    rintro rfl
    simp at web
  obtain ⟨first, others, rfl⟩ := List.exists_cons_of_ne_nil filled
  simp only [splitScheme, before_append_mark noColon, after_append_mark noColon]
  rw [if_pos]
  simp only [List.head?_cons, Option.map_some, Option.getD_some, Bool.and_eq_true,
    List.all_eq_true]
  refine ⟨⟨by simp, letters first List.mem_cons_self⟩, fun c member => ?_⟩
  simp [isSchemeChar, Char.isAlphanum, letters c member]

theorem exists_of_splitScheme_web (web : isWebScheme (splitScheme text).1 = true) :
    ∃ scheme, text = scheme ++ ':' :: (splitScheme text).2 ∧
      (splitScheme text).1 = scheme.map Char.toLower := by
  unfold splitScheme at web ⊢
  dsimp only at web ⊢
  split at web
  · next named =>
    rw [if_pos named]
    simp only [Bool.and_eq_true, List.contains_iff_mem] at named
    exact ⟨before ':' text, (before_append_after named.1.1).symm, rfl⟩
  · simp [isWebScheme] at web

theorem splitAuthority_eq (filled : (splitAuthority text).1 ≠ []) :
    text = '/' :: '/' :: ((splitAuthority text).1 ++ (splitAuthority text).2) := by
  unfold splitAuthority at filled ⊢
  split at filled
  · next tail => simp
  · simp at filled

theorem stop_splitAuthority (filled : (splitAuthority text).1 ≠ []) :
    ∀ c ∈ (splitAuthority text).2.head?, endsAuthority c = true := by
  unfold splitAuthority at filled ⊢
  split at filled
  · intro c member
    simpa using stop_dropWhile c member
  · simp at filled

/-- A web address with an authority is its scheme, the authority, and a rest that the authority stops
at. -/
theorem exists_of_parts_web (web : isWebScheme (parts text).scheme = true)
    (filled : (parts text).authority ≠ []) :
    ∃ scheme authority rest, parts text = ⟨scheme.map Char.toLower, authority, pathOf rest⟩ ∧
      cleaned text = scheme ++ ':' :: '/' :: '/' :: (authority ++ rest) ∧
      ∀ c ∈ rest.head?, endsAuthority c = true := by
  have whole : parts text =
      ⟨(splitScheme (cleaned text)).1, (splitAuthority (splitScheme (cleaned text)).2).1,
        pathOf (splitAuthority (splitScheme (cleaned text)).2).2⟩ := rfl
  rw [whole] at web filled ⊢
  obtain ⟨scheme, named, lowered⟩ := exists_of_splitScheme_web web
  refine ⟨scheme, _, _, by rw [lowered], ?_, stop_splitAuthority filled⟩
  rw [← splitAuthority_eq filled]
  exact named

theorem plain_of_mem_host (member : c ∈ (parts text).host) : c ∉ ['/', '?', '#', '@', ':'] := by
  obtain ⟨inAuthority, noUser, noPort⟩ := mem_host member
  have inside := endsAuthority_eq_false_iff.mp (mem_authority inAuthority).2.2
  intro listed
  rcases List.mem_append.mp (show c ∈ ['/', '?', '#'] ++ ['@', ':'] from listed) with ends | mark
  · exact inside ends
  · simp [noUser, noPort] at mark

/-- What a port is: ASCII digits, or none of them, whose number is in range.  A numeral that is too
long is not read at all. -/
def IsPort (digits : List Char) : Prop :=
  (∀ c ∈ digits, c.isDigit = true) ∧ digits.length ≤ Decimal.maxDigits ∧
    Nat.ofDigitChars 10 digits 0 ≤ 65535

instance {digits : List Char} : Decidable (IsPort digits) :=
  decidable_of_iff (digits.all Char.isDigit = true ∧ digits.length ≤ Decimal.maxDigits ∧
    Nat.ofDigitChars 10 digits 0 ≤ 65535) (by simp [IsPort])

theorem checkPort_eq_ok_iff (noOpening : '[' ∉ authority) :
    checkPort authority = .ok () ↔ IsPort (after ':' (hostPart authority)) := by
  have unbracketed : '[' ∉ hostPart authority := fun member =>
    noOpening (mem_of_mem_afterLast member)
  have port : portPart authority = after ':' (hostPart authority) := by
    simp [portPart, unbracketed]
  simp only [checkPort, port, IsPort]
  generalize after ':' (hostPart authority) = digits
  cases digits with
  | nil => simp [Nat.ofDigitChars]
  | cons first others =>
      simp only [List.isEmpty_cons, Bool.false_eq_true, if_false, ← List.all_eq_true]
      cases (first :: others).all Char.isDigit <;> grind

/-! ## The host between user information and port -/

/-- User information as it is written: with the sign that ends it. -/
def userText (user : Option (List Char)) : List Char :=
  user.elim [] fun text => text ++ ['@']

/-- A port as it is written: with the colon before it. -/
def portText (port : Option (List Char)) : List Char :=
  port.elim [] fun digits => ':' :: digits

theorem exists_user (authority : List Char) :
    ∃ user, authority = userText user ++ hostPart authority := by
  by_cases member : '@' ∈ authority
  · obtain ⟨start, whole⟩ := exists_append_afterLast member
    exact ⟨some start, whole.trans (by simp [userText, hostPart])⟩
  · exact ⟨none, (hostPart_of_not_mem member).symm⟩

theorem exists_port (text : List Char) :
    ∃ port, text = before ':' text ++ portText port ∧ ∀ digits ∈ port, digits = after ':' text := by
  by_cases member : ':' ∈ text
  · refine ⟨some (after ':' text), (before_append_after member).symm, ?_⟩
    rintro digits ⟨⟩
    rfl
  · exact ⟨none, by simp [portText, before_of_not_mem member], nofun⟩

theorem not_mem_portText {port : Option (List Char)} (lawful : ∀ digits ∈ port, IsPort digits) :
    '@' ∉ portText port := by
  cases port with
  | none => simp [portText]
  | some digits =>
      intro member
      have inside : '@' ∈ digits := by simpa [portText] using member
      simpa using (lawful digits rfl).1 '@' inside

theorem hostPart_userText {user : Option (List Char)} (noUser : '@' ∉ rest) :
    hostPart (userText user ++ rest) = rest := by
  cases user with
  | none => exact hostPart_of_not_mem noUser
  | some text =>
      have whole : userText (some text) ++ rest = text ++ '@' :: rest := by simp [userText]
      rw [whole, hostPart, afterLast_append_mark noUser]

/-- The host of an authority with a lawful port is what stands between the user information and the
port. -/
theorem host_eq_iff (noOpening : '[' ∉ authority) :
    (before ':' (hostPart authority) = host ∧ checkPort authority = .ok ()) ↔
      ∃ user port, authority = userText user ++ (host ++ portText port) ∧
        (∀ digits ∈ port, IsPort digits) ∧ '@' ∉ host ∧ ':' ∉ host := by
  rw [checkPort_eq_ok_iff noOpening]
  constructor
  · rintro ⟨rfl, lawful⟩
    obtain ⟨user, whole⟩ := exists_user authority
    obtain ⟨port, cut, digitsEq⟩ := exists_port (hostPart authority)
    refine ⟨user, port, by rw [← cut]; exact whole, ?_, ?_, not_mem_before⟩
    · intro digits member
      rw [digitsEq digits member]
      exact lawful
    · exact fun member => not_mem_afterLast (mem_of_mem_before member)
  · rintro ⟨user, port, rfl, lawful, noUser, noPort⟩
    -- User information may hold the sign as well: it is the last one that ends it.
    have free : '@' ∉ host ++ portText port := by
      simpa [noUser] using not_mem_portText lawful
    rw [hostPart_userText free]
    cases port with
    | none =>
        have alone : host ++ portText none = host := List.append_nil host
        rw [alone, before_of_not_mem noPort, after_of_not_mem noPort]
        exact ⟨rfl, by decide⟩
    | some digits =>
        have marked : host ++ portText (some digits) = host ++ ':' :: digits := rfl
        rw [marked, before_append_mark noPort, after_append_mark noPort]
        exact ⟨rfl, lawful digits rfl⟩

/-! ## The first segment of a path -/

theorem segments_slash : segments ⟨scheme, authority, '/' :: path⟩ =
    segments ⟨scheme, authority, path⟩ := by
  simp [segments, List.splitOn_cons_eq_if_modifyHead]

theorem head?_segments_cons (inside : c ≠ '/') :
    (segments ⟨scheme, authority, c :: path⟩).head? = some (c :: before '/' path) := by
  have first : (path.splitOn '/').head? = some (before '/' path) := head?_splitOn
  obtain ⟨others, pieces⟩ := List.head?_eq_some_iff.mp first
  simp [segments, List.splitOn_cons_eq_if_modifyHead, inside, pieces]

theorem pathOf_cons (noQuery : c ≠ '?') (noFragment : c ≠ '#') :
    pathOf (c :: text) = c :: pathOf text := by
  simp [pathOf, before, noQuery, noFragment]

theorem pathOf_mark (mark : c = '?' ∨ c = '#') : pathOf (c :: text) = [] := by
  rcases mark with rfl | rfl <;> simp [pathOf, before]

theorem before_pathOf :
    before '/' (pathOf text) = text.takeWhile fun c => !endsAuthority c := by
  induction text with
  | nil => rfl
  | cons c rest ih =>
      by_cases mark : c = '?' ∨ c = '#'
      · rw [pathOf_mark mark]
        rcases mark with rfl | rfl <;> simp [before, endsAuthority]
      · obtain ⟨noQuery, noFragment⟩ := not_or.mp mark
        rw [pathOf_cons noQuery noFragment]
        by_cases slash : c = '/'
        · simp [slash, before, endsAuthority]
        · simp only [before] at ih
          simp [before, slash, noQuery, noFragment, endsAuthority, ih]

/-- The text begins with slashes and the segment, which ends where the text does or at a character
that ends a segment. -/
def Leads (text segment : List Char) : Prop :=
  ∃ slashes tail, text = List.replicate slashes '/' ++ (segment ++ tail) ∧ segment ≠ [] ∧
    (∀ c ∈ segment, endsAuthority c = false) ∧ ∀ c ∈ tail.head?, endsAuthority c = true

theorem not_leads_mark (mark : c = '?' ∨ c = '#') : ¬Leads (c :: rest) segment := by
  rintro ⟨slashes, tail, whole, filled, inside, _⟩
  cases slashes with
  | zero =>
      obtain ⟨first, others, rfl⟩ := List.exists_cons_of_ne_nil filled
      obtain ⟨rfl, _⟩ := List.cons.inj whole
      rcases mark with rfl | rfl <;> simpa [endsAuthority] using inside _ List.mem_cons_self
  | succ slashes =>
      obtain ⟨rfl, _⟩ := List.cons.inj whole
      simp at mark

theorem leads_slash : Leads ('/' :: rest) segment ↔ Leads rest segment := by
  constructor
  · rintro ⟨slashes, tail, whole, filled, inside, stop⟩
    cases slashes with
    | zero =>
        obtain ⟨first, others, rfl⟩ := List.exists_cons_of_ne_nil filled
        obtain ⟨rfl, _⟩ := List.cons.inj whole
        simpa [endsAuthority] using inside _ List.mem_cons_self
    | succ slashes => exact ⟨slashes, tail, (List.cons.inj whole).2, filled, inside, stop⟩
  · rintro ⟨slashes, tail, rfl, filled, inside, stop⟩
    exact ⟨slashes + 1, tail, rfl, filled, inside, stop⟩

theorem leads_cons (inside : endsAuthority c = false) :
    Leads (c :: rest) segment ↔ c :: rest.takeWhile (fun c => !endsAuthority c) = segment := by
  constructor
  · rintro ⟨slashes, tail, whole, filled, plain, stop⟩
    cases slashes with
    | zero =>
        obtain ⟨first, others, rfl⟩ := List.exists_cons_of_ne_nil filled
        obtain ⟨rfl, rfl⟩ := List.cons.inj whole
        have kept : ∀ d ∈ others, (!endsAuthority d) = true := fun d member => by
          simpa using plain d (List.mem_cons_of_mem c member)
        exact congrArg (List.cons c)
          (takeWhile_append_stop kept fun d member => by simpa using stop d member)
    | succ slashes =>
        obtain ⟨rfl, _⟩ := List.cons.inj whole
        simp [endsAuthority] at inside
  · rintro rfl
    refine ⟨0, rest.dropWhile fun c => !endsAuthority c, ?_, by simp, ?_, fun d member => ?_⟩
    · simp [List.takeWhile_append_dropWhile]
    · refine List.forall_mem_cons.mpr ⟨inside, fun d member => ?_⟩
      simpa using List.all_eq_true.mp List.all_takeWhile d member
    · simpa using stop_dropWhile d member

theorem head?_segments_iff :
    (segments ⟨scheme, authority, pathOf text⟩).head? = some segment ↔ Leads text segment := by
  induction text with
  | nil =>
      refine iff_of_false (by simp [segments, pathOf, before]) ?_
      rintro ⟨count, tail, whole, filled, _⟩
      simp [filled] at whole
  | cons c rest ih =>
      by_cases mark : c = '?' ∨ c = '#'
      · refine iff_of_false ?_ (not_leads_mark mark)
        simp [pathOf_mark mark, segments]
      · obtain ⟨noQuery, noFragment⟩ := not_or.mp mark
        rw [pathOf_cons noQuery noFragment]
        -- A slash adds an empty piece, which is no segment; any other character begins the first.
        by_cases slash : c = '/'
        · rw [slash, segments_slash, ih, leads_slash]
        · have inside : endsAuthority c = false := by
            simp [endsAuthority, slash, noQuery, noFragment]
          rw [head?_segments_cons slash, before_pathOf, leads_cons inside, Option.some.injEq]

end Stowage.Address
