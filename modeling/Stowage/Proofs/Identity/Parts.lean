import Stowage.Identity.Basic

/-! # The parts of an address

`Address.ofChars?` cuts a text up and checks the pieces.  Here the cutting is a function of its own,
`parts`, whose pieces are described by what their characters cannot be: each stage takes characters
away and none adds one.
-/

namespace Stowage.Text

/-- A piece of a text cut at every mark holds no mark and only what the text holds. -/
theorem mem_splitOn {mark : Char} {text piece : List Char} (member : piece ∈ text.splitOn mark) :
    mark ∉ piece ∧ ∀ c ∈ piece, c ∈ text := by
  induction text generalizing piece with
  | nil =>
      have empty : piece = [] := by simpa using member
      simp [empty]
  | cons head rest ih =>
      rw [List.splitOn_cons_eq_if_modifyHead] at member
      by_cases here : head = mark
      · rw [if_pos (by simpa using here)] at member
        rcases List.mem_cons.mp member with rfl | later
        · simp
        · obtain ⟨free, inside⟩ := ih later
          exact ⟨free, fun c held => List.mem_cons_of_mem head (inside c held)⟩
      · rw [if_neg (by simpa using here)] at member
        cases pieces : rest.splitOn mark with
        | nil => exact absurd pieces (List.splitOn_ne_nil mark rest)
        | cons first others =>
            rw [pieces, List.modifyHead_cons] at member
            rcases List.mem_cons.mp member with rfl | later
            · obtain ⟨free, inside⟩ := ih (pieces ▸ List.mem_cons_self)
              refine ⟨by simpa [free] using Ne.symm here, fun c held => ?_⟩
              rcases List.mem_cons.mp held with rfl | held
              · exact List.mem_cons_self
              · exact List.mem_cons_of_mem head (inside c held)
            · obtain ⟨free, inside⟩ := ih (pieces ▸ List.mem_cons_of_mem first later)
              exact ⟨free, fun c held => List.mem_cons_of_mem head (inside c held)⟩

/-- The first piece of a text that is cut at every mark. -/
theorem head?_splitOn {mark : Char} {text : List Char} :
    (text.splitOn mark).head? = some (before mark text) := by
  induction text with
  | nil => rfl
  | cons head rest ih =>
      rw [List.splitOn_cons_eq_if_modifyHead]
      by_cases here : head = mark
      · simp [here, before]
      · simp [here, before, List.head?_modifyHead, ih]

end Stowage.Text

namespace Stowage.Address

open Text Identity

/-- The parts of a text before they are checked. -/
def parts (text : List Char) : Address :=
  let (scheme, rest) := splitScheme (cleaned text)
  let (authority, rest) := splitAuthority rest
  { scheme, authority, path := pathOf rest }

variable {text rest authority path : List Char} {address : Address} {c : Char}

theorem ofChars?_eq_ok_iff :
    ofChars? text = .ok address ↔
      parts text = address ∧ checkBrackets address.authority = .ok () ∧
        checkFolding address.authority = .ok () ∧ checkPort address.authority = .ok () := by
  have unfolded : ofChars? text = (do
      checkBrackets (parts text).authority
      checkFolding (parts text).authority
      checkPort (parts text).authority
      pure (parts text)) := rfl
  rw [unfolded]
  constructor
  · intro read
    cases brackets : checkBrackets (parts text).authority with
    | error fault => simp [brackets, bind, Except.bind] at read
    | ok =>
        cases folding : checkFolding (parts text).authority with
        | error fault => simp [brackets, folding, bind, Except.bind] at read
        | ok =>
            cases port : checkPort (parts text).authority with
            | error fault => simp [brackets, folding, port, bind, Except.bind] at read
            | ok =>
                have same : parts text = address := by
                  simpa [brackets, folding, port, bind, Except.bind, pure, Except.pure] using read
                subst same
                exact ⟨rfl, brackets, folding, port⟩
  · rintro ⟨rfl, brackets, folding, port⟩
    simp only [brackets, folding, port]
    rfl

/-! ## What the parts are made of -/

theorem mem_cleaned (member : c ∈ cleaned text) : c ∈ text ∧ isBreak c = false := by
  obtain ⟨kept, smooth⟩ := List.mem_filter.mp member
  exact ⟨(List.dropWhile_sublist _).subset kept, by simpa using smooth⟩

theorem mem_splitScheme_rest (member : c ∈ (splitScheme text).2) : c ∈ text := by
  simp only [splitScheme] at member
  split at member
  · exact (List.dropWhile_sublist _).subset ((List.drop_sublist 1 _).subset member)
  · exact member

theorem mem_splitAuthority (member : c ∈ (splitAuthority text).1) :
    c ∈ text ∧ endsAuthority c = false := by
  unfold splitAuthority at member
  split at member
  · next tail =>
      have inside := List.all_eq_true.mp List.all_takeWhile c member
      have kept := (List.takeWhile_sublist _).subset member
      exact ⟨by simp [kept], by simpa using inside⟩
  · simp at member

theorem mem_splitAuthority_rest (member : c ∈ (splitAuthority text).2) : c ∈ text := by
  unfold splitAuthority at member
  split at member
  · have kept := (List.dropWhile_sublist _).subset member
    simp [kept]
  · exact member

theorem mem_pathOf (member : c ∈ pathOf text) : c ∈ text ∧ c ≠ '?' ∧ c ≠ '#' := by
  have inner := mem_of_mem_before member
  refine ⟨mem_of_mem_before inner, ?_, ?_⟩
  · rintro rfl
    exact not_mem_before member
  · rintro rfl
    exact not_mem_before inner

theorem mem_authority (member : c ∈ (parts text).authority) :
    c ∈ text ∧ isBreak c = false ∧ endsAuthority c = false := by
  obtain ⟨kept, inside⟩ := mem_splitAuthority member
  obtain ⟨given, smooth⟩ := mem_cleaned (mem_splitScheme_rest kept)
  exact ⟨given, smooth, inside⟩

theorem mem_path (member : c ∈ (parts text).path) :
    c ∈ text ∧ isBreak c = false ∧ c ≠ '?' ∧ c ≠ '#' := by
  obtain ⟨kept, noQuery, noFragment⟩ := mem_pathOf member
  obtain ⟨given, smooth⟩ := mem_cleaned (mem_splitScheme_rest (mem_splitAuthority_rest kept))
  exact ⟨given, smooth, noQuery, noFragment⟩

theorem mem_host (member : c ∈ address.host) : c ∈ address.authority ∧ c ≠ '@' ∧ c ≠ ':' := by
  have inner := mem_of_mem_before member
  refine ⟨mem_of_mem_afterLast inner, ?_, ?_⟩
  · rintro rfl
    exact not_mem_afterLast inner
  · rintro rfl
    exact not_mem_before member

theorem mem_segments {segment : List Char} (member : segment ∈ address.segments) :
    segment ≠ [] ∧ '/' ∉ segment ∧ ∀ c ∈ segment, c ∈ address.path := by
  obtain ⟨piece, filled⟩ := List.mem_filter.mp member
  exact ⟨by simpa using filled, mem_splitOn piece⟩

/-! ## The parts of a written address -/

theorem splitScheme_https :
    splitScheme ('h' :: 't' :: 't' :: 'p' :: 's' :: ':' :: rest) =
      (['h', 't', 't', 'p', 's'], rest) := rfl

theorem cleaned_of_smooth (first : (text.head?.map isLeadingNoise).getD false = false)
    (smooth : ∀ c ∈ text, isBreak c = false) : cleaned text = text := by
  cases text with
  | nil => rfl
  | cons head rest =>
      have visible : isLeadingNoise head = false := by simpa using first
      rw [cleaned, List.dropWhile_cons_of_neg (by simp [visible]), List.filter_eq_self]
      intro c member
      simp [smooth c member]

theorem splitAuthority_slashes (open_ : ∀ c ∈ authority, endsAuthority c = false) :
    splitAuthority ('/' :: '/' :: (authority ++ '/' :: path)) = (authority, '/' :: path) := by
  have kept : ∀ c ∈ authority, (!endsAuthority c) = true := by
    intro c member
    simp [open_ c member]
  simp only [splitAuthority, Prod.mk.injEq]
  constructor
  · rw [List.takeWhile_append_of_pos kept]
    simp [endsAuthority]
  · rw [List.dropWhile_append_of_pos kept]
    simp [endsAuthority]

theorem pathOf_of_plain (noQuery : '?' ∉ path) (noFragment : '#' ∉ path) : pathOf path = path := by
  rw [pathOf, before_of_not_mem noFragment, before_of_not_mem noQuery]

/-- The parts of a web address whose authority and path hold nothing that is dropped or cut at. -/
theorem parts_https
    (inAuthority : ∀ c ∈ authority, isBreak c = false ∧ endsAuthority c = false)
    (inPath : ∀ c ∈ path, isBreak c = false ∧ c ≠ '?' ∧ c ≠ '#') :
    parts ('h' :: 't' :: 't' :: 'p' :: 's' :: ':' :: '/' :: '/' :: (authority ++ '/' :: path)) =
      ⟨['h', 't', 't', 'p', 's'], authority, '/' :: path⟩ := by
  have scheme : ∀ c ∈ ['h', 't', 't', 'p', 's', ':', '/', '/'], isBreak c = false := by
    simp [isBreak]
  have smooth : ∀ c ∈ ['h', 't', 't', 'p', 's', ':', '/', '/'] ++ (authority ++ '/' :: path),
      isBreak c = false := by
    intro c member
    rcases List.mem_append.mp member with member | member
    · exact scheme c member
    · rcases List.mem_append.mp member with member | member
      · exact (inAuthority c member).1
      · rcases List.mem_cons.mp member with rfl | member
        · rfl
        · exact (inPath c member).1
  have noQuery : '?' ∉ '/' :: path := by
    simpa using fun member => (inPath '?' member).2.1 rfl
  have noFragment : '#' ∉ '/' :: path := by
    simpa using fun member => (inPath '#' member).2.2 rfl
  have cleanedWhole := cleaned_of_smooth rfl smooth
  simp only [List.cons_append, List.nil_append] at cleanedWhole
  simp only [parts, cleanedWhole, splitScheme_https,
    splitAuthority_slashes fun c member => (inAuthority c member).2,
    pathOf_of_plain noQuery noFragment]

/-! ## Checks that plain authorities pass -/

theorem hidesDelimiter_of_ascii (ascii : c.val < 0x80) : hidesDelimiter c = false := by
  have small : c.toNat < 0x80 := ascii
  simp only [hidesDelimiter, inRanges, foldedDelimiters, List.any_cons, List.any_nil,
    Bool.or_false, Bool.or_eq_false_iff, Bool.and_eq_false_iff, decide_eq_false_iff_not]
  omega

theorem checkFolding_of_ascii (ascii : ∀ c ∈ authority, c.val < 0x80) :
    checkFolding authority = .ok () := by
  have plain : authority.any hidesDelimiter = false := by
    rw [List.any_eq_false]
    intro c member
    simp [hidesDelimiter_of_ascii (ascii c member)]
  simp [checkFolding, plain]

theorem checkBrackets_of_not_mem (noOpening : '[' ∉ authority) (noClosing : ']' ∉ authority) :
    checkBrackets authority = .ok () := by
  simp [checkBrackets, noOpening, noClosing]

theorem hostPart_of_not_mem (noUser : '@' ∉ authority) : hostPart authority = authority :=
  afterLast_of_not_mem noUser

theorem checkPort_of_not_mem (noUser : '@' ∉ authority) (noPort : ':' ∉ authority) :
    checkPort authority = .ok () := by
  have behindBrackets : ':' ∉ after ']' (after '[' authority) :=
    fun member => noPort (mem_of_mem_after (mem_of_mem_after member))
  simp [checkPort, portPart, hostPart_of_not_mem noUser, after_of_not_mem noPort,
    after_of_not_mem behindBrackets]

theorem host_of_not_mem {scheme : List Char} (noUser : '@' ∉ authority) (noPort : ':' ∉ authority) :
    host ⟨scheme, authority, path⟩ = authority := by
  rw [host, hostPart_of_not_mem noUser, before_of_not_mem noPort]

theorem segments_singleton {scheme segment : List Char} (filled : segment ≠ [])
    (noSlash : '/' ∉ segment) : segments ⟨scheme, authority, '/' :: segment⟩ = [segment] := by
  have pieces : ('/' :: segment).splitOn '/' = [[], segment] := by
    rw [List.splitOn_cons_eq_if_modifyHead, List.splitOn_eq_singleton noSlash]
    rfl
  simp [segments, pieces, filled]

end Stowage.Address
