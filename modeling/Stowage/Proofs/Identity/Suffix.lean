import Stowage.Proofs.Identity.Accounts
import Stowage.Proofs.Identity.NormalForm
import Stowage.Proofs.Text.LowerForm

/-! # Suffixes beyond ASCII

The suffix is looked for in lower case, and cut off by the length that it has as given.  Both come
to the same, so that the account is what stands before the suffix and its point, for every address
if and only if the suffix is aligned with its lower form: the lower form of the dotted capital I
does not stand in it, and it does not begin with a final sigma that would be an inner one behind
the point (`decode_strips_iff`).  Every ASCII suffix is aligned.
-/

namespace Stowage.Identity

open Text Address

section Hosts

variable {host suffix account left text : List Char}

/-- A suffix whose lower form tells where the suffix begins. -/
def IsAligned (suffix : List Char) : Prop :=
  ¬dottedForm <:+: lower suffix ∧ startsFinal suffix = false

instance : Decidable (IsAligned suffix) :=
  inferInstanceAs (Decidable (_ ∧ _))

theorem isAligned_of_ascii (ascii : ∀ c ∈ suffix, c.val < 0x80) : IsAligned suffix := by
  refine ⟨fun dotted => ?_, startsFinal_of_ascii ascii⟩
  have dot : '\u0307' ∈ lower suffix := dotted.subset (by simp [dottedForm])
  rw [lower_ascii suffix ascii] at dot
  obtain ⟨c, member, same⟩ := List.mem_map.mp dot
  obtain rfl := eq_of_toLower_eq (by decide) same
  exact absurd (ascii _ member) (by decide)

/-- The account stands before a text that is the suffix and its point but for case. -/
def Strips (host suffix account : List Char) : Prop :=
  ∃ ending, host = account ++ ending ∧ lower ending = lower ('.' :: suffix)

theorem accountOf?_eq_some_iff_cut :
    accountOf? host suffix = some account ↔
      lower ('.' :: suffix) <:+ lower host ∧ host.length ≠ suffix.length + 1 ∧
        host.take (host.length - (suffix.length + 1)) = account := by
  simp [accountOf?, endsIn, and_assoc]

theorem lower_point (text : List Char) : lower ('.' :: text) = '.' :: lower text :=
  lower_cons_of_isCaseMark (by decide) text

/-! ## Aligned suffixes are stripped -/

/-- A host whose lower form ends in a point and a text has the point itself, and behind it what is
lowered to that text there. -/
theorem exists_point_of_suffix (under : '.' :: text <:+ lower host) :
    ∃ first last, host = first ++ '.' :: last ∧ lowerFrom ('.' :: first.reverse) last = text := by
  obtain ⟨start, whole⟩ := under
  obtain ⟨first, last, rfl, same⟩ := exists_append_of_lowerFrom whole.symm (by simp)
  rw [List.append_nil] at same
  cases last with
  | nil => cases same
  | cons c last =>
      have undotted : c ≠ 'İ' := by
        rintro rfl
        exact absurd (List.cons.inj same).1 (by decide)
      obtain ⟨d, lowers, lowered⟩ := lowerFrom_cons_cases first.reverse last undotted
      obtain ⟨rfl, behind⟩ := List.cons.inj (lowered.symm.trans same)
      obtain rfl := lowers.eq_of_uncased (by decide)
      exact ⟨first, last, rfl, behind⟩

theorem strips_of_isAligned (aligned : IsAligned suffix)
    (found : accountOf? host suffix = some account) :
    account ≠ [] ∧ Strips host suffix account := by
  obtain ⟨under, longer, rfl⟩ := accountOf?_eq_some_iff_cut.mp found
  rw [lower_point] at under
  obtain ⟨first, last, rfl, same⟩ := exists_point_of_suffix under
  have undotted : 'İ' ∉ suffix := fun member => aligned.1 (dottedForm_infix_of_mem [] member)
  have undottedLast : 'İ' ∉ last := fun member =>
    aligned.1 (same ▸ dottedForm_infix_of_mem _ member)
  have lowered : lower last = lower suffix :=
    lower_eq_of_lowerFrom_eq undottedLast undotted aligned.2 same
  have size : last.length = suffix.length := by
    simpa [List.count_eq_zero.mpr undotted, List.count_eq_zero.mpr undottedLast] using
      length_add_count_eq lowered
  have cut : (first ++ '.' :: last).take ((first ++ '.' :: last).length - (suffix.length + 1)) =
      first := by
    simp [← size]
  rw [cut]
  refine ⟨?_, '.' :: last, rfl, by rw [lower_point, lower_point, lowered]⟩
  rintro rfl
  exact longer (by simp [size])

/-! ## Other suffixes are not -/

theorem suffix_lower_append (same : lowerFrom ('.' :: left.reverse) text = lower suffix) :
    lower ('.' :: suffix) <:+ lower (left ++ '.' :: text) := by
  obtain ⟨start, whole⟩ := lowerFrom_append [] left ('.' :: text)
  refine ⟨start, ?_⟩
  rw [lower_point, ← same, lower, whole, List.append_nil, lowerFrom,
    lowerChar_of_uncased _ _ (by decide)]
  rfl

/-- A text of another length with the lower form of the suffix, behind digits that make it longer
than the suffix and its point. -/
theorem exists_host_of_length_ne {other : List Char} (same : lower other = lower suffix)
    (uneven : other.length ≠ suffix.length) :
    let host := List.replicate (suffix.length + 1) '1' ++ '.' :: other
    ∃ account, accountOf? host suffix = some account ∧ ¬Strips host suffix account := by
  intro host
  have side : meetsLetter ('.' :: (List.replicate (suffix.length + 1) '1').reverse) = false := by
    rw [List.reverse_replicate, List.replicate_succ, meetsLetter_cons_of_isCaseMark (by decide),
      meetsLetter_cons, if_neg (by decide)]
    decide
  have under : lower ('.' :: suffix) <:+ lower host := by
    refine suffix_lower_append ?_
    rw [← same]
    exact lowerFrom_congr other side
  have size : host.length = suffix.length + 1 + (other.length + 1) := by simp [host]
  refine ⟨_, accountOf?_eq_some_iff_cut.mpr ⟨under, by omega, rfl⟩, ?_⟩
  rintro ⟨ending, whole, lowered⟩
  have endingSize : ending.length = suffix.length + 1 := by
    have lengths : host.length =
        (host.take (host.length - (suffix.length + 1))).length + ending.length := by
      rw [← List.length_append, ← whole]
    rw [List.length_take] at lengths
    omega
  have endingCount : ending.count 'İ' = suffix.count 'İ' := by
    have counts := length_add_count_eq lowered
    rw [List.count_cons_of_ne (by decide), List.length_cons] at counts
    omega
  have otherCount := length_add_count_eq same
  have endsHost : ending <:+ host := ⟨_, whole.symm⟩
  have otherEndsHost : other <:+ host := ⟨List.replicate (suffix.length + 1) '1' ++ ['.'], by
    simp [host]⟩
  -- Of the two ends of the host, the longer one has at least as many dotted capitals.
  rcases Nat.lt_or_gt_of_ne uneven with shorter | longer
  · have inner := List.suffix_of_suffix_length_le otherEndsHost endsHost (by omega)
    have count := inner.sublist.count_le 'İ'
    omega
  · have inner := List.suffix_of_suffix_length_le endsHost otherEndsHost (by omega)
    have count := inner.sublist.count_le 'İ'
    omega

/-- Every suffix that is not aligned is missed in some host, of the characters of the suffix and a
few others. -/
theorem exists_host_of_not_isAligned (uneven : ¬IsAligned suffix) :
    ∃ host account, accountOf? host suffix = some account ∧ ¬Strips host suffix account ∧
      ∀ c ∈ host, c ∈ suffix ∨ c ∈ ['1', 'a', '.', 'Σ', 'İ', 'i', '\u0307'] := by
  by_cases dotted : dottedForm <:+: lower suffix
  · obtain ⟨other, same, uneven, chars⟩ := exists_of_dottedForm_infix dotted
    obtain ⟨account, found, missed⟩ := exists_host_of_length_ne same uneven
    refine ⟨_, account, found, missed, fun c member => ?_⟩
    rcases List.mem_append.mp member with digit | behind
    · exact .inr (by simp [List.eq_of_mem_replicate digit])
    · rcases List.mem_cons.mp behind with rfl | inOther
      · exact .inr (by simp)
      · refine (chars c inOther).imp_right fun listed => ?_
        exact (by simp : ['İ', 'i', '\u0307'] ⊆ ['1', 'a', '.', 'Σ', 'İ', 'i', '\u0307']) listed
  · have final : startsFinal suffix = true := by
      by_contra other
      exact uneven ⟨dotted, by simpa using other⟩
    obtain ⟨marks, rest, rfl, behindLetter, alone⟩ := exists_of_startsFinal final
    have under : lower ('.' :: (marks ++ 'ς' :: rest)) <:+
        lower (['a'] ++ '.' :: (marks ++ 'Σ' :: rest)) :=
      suffix_lower_append (behindLetter ['.', 'a'] (by decide))
    have size : (['a'] ++ '.' :: (marks ++ 'Σ' :: rest)).length =
        (marks ++ 'ς' :: rest).length + 2 := by simp
    refine ⟨['a'] ++ '.' :: (marks ++ 'Σ' :: rest), ['a'],
      accountOf?_eq_some_iff_cut.mpr ⟨under, by omega, by rw [size]; simp⟩, ?_, ?_⟩
    · rintro ⟨ending, whole, lowered⟩
      rw [← List.append_cancel_left whole, lower_point, lower_point] at lowered
      exact alone (List.cons.inj lowered).2
    · intro c member
      simp only [List.mem_append, List.mem_cons] at member ⊢
      grind

end Hosts

/-! ## Hosts in addresses -/

/-- Characters that a host may hold, also beyond ASCII: the others end it, are dropped from an
address, or hide a delimiter. -/
def standsInHosts (c : Char) : Bool :=
  not (['/', '?', '#', '@', ':', '\t', '\n', '\r'].contains c) && !hidesDelimiter c

variable {uri suffix : String} {identity : Identity} {c : Char} {host : List Char}

theorem standsInHosts_iff : standsInHosts c = true ↔
    (isBreak c = false ∧ endsAuthority c = false ∧ c ≠ '@' ∧ c ≠ ':') ∧
      hidesDelimiter c = false := by
  rw [← plain_iff]
  simp [standsInHosts]

theorem standsInHosts_of_isCased (cased : isCased c = true) : standsInHosts c = true := by
  have unlisted : c ∉ ['/', '?', '#', '@', ':', '\t', '\n', '\r'] := by
    have uncased : (['/', '?', '#', '@', ':', '\t', '\n', '\r'].all fun d => !isCased d) = true := by
      decide
    intro listed
    simpa [cased] using List.all_eq_true.mp uncased c listed
  simpa [standsInHosts, hidesDelimiter_of_isCased cased] using unlisted

/-- User information in brackets, as they stand around a numeric host.  Only the first brackets of
an authority are looked at, so whatever stands behind these is taken as it is. -/
def bracketedUser : List Char :=
  ['[', 'v', '1', '.', 'a', ']', '@']

/-- An address with the given host. -/
def addressOf (host : List Char) : String :=
  String.ofList
    ('h' :: 't' :: 't' :: 'p' :: 's' :: ':' :: '/' :: '/' :: (bracketedUser ++ host ++ ['/', 'c']))

section Hosted

variable (hosted : ∀ c ∈ host, standsInHosts c = true)

include hosted

theorem parts_addressOf : parts (addressOf host).toList =
    ⟨['h', 't', 't', 'p', 's'], bracketedUser ++ host, ['/', 'c']⟩ := by
  have inUser : ∀ c ∈ bracketedUser, isBreak c = false ∧ endsAuthority c = false := by
    simp [bracketedUser, isBreak, endsAuthority]
  have inAuthority : ∀ c ∈ bracketedUser ++ host, isBreak c = false ∧ endsAuthority c = false := by
    intro c member
    rcases List.mem_append.mp member with user | member
    · exact inUser c user
    · obtain ⟨⟨smooth, opened, _⟩, _⟩ := standsInHosts_iff.mp (hosted c member)
      exact ⟨smooth, opened⟩
  rw [addressOf, String.toList_ofList]
  exact parts_https inAuthority (by simp [isBreak])

theorem hostPart_bracketed : hostPart (bracketedUser ++ host) = host := by
  have noUser : '@' ∉ host := fun member =>
    (standsInHosts_iff.mp (hosted '@' member)).1.2.2.1 rfl
  have user : bracketedUser = userText (some ['[', 'v', '1', '.', 'a', ']']) := rfl
  rw [user, hostPart_userText noUser]

theorem host_addressOf : (parts (addressOf host).toList).host = host := by
  have noPort : ':' ∉ host := fun member =>
    (standsInHosts_iff.mp (hosted ':' member)).1.2.2.2 rfl
  rw [parts_addressOf hosted, Address.host, hostPart_bracketed hosted, before_of_not_mem noPort]

theorem ofChars?_addressOf :
    ofChars? (addressOf host).toList = .ok (parts (addressOf host).toList) := by
  have noPort : ':' ∉ host := fun member =>
    (standsInHosts_iff.mp (hosted ':' member)).1.2.2.2 rfl
  have behindBrackets : ':' ∉ after ']' (after '[' host) :=
    fun member => noPort (mem_of_mem_after (mem_of_mem_after member))
  refine ofChars?_eq_ok_iff.mpr ⟨rfl, ?_, ?_, ?_⟩
  · rw [parts_addressOf hosted]
    rfl
  · rw [parts_addressOf hosted]
    refine checkFolding_eq_ok_iff.mpr fun c member => ?_
    rcases List.mem_append.mp member with user | member
    · exact hidesDelimiter_of_ascii ((by simp [bracketedUser] :
        ∀ c ∈ bracketedUser, c.val < 0x80) c user)
    · exact (standsInHosts_iff.mp (hosted c member)).2
  · rw [parts_addressOf hosted]
    simp [checkPort, portPart, hostPart_bracketed hosted, after_of_not_mem noPort,
      after_of_not_mem behindBrackets]

/-- Whatever account the host has under the suffix is read from the address. -/
theorem decode_addressOf {account : List Char} (filled : host ≠ [])
    (found : accountOf? host suffix.toList = some account) :
    decode (addressOf host) suffix = .ok ⟨String.ofList account, "c"⟩ := by
  refine decode_eq_ok_iff.mpr
    ⟨_, account, ['c'], [], ofChars?_addressOf hosted, ?_, ?_, ?_, ?_, rfl⟩
  · rw [parts_addressOf hosted]
    rfl
  · rwa [host_addressOf hosted]
  · rwa [host_addressOf hosted]
  · rw [parts_addressOf hosted]
    exact segments_singleton (by simp) (by simp)

end Hosted

/-! ## Ids that are read under a suffix -/

/-- A suffix that hosts can end in. -/
def IsHostable (suffix : List Char) : Prop :=
  ∀ c ∈ suffix, standsInHosts c = true

instance (suffix : List Char) : Decidable (IsHostable suffix) :=
  decidable_of_iff (suffix.all standsInHosts = true) List.all_eq_true

/-- What an id is read as: a container, whose name is one segment, in an account that is named and
that stands in the host before the suffix and its point. -/
structure IsStripped (uri suffix : String) (identity : Identity) : Prop where
  filledAccount : identity.account ≠ ""
  filledContainer : identity.container ≠ ""
  segment : '/' ∉ identity.container.toList
  host : Strips (parts uri.toList).host suffix.toList identity.account.toList

/-- A host under a suffix that does not stand in hosts: there is none, since what cannot stand in
hosts is lowered to itself, and nothing else is lowered to it. -/
theorem isHostable_of_suffix {suffix : List Char} (hosted : ∀ c ∈ host, standsInHosts c = true)
    (under : lower ('.' :: suffix) <:+ lower host) : IsHostable suffix := by
  intro c member
  by_contra barred
  have uncased : isCased c = false := by
    by_contra cased
    exact barred (standsInHosts_of_isCased (by simpa using cased))
  have noDot : c ≠ '\u0307' := by
    rintro rfl
    exact barred (by decide +kernel)
  have lowered : c ∈ lower ('.' :: suffix) :=
    (mem_lowerFrom_iff uncased noDot).mpr (List.mem_cons_of_mem _ member)
  exact barred (hosted c ((mem_lowerFrom_iff uncased noDot).mp (under.subset lowered)))

/-- An id that is read has a host of characters that may stand there, and the account that the host
has under the suffix. -/
theorem host_of_decode (decoded : decode uri suffix = .ok identity) :
    (∀ c ∈ (parts uri.toList).host, standsInHosts c = true) ∧
      accountOf? (parts uri.toList).host suffix.toList = some identity.account.toList := by
  obtain ⟨address, account, container, others, read, _, _, found, _, rfl⟩ :=
    decode_eq_ok_iff.mp decoded
  obtain ⟨rfl, _, folding, _⟩ := ofChars?_eq_ok_iff.mp read
  refine ⟨fun c member => standsInHosts_iff.mpr ?_, by simpa using found⟩
  obtain ⟨inAuthority, noUser, noPort⟩ := mem_host member
  obtain ⟨_, smooth, opened⟩ := mem_authority inAuthority
  exact ⟨⟨smooth, opened, noUser, noPort⟩, checkFolding_eq_ok_iff.mp folding c inAuthority⟩

theorem container_of_decode (decoded : decode uri suffix = .ok identity) :
    identity.container ≠ "" ∧ '/' ∉ identity.container.toList := by
  obtain ⟨_, filled, segment⟩ := chars_of_decode decoded
  exact ⟨filled, fun member => (isSegmentChar_iff.mp (segment '/' member)).2.2.2 rfl⟩

theorem isStripped_of_isAligned (aligned : IsHostable suffix.toList → IsAligned suffix.toList)
    (decoded : decode uri suffix = .ok identity) : IsStripped uri suffix identity := by
  obtain ⟨hosted, found⟩ := host_of_decode decoded
  obtain ⟨filledContainer, segment⟩ := container_of_decode decoded
  have hostable := isHostable_of_suffix hosted (accountOf?_eq_some_iff_cut.mp found).1
  obtain ⟨filled, stripped⟩ := strips_of_isAligned (aligned hostable) found
  exact ⟨by simpa using filled, filledContainer, segment, stripped⟩

theorem exists_uri_of_not_isAligned (hostable : IsHostable suffix.toList)
    (uneven : ¬IsAligned suffix.toList) :
    ∃ uri identity, decode uri suffix = .ok identity ∧ ¬IsStripped uri suffix identity := by
  obtain ⟨host, account, found, missed, chars⟩ := exists_host_of_not_isAligned uneven
  have others : ['1', 'a', '.', 'Σ', 'İ', 'i', '\u0307'].all standsInHosts = true := by
    decide +kernel
  have hosted : ∀ c ∈ host, standsInHosts c = true := fun c member =>
    (chars c member).elim (hostable c) (List.all_eq_true.mp others c)
  have filled : host ≠ [] := by
    rintro rfl
    have under := (accountOf?_eq_some_iff_cut.mp found).1
    rw [lower_point] at under
    exact absurd (List.suffix_nil.mp under) (by simp)
  refine ⟨addressOf host, _, decode_addressOf hosted filled found, fun stripped => missed ?_⟩
  have kept := stripped.host
  rwa [host_addressOf hosted, String.toList_ofList] at kept

/-- Whatever the id and the suffix, an id that is read gives the name of a container, which is one
segment, and an account that begins a host which ends in the suffix in lower case.  The account is
named, and is what stands before the suffix, in all ids that are read under the suffix, if and only
if the suffix is aligned or does not stand in hosts at all. -/
theorem decode_strips_iff (suffix : String) :
    (∀ uri identity, decode uri suffix = .ok identity →
      identity.container ≠ "" ∧ '/' ∉ identity.container.toList ∧
        identity.account.toList <+: (parts uri.toList).host ∧
        lower ('.' :: suffix.toList) <:+ lower (parts uri.toList).host) ∧
    ((∀ uri identity, decode uri suffix = .ok identity → IsStripped uri suffix identity) ↔
      (IsHostable suffix.toList → IsAligned suffix.toList)) ∧
    ((∀ c ∈ suffix.toList, c.val < 0x80) → IsAligned suffix.toList) := by
  refine ⟨fun uri identity decoded => ?_, ⟨fun strips hostable => ?_, fun aligned uri identity =>
    isStripped_of_isAligned aligned⟩, isAligned_of_ascii⟩
  · obtain ⟨hosted, found⟩ := host_of_decode decoded
    obtain ⟨filledContainer, segment⟩ := container_of_decode decoded
    obtain ⟨under, _, cut⟩ := accountOf?_eq_some_iff_cut.mp found
    exact ⟨filledContainer, segment, cut ▸ List.take_prefix _ _, under⟩
  · by_contra uneven
    obtain ⟨uri, identity, decoded, missed⟩ := exists_uri_of_not_isAligned hostable uneven
    exact missed (strips uri identity decoded)

example : IsHostable "δίσκος.gr".toList ∧ IsAligned "δίσκος.gr".toList := by decide +kernel

/-- A suffix that is a small i with a dot above, which hosts may spell as one capital letter, and
the other way round: the cut is one character off, before the point or behind it. -/
theorem decode_cuts_dotted :
    (decode "https://.\u0130/logs" "i\u0307" = .ok ⟨"", "logs"⟩ ∧
      ¬IsStripped "https://.\u0130/logs" "i\u0307" ⟨"", "logs"⟩) ∧
    decode "https://acct.i\u0307/logs" "\u0130" = .ok ⟨"acct.", "logs"⟩ ∧
      ¬IsStripped "https://acct.i\u0307/logs" "\u0130" ⟨"acct.", "logs"⟩ := by
  refine ⟨⟨by decide, fun stripped => stripped.filledAccount rfl⟩, by decide, ?_⟩
  rintro ⟨_, _, _, ending, whole, lowered⟩
  have host : (parts "https://acct.i\u0307/logs".toList).host =
      "acct.".toList ++ ['i', '\u0307'] := by decide
  rw [host] at whole
  rw [← List.append_cancel_left whole] at lowered
  exact absurd lowered (by decide)

end Stowage.Identity
