import Stowage.Proofs.Identity.RoundTrip
import Stowage.Proofs.Session
import Stowage.Service

/-! # Ids and environments

An id that was written under one suffix can be read under another only where the host ends in that
other suffix; what stands before it is then read as the account.  No built-in environment has a
suffix that ends like that of another one, so none of them reads the ids of another, and no
operation gets as far as a request with them.
-/

namespace Stowage

namespace Identity

open Text Address

variable {account container suffix other : String} {identity : Identity}

section Written

variable (hostAccount : IsHostText account) (hostSuffix : IsHostText suffix)
  (segment : IsSegmentText container) (filledContainer : container ≠ "")
  (hostOther : IsHostText other)

include hostAccount hostSuffix segment filledContainer hostOther

theorem decode_encode_eq_ok_iff_ends :
    decode (encode account container suffix) other = .ok identity ↔
      identity.container = container ∧ identity.account ≠ "" ∧
        ∃ ending : String, account ++ "." ++ suffix = identity.account ++ "." ++ ending ∧
          EqIgnoringCase ending.toList other.toList := by
  have asciiHost : ∀ c ∈ account.toList ++ '.' :: suffix.toList, c.val < 0x80 := fun c member =>
    (isHostChar_iff.mp (isHostChar_of_mem_host hostAccount hostSuffix c member)).1
  have asciiOther : ∀ c ∈ other.toList, c.val < 0x80 := fun c member =>
    (isHostChar_iff.mp (hostOther c member)).1
  have cut (rest : List Char) :
      accountOf? (account.toList ++ '.' :: suffix.toList) other.toList = some rest ↔ _ :=
    accountOf?_eq_some_iff asciiHost asciiOther
  rw [decode_encode_eq hostAccount hostSuffix segment filledContainer]
  constructor
  · intro decoded
    cases found : accountOf? (account.toList ++ '.' :: suffix.toList) other.toList with
    | none => simp [found] at decoded
    | some rest =>
        obtain rfl : (⟨String.ofList rest, container⟩ : Identity) = identity := by
          simpa [found] using decoded
        obtain ⟨ending, whole, filled, same⟩ := (cut rest).mp found
        refine ⟨rfl, by simpa using filled, String.ofList ending, ?_, by simpa using same⟩
        simpa [← String.toList_inj] using whole
  · rintro ⟨rfl, filled, ending, whole, same⟩
    have found := (cut identity.account.toList).mpr
      ⟨ending.toList, by simpa [← String.toList_inj] using whole, by simpa using filled, same⟩
    simp [found]

end Written

end Identity

namespace Environment

open Text

/-- No built-in suffix ends like another one, not even in other letters. -/
theorem not_suffix_of_ne {home away : Environment} (homeBuiltIn : home ∈ builtIn)
    (awayBuiltIn : away ∈ builtIn) (different : home ≠ away) :
    ¬('.' :: home.suffix.toList).map Char.toLower <:+
      ('.' :: away.suffix.toList).map Char.toLower := by
  have all : ∀ home ∈ builtIn, ∀ away ∈ builtIn, home ≠ away →
      (('.' :: home.suffix.toList).map Char.toLower).isSuffixOf
        (('.' :: away.suffix.toList).map Char.toLower) = false := by
    decide
  have apart := all home homeBuiltIn away awayBuiltIn different
  rw [← List.isSuffixOf_iff_suffix, apart]
  exact Bool.false_ne_true

theorem isHostText_suffix {environment : Environment} (builtIn : environment ∈ builtIn) :
    Identity.IsHostText environment.suffix := by
  have all : ∀ environment ∈ Environment.builtIn, Identity.IsHostText environment.suffix := by
    decide
  exact all environment builtIn

/-- A host of one built-in environment has no account under the suffix of another. -/
theorem accountOf?_eq_none {account : String} {home away : Environment}
    (hostAccount : Identity.IsHostText account) (homeBuiltIn : home ∈ builtIn)
    (awayBuiltIn : away ∈ builtIn) (different : home ≠ away) :
    Identity.accountOf? (account.toList ++ '.' :: home.suffix.toList) away.suffix.toList =
      none := by
  have hostHome := isHostText_suffix homeBuiltIn
  have asciiHost : ∀ c ∈ account.toList ++ '.' :: home.suffix.toList, c.val < 0x80 :=
    fun c member => (Identity.isHostChar_iff.mp
      (Identity.isHostChar_of_mem_host hostAccount hostHome c member)).1
  have asciiAway : ∀ c ∈ away.suffix.toList, c.val < 0x80 :=
    fun c member => (Identity.isHostChar_iff.mp (isHostText_suffix awayBuiltIn c member)).1
  cases found : Identity.accountOf? (account.toList ++ '.' :: home.suffix.toList)
      away.suffix.toList with
  | none => rfl
  | some rest =>
      obtain ⟨ending, whole, _, same⟩ :=
        (Identity.accountOf?_eq_some_iff asciiHost asciiAway).mp found
      -- Both suffixes end the host, so the shorter one of them ends the other.
      have homeEnds : ('.' :: home.suffix.toList).map Char.toLower <:+
          (account.toList ++ '.' :: home.suffix.toList).map Char.toLower :=
        (List.suffix_append _ _).map Char.toLower
      have awayEnds : ('.' :: away.suffix.toList).map Char.toLower <:+
          (account.toList ++ '.' :: home.suffix.toList).map Char.toLower := by
        rw [whole, List.map_append, List.map_cons, List.map_cons, same]
        exact List.suffix_append _ _
      rcases List.suffix_or_suffix_of_suffix homeEnds awayEnds with ends | ends
      · exact absurd ends (not_suffix_of_ne homeBuiltIn awayBuiltIn different)
      · exact absurd ends (not_suffix_of_ne awayBuiltIn homeBuiltIn (Ne.symm different))

end Environment

open Text

/-- What is written under one suffix is read under another if and only if the host ends in that one,
and then as what stands before it.  So an operation under an id of another built-in environment ends
with the host as foreign and sends nothing. -/
theorem ids_stay_within_environments {Handle τ σ : Type} [Timescale τ] {account container : String}
    (hostAccount : Identity.IsHostText account) (lawful : Naming.violations container = []) :
    (∀ suffix other, Identity.IsHostText suffix → Identity.IsHostText other → ∀ identity,
      Identity.decode (Identity.encode account container suffix) other = .ok identity ↔
        identity.container = container ∧ identity.account ≠ "" ∧
          ∃ ending : String, account ++ "." ++ suffix = identity.account ++ "." ++ ending ∧
            EqIgnoringCase ending.toList other.toList) ∧
    ∀ home away : Engine τ, home.environment ∈ Environment.builtIn →
      away.environment ∈ Environment.builtIn → home.environment ≠ away.environment →
      ∀ config : Config, config.account = account → config.name = container →
      ∀ command : Command, command.IsUnder (home.identify config) →
      ∀ (world : World (Gateway.interface Handle) τ σ) (state : σ),
        let run := (command.program away).run world state
        run.exchanges = [] ∧
          run.ending = .failed (.malformed (.foreignHost
            (account ++ "." ++ home.environment.suffix) (home.identify config)
            away.environment.suffix)) := by
  obtain ⟨filled, segment⟩ := Identity.isSegmentText_of_lawful lawful
  refine ⟨fun suffix other hostSuffix hostOther identity =>
    Identity.decode_encode_eq_ok_iff_ends hostAccount hostSuffix segment filled hostOther,
    fun home away homeBuiltIn awayBuiltIn different config => ?_⟩
  rintro rfl rfl command under world state
  refine Command.run_of_malformed away command world state under ?_
  rw [Engine.identify, Identity.decode_encode_eq hostAccount
    (Environment.isHostText_suffix homeBuiltIn) segment filled,
    Environment.accountOf?_eq_none hostAccount homeBuiltIn awayBuiltIn different]

/-- An account that looks like a host of the other environment, and a suffix that is the end of
another one. -/
theorem ids_stay_within_environments_nested :
    let home : Engine Rat := ⟨Environment.publicCloud, ⟨120, 1, 10⟩, 0⟩
    let away : Engine Rat := ⟨⟨"china", "core.chinacloudapi.cn"⟩, ⟨120, 1, 10⟩, 0⟩
    let account := "A.core.chinacloudapi.cn"
    let config : Config := ⟨"logs", "rg", account, "private", by decide, by decide⟩
    Identity.IsHostText account ∧ Naming.violations "logs" = [] ∧
      Identity.decode (Identity.encode account "logs" "core.windows.net") "Windows.net" =
        .ok ⟨"A.core.chinacloudapi.cn.core", "logs"⟩ ∧
      ∀ service : Service Rat,
        (((Command.delete (home.identify config)).program away).run Service.world
          service).exchanges = [] := by
  intro home away account config
  have hostAccount : Identity.IsHostText account := by decide
  have lawful : Naming.violations "logs" = [] := by decide
  obtain ⟨codec, foreign⟩ :=
    @ids_stay_within_environments String Rat (Service Rat) _ account "logs" hostAccount lawful
  refine ⟨hostAccount, lawful, ?_, fun service => ?_⟩
  · exact (codec "core.windows.net" "Windows.net" (by decide) (by decide) _).mpr
      ⟨rfl, by decide, "windows.net", by decide, by decide⟩
  · exact (foreign home away (by decide) (by decide) (by decide) config rfl rfl (.delete _) rfl
      Service.world service).1

end Stowage
