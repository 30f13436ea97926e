import Mathlib.Data.List.Perm.Basic
import Stowage.Proofs.Engine.Queries
import Stowage.Proofs.Identity.RoundTrip

/-! # What is read under an id

A reading looks up the account of the container, lists the containers whose names begin like its
name, and goes by the first entry of exactly that name.  `Reading` lists the ways in which it can
go, and `run_read` shows that there are no others.  The other entries of a listing have no say
(`AlikeFor.find?_eq`).
-/

namespace Stowage

namespace Properties

/-- Listings that differ only in what has no say about a name: entries of other names are put in or
taken out anywhere, and neighbouring entries with pairwise different names change places. -/
inductive AlikeFor (name : String) : List Properties → List Properties → Prop where
  | inserted (before after : List Properties) {entry : Properties} (other : entry.name ≠ name) :
      AlikeFor name (before ++ after) (before ++ entry :: after)
  | removed (before after : List Properties) {entry : Properties} (other : entry.name ≠ name) :
      AlikeFor name (before ++ entry :: after) (before ++ after)
  | permuted (before after : List Properties) {entries moved : List Properties}
      (permutation : entries.Perm moved)
      (distinct : entries.Pairwise fun entry other => entry.name ≠ other.name) :
      AlikeFor name (before ++ (entries ++ after)) (before ++ (moved ++ after))
  | trans {first second third : List Properties} (left : AlikeFor name first second)
      (right : AlikeFor name second third) : AlikeFor name first third

variable {name : String} {first second entries moved before after : List Properties}
  {entry : Properties}

theorem find?_of_perm (permutation : entries.Perm moved)
    (distinct : entries.Pairwise fun entry other => entry.name ≠ other.name) :
    (entries.find? fun entry => entry.name == name) =
      moved.find? fun entry => entry.name == name := by
  induction permutation with
  | nil => rfl
  | cons entry _ ih => simp only [List.find?_cons, ih (List.pairwise_cons.mp distinct).2]
  | swap entry other rest =>
      have differ : other.name ≠ entry.name :=
        (List.pairwise_cons.mp distinct).1 entry List.mem_cons_self
      by_cases same : other.name = name
      · have apart : ¬entry.name = name := fun equal => differ (same.trans equal.symm)
        simp [same, apart]
      · simp [List.find?_cons, same]
  | trans left _ ihLeft ihRight =>
      exact (ihLeft distinct).trans (ihRight (distinct.perm left Ne.symm))

/-- Alike listings have the same first entry of the name, or both have none. -/
theorem AlikeFor.find?_eq (alike : AlikeFor name first second) :
    (first.find? fun entry => entry.name == name) =
      second.find? fun entry => entry.name == name := by
  induction alike with
  | inserted before after other => simp [List.find?_append, other]
  | removed before after other => simp [List.find?_append, other]
  | permuted before after permutation distinct =>
      simp only [List.find?_append, find?_of_perm permutation distinct]
  | trans _ _ ihLeft ihRight => exact ihLeft.trans ihRight

theorem find?_split (named : entry.name = name) (earlier : ∀ other ∈ before, other.name ≠ name) :
    ((before ++ entry :: after).find? fun entry => entry.name == name) = some entry := by
  have none : (before.find? fun entry => entry.name == name) = none := by
    simpa using earlier
  simp [List.find?_append, none, named]

end Properties

namespace Outcome

/-- What a listing shows of the container under an id. -/
def ofListing (uri : String) (identity : Identity) (listing : List Properties) : Outcome :=
  match listing.find? fun entry => entry.name == identity.container with
  | some entry => .managed uri identity entry.project
  | none => .removed

/-- An outcome that follows from the entries of exactly one name in a listing. -/
structure IsShownBy (uri : String) (identity : Identity) (listing : List Properties)
    (outcome : Outcome) : Prop where
  managed_iff : outcome.isManaged = true ↔ ∃ entry ∈ listing, entry.name = identity.container
  /-- The first entry of the name decides, and its properties are passed on as they are. -/
  managed {before after : List Properties} {entry : Properties}
    (split : listing = before ++ entry :: after) (named : entry.name = identity.container)
    (earlier : ∀ other ∈ before, other.name ≠ identity.container) :
    outcome.uri? = some uri ∧ outcome.identity? = some identity ∧
      outcome.properties = [
        ("last_modified", entry.lastModified), ("lease_status", entry.leaseStatus),
        ("lease_state", entry.leaseState), ("lease_duration", entry.leaseDuration)]
  removed (absent : ∀ entry ∈ listing, entry.name ≠ identity.container) :
    outcome.uri? = none ∧ outcome.identity? = none ∧ outcome.properties = []

theorem ofListing_isShownBy (uri : String) (identity : Identity) (listing : List Properties) :
    (ofListing uri identity listing).IsShownBy uri identity listing where
  managed_iff := by
    have found : (listing.find? fun entry => entry.name == identity.container).isSome = true ↔
        ∃ entry ∈ listing, entry.name = identity.container := by
      simp only [List.find?_isSome, beq_iff_eq]
    rw [← found, ofListing]
    cases listing.find? fun entry => entry.name == identity.container <;> simp [isManaged]
  managed split named earlier := by
    rw [split, ofListing, Properties.find?_split named earlier]
    exact ⟨rfl, rfl, rfl⟩
  removed absent := by
    have none : (listing.find? fun entry => entry.name == identity.container) = none := by
      simpa using absent
    rw [ofListing, none]
    exact ⟨rfl, rfl, rfl⟩

theorem ofListing_eq_of_alike {uri : String} {identity : Identity}
    {first second : List Properties} (alike : Properties.AlikeFor identity.container first second) :
    ofListing uri identity first = ofListing uri identity second := by
  rw [ofListing, ofListing, alike.find?_eq]

end Outcome

namespace Engine

open Program

variable {Handle τ σ : Type}

/-- How a reading ends once the containers were asked for. -/
def conclusion (uri : String) (identity : Identity) :
    Except String (List Properties) → Ending (Failure τ) Outcome
  | .error reason => .failed (.remote (.ofListing identity.container identity.account reason))
  | .ok listing => .returned (.ofListing uri identity listing)

/-- The exchanges of a reading, and how it ends. -/
inductive Reading (engine : Engine τ) (uri : String) :
    List (Exchange (Gateway.interface Handle) τ) → Ending (Failure τ) Outcome → Prop where
  | malformed (fault : Identity.Malformed)
      (unread : Identity.decode uri engine.environment.suffix = .error fault) :
      Reading engine uri [] (.failed (.malformed fault))
  | unresolved {identity : Identity} {lookup : List (Exchange (Gateway.interface Handle) τ)}
      {text : String} (decoded : Identity.decode uri engine.environment.suffix = .ok identity)
      (looked : Resolution identity.account lookup (.raised text : Ending _ (Option Handle))) :
      Reading engine uri lookup (.raised text)
  | gone {identity : Identity} {lookup : List (Exchange (Gateway.interface Handle) τ)}
      (decoded : Identity.decode uri engine.environment.suffix = .ok identity)
      (looked : Resolution identity.account lookup (.returned none)) :
      Reading engine uri lookup (.returned .removed)
  | raised {identity : Identity} {lookup : List (Exchange (Gateway.interface Handle) τ)}
      {handle : Handle} (decoded : Identity.decode uri engine.environment.suffix = .ok identity)
      (looked : Resolution identity.account lookup (.returned (some handle))) (text : String)
      (time : τ) :
      Reading engine uri (lookup ++ [⟨.list handle identity.container, .error text, time⟩])
        (.raised text)
  | listed {identity : Identity} {lookup : List (Exchange (Gateway.interface Handle) τ)}
      {handle : Handle} (decoded : Identity.decode uri engine.environment.suffix = .ok identity)
      (looked : Resolution identity.account lookup (.returned (some handle)))
      (reply : Except String (List Properties)) (time : τ) :
      Reading engine uri (lookup ++ [⟨.list handle identity.container, .ok reply, time⟩])
        (conclusion uri identity reply)

theorem read_ways (engine : Engine τ) (uri : String) :
    (engine.read uri : Operation Handle τ Outcome).Obeys (fun _ _ => True) (Reading engine uri)
      [] := by
  refine (obeys_bind _ _ _).mpr (decode_obeys engine uri (fun fault unread => .malformed fault unread)
    fun identity decoded => ?_)
  refine (obeys_bind _ _ _).mpr ((resolve_ways identity).weaken fun lookup ending looked => ?_)
  rcases ending with found | failure | text | _
  · cases found with
    | none => exact .gone decoded looked
    | some handle =>
        unfold thenObeys
        refine obeys_ask.mpr ⟨trivial, fun text time => ?_, fun reply time => ?_⟩
        · exact .raised decoded looked text time
        cases reply with
        | error reason => exact .listed decoded looked (.error reason) time
        | ok listing =>
            have listed := Reading.listed decoded looked (.ok listing) time
            rw [conclusion, Outcome.ofListing] at listed
            dsimp only
            cases found : listing.find? fun entry => entry.name == identity.container with
            | none => rw [found] at listed; exact listed
            | some entry => rw [found] at listed; exact listed
  · cases looked
  · exact .unresolved decoded looked
  · cases looked

theorem run_read (engine : Engine τ) (uri : String) (world : World (Gateway.interface Handle) τ σ)
    (state : σ) :
    Reading engine uri ((engine.read uri).run world state).exchanges
      ((engine.read uri).run world state).ending := by
  have ways := (run_of_obeys (read_ways engine uri) world state).1
  rwa [List.nil_append] at ways

namespace Resolution

variable {account : String} {found : Ending (Failure τ) (Option Handle)}
  {lookup : List (Exchange (Gateway.interface Handle) τ)}
  {exchange last : Exchange (Gateway.interface Handle) τ} {handle : Handle} {beginning : String}

theorem ne_list (looked : Resolution account lookup found) (member : exchange ∈ lookup) :
    exchange.request ≠ .list handle beginning := by
  rcases looked.request_cases member with asked | ⟨group, asked⟩ <;> rw [asked] <;> nofun

/-- What asks for containers behind a lookup is no part of the lookup. -/
theorem eq_of_mem_append (looked : Resolution account lookup found)
    (member : exchange ∈ lookup ++ [last]) (request : exchange.request = .list handle beginning) :
    exchange = last := by
  rcases List.mem_append.mp member with asked | asked
  · exact absurd request (looked.ne_list asked)
  · exact List.mem_singleton.mp asked

end Resolution

/-- The exchanges of a reading to which all was replied: the group of the account is asked for, the
account is looked up in the group that is found, and its containers are asked for if the account is
confirmed. -/
inductive Asks (identity : Identity) : List (Exchange (Gateway.interface Handle) τ) → Prop where
  | groupGone (asked : τ) : Asks identity [⟨.resolveGroup identity.account, .ok none, asked⟩]
  | accountGone (group : String) (handle : Handle) (asked resolved : τ) :
      Asks identity
        [⟨.resolveGroup identity.account, .ok (some group), asked⟩,
          ⟨.resolveAccount group identity.account, .ok (handle, false), resolved⟩]
  | containers (group : String) (handle : Handle) (reply : Except String (List Properties))
      (asked resolved listed : τ) :
      Asks identity
        [⟨.resolveGroup identity.account, .ok (some group), asked⟩,
          ⟨.resolveAccount group identity.account, .ok (handle, true), resolved⟩,
          ⟨.list handle identity.container, .ok reply, listed⟩]

/-- What the exchanges of a reading are where all of them were replied to, and what they tell about
its end. -/
structure TellsExactMatch (uri : String) (identity : Identity)
    (exchanges : List (Exchange (Gateway.interface Handle) τ))
    (ending : Ending (Failure τ) Outcome) : Prop where
  asks : Asks identity exchanges
  /-- The containers are asked for by the name of the container, under the handle of its account,
  after a group was found and the account was confirmed in it. -/
  located {earlier later : List (Exchange (Gateway.interface Handle) τ)}
    {exchange : Exchange (Gateway.interface Handle) τ} {handle : Handle} {beginning : String}
    (split : exchanges = earlier ++ exchange :: later)
    (request : exchange.request = .list handle beginning) :
    beginning = identity.container ∧ Located identity.account handle earlier
  listed_iff (handle : Handle) :
    (∃ reply time, ⟨.list handle identity.container, .ok reply, time⟩ ∈ exchanges) ↔
      ∃ group time, ⟨.resolveAccount group identity.account, .ok (handle, true), time⟩ ∈ exchanges
  removed (unlisted : ∀ exchange ∈ exchanges, ∀ handle beginning,
      exchange.request ≠ .list handle beginning) : ending = .returned .removed
  shown {handle : Handle} {listing : List Properties} {time : τ}
    (listed : ⟨.list handle identity.container, .ok (.ok listing), time⟩ ∈ exchanges) :
    ∃ outcome, ending = .returned outcome ∧ outcome.IsShownBy uri identity listing
  failed_iff (failure : Failure τ) : ending = .failed failure ↔
    ∃ handle reason time,
      ⟨.list handle identity.container, .ok (.error reason), time⟩ ∈ exchanges ∧
        failure = .remote (.ofListing identity.container identity.account reason)

section Told

variable {engine : Engine τ} {uri : String} {identity : Identity}
  {exchanges : List (Exchange (Gateway.interface Handle) τ)} {ending : Ending (Failure τ) Outcome}
  (decoded : Identity.decode uri engine.environment.suffix = .ok identity)

include decoded

/-- The reply to the question for the containers decides how a reading ends. -/
theorem Reading.ending_eq (reading : Reading engine uri exchanges ending) {handle : Handle}
    {reply : Except String (List Properties)} {time : τ}
    (listed : ⟨.list handle identity.container, .ok reply, time⟩ ∈ exchanges) :
    ending = conclusion uri identity reply := by
  cases reading with
  | malformed => cases listed
  | unresolved _ looked => exact absurd rfl (looked.ne_list listed)
  | gone _ looked => exact absurd rfl (looked.ne_list listed)
  | raised read looked =>
      cases decoded.symm.trans read
      cases looked.eq_of_mem_append listed rfl
  | listed read looked =>
      cases decoded.symm.trans read
      cases looked.eq_of_mem_append listed rfl
      rfl

/-- A reading to which all was replied finds no account or asks for the containers. -/
theorem Reading.cases_of_answered (reading : Reading engine uri exchanges ending)
    (answered : ∀ text, ending ≠ .raised text) :
    (Resolution identity.account exchanges
        (.returned none : Ending (Failure τ) (Option Handle)) ∧ ending = .returned .removed) ∨
      ∃ lookup handle reply time,
        Resolution identity.account lookup
          (.returned (some handle) : Ending (Failure τ) (Option Handle)) ∧
        exchanges = lookup ++ [⟨.list handle identity.container, .ok reply, time⟩] ∧
        ending = conclusion uri identity reply := by
  cases reading with
  | malformed fault unread => cases decoded.symm.trans unread
  | unresolved => exact absurd rfl (answered _)
  | gone read looked =>
      cases decoded.symm.trans read
      exact .inl ⟨looked, rfl⟩
  | raised => exact absurd rfl (answered _)
  | listed read looked reply time =>
      cases decoded.symm.trans read
      exact .inr ⟨_, _, reply, time, looked, rfl, rfl⟩

theorem Reading.asks (reading : Reading engine uri exchanges ending)
    (answered : ∀ text, ending ≠ .raised text) : Asks identity exchanges := by
  rcases reading.cases_of_answered decoded answered with
    ⟨looked, _⟩ | ⟨lookup, handle, reply, time, looked, rfl, _⟩
  · cases looked with
    | groupGone asked => exact .groupGone asked
    | accountGone group handle asked resolved => exact .accountGone group handle asked resolved
  · cases looked with
    | found group handle asked resolved => exact .containers group handle reply asked resolved time

theorem Reading.listed_iff (reading : Reading engine uri exchanges ending)
    (answered : ∀ text, ending ≠ .raised text) (handle : Handle) :
    (∃ reply time, ⟨.list handle identity.container, .ok reply, time⟩ ∈ exchanges) ↔
      ∃ group time,
        ⟨.resolveAccount group identity.account, .ok (handle, true), time⟩ ∈ exchanges := by
  rcases reading.cases_of_answered decoded answered with
    ⟨looked, _⟩ | ⟨lookup, found, reply, time, looked, rfl, _⟩
  · constructor
    · rintro ⟨reply, time, listed⟩
      exact absurd rfl (looked.ne_list listed)
    · intro confirmed
      cases looked.confirmed_iff.mp confirmed
  · constructor
    · rintro ⟨reply, time, listed⟩
      cases looked.eq_of_mem_append listed rfl
      obtain ⟨group, asked, confirmed⟩ := looked.confirmed_iff.mpr rfl
      exact ⟨group, asked, List.mem_append_left _ confirmed⟩
    · rintro ⟨group, asked, confirmed⟩
      rcases List.mem_append.mp confirmed with confirmed | other
      · cases looked.confirmed_iff.mp ⟨group, asked, confirmed⟩
        exact ⟨reply, time, List.mem_append_right _ List.mem_cons_self⟩
      · cases List.mem_singleton.mp other

theorem Reading.removed_of_unlisted (reading : Reading engine uri exchanges ending)
    (answered : ∀ text, ending ≠ .raised text)
    (unlisted : ∀ exchange ∈ exchanges, ∀ handle beginning,
      exchange.request ≠ .list handle beginning) : ending = .returned .removed := by
  rcases reading.cases_of_answered decoded answered with
    ⟨_, removed⟩ | ⟨lookup, handle, reply, time, _, rfl, _⟩
  · exact removed
  · exact absurd rfl (unlisted _ (List.mem_append_right _ List.mem_cons_self) handle _)

theorem Reading.failed_iff (reading : Reading engine uri exchanges ending)
    (answered : ∀ text, ending ≠ .raised text) (failure : Failure τ) :
    ending = .failed failure ↔ ∃ handle reason time,
      ⟨.list handle identity.container, .ok (.error reason), time⟩ ∈ exchanges ∧
        failure = .remote (.ofListing identity.container identity.account reason) := by
  constructor
  · intro failed
    rcases reading.cases_of_answered decoded answered with
      ⟨_, removed⟩ | ⟨lookup, handle, reply, time, _, rfl, concluded⟩
    · cases removed.symm.trans failed
    · cases reply with
      | error reason =>
          cases concluded.symm.trans failed
          exact ⟨handle, reason, time, List.mem_append_right _ List.mem_cons_self, rfl⟩
      | ok listing => cases concluded.symm.trans failed
  · rintro ⟨handle, reason, time, listed, rfl⟩
    exact reading.ending_eq decoded listed

end Told

/-- A service on which every account belongs to a group and exists, and which shows one listing
whatever is asked for. -/
def showing (listing : List Properties) : World (Gateway.interface String) Nat Unit where
  now _ := 0
  pause _ state := state
  answer request state :=
    (.ok (match request with
      | .resolveGroup _ => some "rg"
      | .resolveAccount _ account => (account, true)
      | .createIfMissing _ _ => CallResult.ok
      | .setPolicy _ _ _ => CallResult.ok
      | .list _ _ => Except.ok listing
      | .probe _ _ => Except.ok true
      | .deleteIfPresent _ _ => CallResult.ok), state)

end Engine

end Stowage
