import Stowage.Engine
import Stowage.Proofs.Discipline

/-! # Operations that only ask

Reading, probing and adopting a container send no request that changes anything, and each can end
in few ways.
-/

namespace Stowage.Engine

open Program

variable {Handle τ α : Type} {request : Gateway.Request Handle}
  {allowed : List (Exchange (Gateway.interface Handle) τ) → Gateway.Request Handle → Prop}
  {past : List (Exchange (Gateway.interface Handle) τ)}

theorem obeys_ask {post : Postcondition (Gateway.interface Handle) τ (Failure τ) α}
    {next : Gateway.Reply request → Operation Handle τ α} :
    (ask request >>= next).Obeys allowed post past ↔
      allowed past request ∧
      (∀ text time, post (past ++ [⟨request, .error text, time⟩]) (.raised text)) ∧
      ∀ reply time, (next reply).Obeys allowed post (past ++ [⟨request, .ok reply, time⟩]) :=
  Iff.rfl

theorem decode_of_error (engine : Engine τ) {uri : String} {fault : Identity.Malformed}
    (malformed : Identity.decode uri engine.environment.suffix = .error fault) :
    (engine.decode uri : Operation Handle τ Identity) = .fail (.malformed fault) := by
  simp only [decode, malformed]

theorem decode_of_ok (engine : Engine τ) {uri : String} {identity : Identity}
    (decoded : Identity.decode uri engine.environment.suffix = .ok identity) :
    (engine.decode uri : Operation Handle τ Identity) =
      .note (.decoded uri identity.account identity.container) (.done identity) := by
  simp only [decode, decoded]
  rfl

theorem decode_obeys {post : Postcondition (Gateway.interface Handle) τ (Failure τ) Identity}
    (engine : Engine τ) (uri : String)
    (malformed : ∀ fault, Identity.decode uri engine.environment.suffix = .error fault →
      post past (.failed (.malformed fault)))
    (decoded : ∀ identity, Identity.decode uri engine.environment.suffix = .ok identity →
      post past (.returned identity)) :
    (engine.decode uri).Obeys allowed post past := by
  unfold decode
  cases read : Identity.decode uri engine.environment.suffix with
  | error fault => exact malformed fault read
  | ok identity => exact decoded identity read

/-- A group was found for the account, and the account was then confirmed in it. -/
def Located (account : String) (handle : Handle)
    (past : List (Exchange (Gateway.interface Handle) τ)) : Prop :=
  ∃ group asked resolved, List.Sublist
    [⟨.resolveGroup account, .ok (some group), asked⟩,
      ⟨.resolveAccount group account, .ok (handle, true), resolved⟩] past

/-- The requests that ask about a container: its group is asked for, its account is looked up in the
group that was found, and the container under the handle of the account. -/
inductive Inquiry (identity : Identity) (past : List (Exchange (Gateway.interface Handle) τ)) :
    Gateway.Request Handle → Prop where
  | group : Inquiry identity past (.resolveGroup identity.account)
  | account {group : String} {asked : τ}
      (found : ⟨.resolveGroup identity.account, .ok (some group), asked⟩ ∈ past) :
      Inquiry identity past (.resolveAccount group identity.account)
  | list {handle : Handle} (located : Located identity.account handle past) :
      Inquiry identity past (.list handle identity.container)
  | probe {handle : Handle} (located : Located identity.account handle past) :
      Inquiry identity past (.probe handle identity.container)

theorem Inquiry.changes_eq_false {identity : Identity} (inquiry : Inquiry identity past request) :
    request.changes = false := by
  cases inquiry <;> rfl

/-- Looking up an account yields a handle only when the account was confirmed under it. -/
theorem resolve_obeys
    {post : Postcondition (Gateway.interface Handle) τ (Failure τ) (Option Handle)}
    (identity : Identity)
    (inquiries : ∀ past request, Inquiry identity past request → allowed past request)
    (gone : ∀ added, post (past ++ added) (.returned none))
    (found : ∀ handle added, Located identity.account handle (past ++ added) →
      post (past ++ added) (.returned (some handle)))
    (raised : ∀ added text, post (past ++ added) (.raised text)) :
    (resolve identity).Obeys allowed post past := by
  refine obeys_ask.mpr ⟨inquiries _ _ .group, fun text time => raised _ text, fun group asked => ?_⟩
  cases group with
  | none => exact gone _
  | some group =>
      have owned : ⟨.resolveGroup identity.account, .ok (some group), asked⟩ ∈ past ++ [_] :=
        List.mem_append_right past List.mem_cons_self
      refine obeys_ask.mpr ⟨inquiries _ _ (.account owned), fun text time => ?_,
        fun reply resolved => ?_⟩
      · rw [List.append_assoc]
        exact raised _ text
      · obtain ⟨handle, present⟩ := reply
        rw [List.append_assoc]
        cases present with
        | false => exact gone _
        | true => exact found handle _ ⟨group, asked, resolved, List.sublist_append_right past _⟩

/-- The exchanges with which an account is looked up, and how that ends. -/
inductive Resolution (account : String) :
    List (Exchange (Gateway.interface Handle) τ) → Ending (Failure τ) (Option Handle) → Prop where
  | groupRaised (text : String) (asked : τ) :
      Resolution account [⟨.resolveGroup account, .error text, asked⟩] (.raised text)
  | groupGone (asked : τ) :
      Resolution account [⟨.resolveGroup account, .ok none, asked⟩] (.returned none)
  | accountRaised (group text : String) (asked resolved : τ) :
      Resolution account
        [⟨.resolveGroup account, .ok (some group), asked⟩,
          ⟨.resolveAccount group account, .error text, resolved⟩] (.raised text)
  | accountGone (group : String) (handle : Handle) (asked resolved : τ) :
      Resolution account
        [⟨.resolveGroup account, .ok (some group), asked⟩,
          ⟨.resolveAccount group account, .ok (handle, false), resolved⟩] (.returned none)
  | found (group : String) (handle : Handle) (asked resolved : τ) :
      Resolution account
        [⟨.resolveGroup account, .ok (some group), asked⟩,
          ⟨.resolveAccount group account, .ok (handle, true), resolved⟩] (.returned (some handle))

namespace Resolution

variable {account : String} {lookup : List (Exchange (Gateway.interface Handle) τ)}

/-- A lookup asks for the group of the account and then for the account. -/
theorem request_cases {ending : Ending (Failure τ) (Option Handle)}
    (looked : Resolution account lookup ending) {exchange} (member : exchange ∈ lookup) :
    exchange.request = .resolveGroup account ∨
      ∃ group, exchange.request = .resolveAccount group account := by
  cases looked with
  | groupRaised => cases List.mem_singleton.mp member; exact .inl rfl
  | groupGone => cases List.mem_singleton.mp member; exact .inl rfl
  | _ =>
      rcases List.mem_cons.mp member with rfl | member
      · exact .inl rfl
      · cases List.mem_singleton.mp member
        exact .inr ⟨_, rfl⟩

theorem queries {ending : Ending (Failure τ) (Option Handle)}
    (looked : Resolution account lookup ending) :
    ∀ exchange ∈ lookup, exchange.request.changes = false := by
  intro exchange member
  rcases looked.request_cases member with asked | ⟨group, asked⟩ <;> rw [asked] <;> rfl

/-- The account is confirmed if and only if a handle is found. -/
theorem confirmed_iff {found : Option Handle}
    (looked : Resolution account lookup (.returned found)) {handle : Handle} :
    (∃ group time, ⟨.resolveAccount group account, .ok (handle, true), time⟩ ∈ lookup) ↔
      found = some handle := by
  constructor
  · rintro ⟨group, time, member⟩
    cases looked with
    | groupGone => cases List.mem_singleton.mp member
    | accountGone =>
        rcases List.mem_cons.mp member with asked | member
        · cases asked
        · cases List.mem_singleton.mp member
    | found =>
        rcases List.mem_cons.mp member with asked | member
        · cases asked
        · cases List.mem_singleton.mp member
          rfl
  · rintro rfl
    cases looked with
    | found group handle asked resolved =>
        exact ⟨group, resolved, List.mem_cons_of_mem _ List.mem_cons_self⟩

end Resolution

theorem resolve_ways (identity : Identity) :
    (resolve identity : Operation Handle τ (Option Handle)).Obeys (fun _ _ => True)
      (Resolution identity.account) [] := by
  refine obeys_ask.mpr ⟨trivial, fun text asked => .groupRaised text asked, fun group asked => ?_⟩
  cases group with
  | none => exact .groupGone asked
  | some group =>
      refine obeys_ask.mpr ⟨trivial, fun text resolved => .accountRaised group text asked resolved,
        fun (handle, present) resolved => ?_⟩
      cases present with
      | false => exact .accountGone group handle asked resolved
      | true => exact .found group handle asked resolved

section Reading

variable (engine : Engine τ) (uri : String)

/-- The ways a reading can end. -/
inductive ReadingEnds : Ending (Failure τ) Outcome → Prop where
  | malformed (fault : Identity.Malformed)
      (unread : Identity.decode uri engine.environment.suffix = .error fault) :
      ReadingEnds (.failed (.malformed fault))
  | removed : ReadingEnds (.returned .removed)
  | managed (identity : Identity) (properties : Document.Fields)
      (decoded : Identity.decode uri engine.environment.suffix = .ok identity) :
      ReadingEnds (.returned (.managed uri identity properties))
  | refused (container account reason : String) :
      ReadingEnds (.failed (.remote (.ofListing container account reason)))
  | raised (text : String) : ReadingEnds (.raised text)

end Reading

namespace ReadingEnds

variable {engine : Engine τ} {uri : String} {ending : Ending (Failure τ) Outcome}
  (ends : ReadingEnds engine uri ending)

include ends

theorem ne_unfinished : ending ≠ .unfinished := by
  cases ends <;> nofun

theorem ne_accountMissing (account : String) : ending ≠ .failed (.accountMissing account) := by
  cases ends <;> nofun

/-- The failures of a reading belong to no phase of a creation. -/
theorem stage_eq {failure : RemoteFailure τ} (failed : ending = .failed (.remote failure)) :
    failure.stage = .other := by
  cases ends <;> cases failed
  rfl

end ReadingEnds

variable (engine : Engine τ) (uri : String)
  (inquiries : ∀ identity past request,
    Identity.decode uri engine.environment.suffix = .ok identity →
    Inquiry identity past request → allowed past request)

section

include inquiries

theorem read_obeys {post : Postcondition (Gateway.interface Handle) τ (Failure τ) Outcome}
    (ends : ∀ past ending, ReadingEnds engine uri ending → post past ending) :
    (engine.read uri).Obeys allowed post past := by
  refine (obeys_bind post _ _).mpr (decode_obeys engine uri
    (fun fault unread => ends _ _ (.malformed fault unread)) fun identity decoded => ?_)
  refine (obeys_bind post _ _).mpr (resolve_obeys identity
    (fun past request => inquiries identity past request decoded) (fun added => ends _ _ .removed)
    (fun handle added located => ?_) fun added text => ends _ _ (.raised text))
  refine obeys_ask.mpr ⟨inquiries _ _ _ decoded (.list located),
    fun text time => ends _ _ (.raised text), fun listing time => ?_⟩
  cases listing with
  | error reason => exact ends _ _ (.refused _ _ reason)
  | ok listing =>
      dsimp only
      cases listing.find? fun entry => entry.name == identity.container with
      | none => exact ends _ _ .removed
      | some entry => exact ends _ _ (.managed identity _ decoded)

theorem probe_obeys {post : Postcondition (Gateway.interface Handle) τ (Failure τ) Bool}
    (ends : ∀ past ending, post past ending) :
    (engine.probe uri).Obeys allowed post past := by
  refine (obeys_bind post _ _).mpr (decode_obeys engine uri
    (fun fault _ => ends _ _) fun identity decoded => ?_)
  refine (obeys_bind post _ _).mpr (resolve_obeys identity
    (fun past request => inquiries identity past request decoded) (fun added => ends _ _)
    (fun handle added located => ?_) fun added text => ends _ _)
  refine obeys_ask.mpr ⟨inquiries _ _ _ decoded (.probe located), fun text time => ends _ _,
    fun found time => ?_⟩
  rcases found with reason | _ | _ <;> exact ends _ _

theorem adopt_obeys {post : Postcondition (Gateway.interface Handle) τ (Failure τ) Outcome}
    (ends : ∀ past ending, post past ending) :
    (engine.adopt uri).Obeys allowed post past := by
  refine (obeys_bind post _ _).mpr (read_obeys engine uri inquiries fun past ending reading => ?_)
  cases reading <;> exact ends _ _

end

theorem run_read_ends {σ : Type} (world : World (Gateway.interface Handle) τ σ) (state : σ) :
    ReadingEnds engine uri ((engine.read uri).run world state).ending := by
  have obeys : (engine.read uri).Obeys (fun _ (_ : Gateway.Request Handle) => True)
      (fun _ ending => ReadingEnds engine uri ending) [] :=
    read_obeys engine uri (fun _ _ _ _ _ => trivial) fun _ _ ends => ends
  exact (Program.run_of_obeys obeys world state).1

end Stowage.Engine
