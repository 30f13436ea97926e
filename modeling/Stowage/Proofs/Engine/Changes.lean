import Stowage.Proofs.Engine.Creation

/-! # Changes and what precedes them

A container is created or deleted only under a handle with which its account was confirmed before,
in the course of the same operation.
-/

namespace Stowage.Engine

open Program

variable {Handle τ : Type}

/-- The account was confirmed in the group, under the handle. -/
def Confirmed (group account : String) (handle : Handle)
    (past : List (Exchange (Gateway.interface Handle) τ)) : Prop :=
  ∃ time, ⟨.resolveAccount group account, .ok (handle, true), time⟩ ∈ past

/-- The changes that a configuration asks for. -/
inductive DeclaredChange (config : Config) (past : List (Exchange (Gateway.interface Handle) τ)) :
    Gateway.Request Handle → Prop where
  | create {handle : Handle} (confirmed : Confirmed config.group config.account handle past) :
      DeclaredChange config past (.createIfMissing handle config.name)
  | setPolicy {handle : Handle} (confirmed : Confirmed config.group config.account handle past) :
      DeclaredChange config past (.setPolicy handle config.name config.declaredHeader)

/-- The change that the id of a container to be deleted asks for. -/
inductive IdentifiedChange (identity : Identity)
    (past : List (Exchange (Gateway.interface Handle) τ)) : Gateway.Request Handle → Prop where
  | delete {handle : Handle} (located : Located identity.account handle past) :
      IdentifiedChange identity past (.deleteIfPresent handle identity.container)

theorem Confirmed.later {group account : String} {handle : Handle}
    {past : List (Exchange (Gateway.interface Handle) τ)}
    (confirmed : Confirmed group account handle past)
    (added : List (Exchange (Gateway.interface Handle) τ)) :
    Confirmed group account handle (past ++ added) := by
  obtain ⟨time, member⟩ := confirmed
  exact ⟨time, List.mem_append_left added member⟩

/-- A replacement under an id that cannot be read is announced, and nothing else. -/
theorem replace_of_error [Timescale τ] (engine : Engine τ) {uri : String}
    {fault : Identity.Malformed} (config : Config)
    (unread : Identity.decode uri engine.environment.suffix = .error fault) :
    (engine.replace uri config : Operation Handle τ Outcome) =
      .note (.replacing uri (engine.identify config)) (.fail (.malformed fault)) := by
  rw [replace, delete, engine.decode_of_error unread]
  rfl

variable {allowed : List (Exchange (Gateway.interface Handle) τ) → Gateway.Request Handle → Prop}
  {past : List (Exchange (Gateway.interface Handle) τ)} (engine : Engine τ)

theorem delete_obeys {post : Postcondition (Gateway.interface Handle) τ (Failure τ) Unit}
    (uri : String)
    (inquiries : ∀ identity past request,
      Identity.decode uri engine.environment.suffix = .ok identity →
      Inquiry identity past request → allowed past request)
    (changes : ∀ identity past request,
      Identity.decode uri engine.environment.suffix = .ok identity →
      IdentifiedChange identity past request → allowed past request)
    (ends : ∀ past ending, post past ending) :
    (engine.delete uri).Obeys allowed post past := by
  refine (obeys_bind post _ _).mpr (decode_obeys engine uri
    (fun fault _ => ends _ _) fun identity decoded => ?_)
  refine (obeys_bind post _ _).mpr (resolve_obeys identity
    (fun past request => inquiries identity past request decoded) (fun added => ends _ _)
    (fun handle added located => ?_) fun added text => ends _ _)
  refine obeys_ask.mpr ⟨changes _ _ _ decoded (.delete located), fun text time => ends _ _,
    fun reply time => ?_⟩
  cases reply <;> exact ends _ _

section Repetition

variable [Timescale τ]
  {post : Postcondition (Gateway.interface Handle) τ (Failure τ) (Attempted τ)}
  (schedule : Schedule τ) (description : String) (deadline : τ) {handle : Handle} {name : String}

theorem attemptThen_obeys (number : Nat) {again : Operation Handle τ (Attempted τ)}
    (permitted : allowed past (.createIfMissing handle name))
    (ends : ∀ added ending, post (past ++ added) ending)
    (repeated : ∀ added, again.Obeys allowed post (past ++ added)) :
    (Retry.attemptThen schedule description deadline (ask (.createIfMissing handle name)) number
      again).Obeys allowed post past := by
  refine obeys_ask.mpr ⟨permitted, fun text time => ends _ _, fun reply time => ?_⟩
  cases reply with
  | ok => exact ends _ _
  | fatal reason => exact ends _ _
  | transient reason =>
      refine obeys_now.mpr fun now => ?_
      cases Timescale.le deadline now with
      | true => exact obeys_report.mpr (ends _ _)
      | false => exact obeys_report.mpr (obeys_wait.mpr (repeated _))

theorem attempts_obeys (limit number : Nat)
    (permitted : ∀ added, allowed (past ++ added) (.createIfMissing handle name))
    (ends : ∀ added ending, post (past ++ added) ending) :
    (Retry.attempts schedule description deadline (ask (.createIfMissing handle name)) limit
      number).Obeys allowed post past := by
  have permittedNow : allowed past (.createIfMissing handle name) := by
    simpa using permitted []
  induction limit generalizing number past with
  | zero =>
      exact attemptThen_obeys schedule description deadline number permittedNow ends
        fun added => ends _ _
  | succ limit ih =>
      refine attemptThen_obeys schedule description deadline number permittedNow ends
        fun added => ?_
      refine ih _ (fun later => ?_) (fun later ending => ?_) (permitted added)
      · rw [List.append_assoc]
        exact permitted _
      · rw [List.append_assoc]
        exact ends _ _

end Repetition

variable (config : Config) {post : Postcondition (Gateway.interface Handle) τ (Failure τ) Outcome}
  (queries : ∀ past request, request.changes = false → allowed past request)
  (changes : ∀ past request, DeclaredChange config past request → allowed past request)
  (ends : ∀ past ending, post past ending)

include queries changes ends

theorem settle_obeys {handle : Handle}
    (confirmed : Confirmed config.group config.account handle past) :
    (engine.settle config handle).Obeys allowed post past := by
  unfold settle
  -- The id is generalized because unfolding the reading would otherwise decode it.
  generalize engine.identify config = uri
  have reading (past) : (engine.read uri).Obeys allowed post past :=
    read_obeys engine uri (fun _ _ _ _ inquiry => queries _ _ inquiry.changes_eq_false)
      fun past ending _ => ends past ending
  refine obeys_report.mpr (obeys_ask.mpr ⟨?_, fun text time => ends _ _, fun reply time => ?_⟩)
  · rw [config.access_header]
    exact changes _ _ (.setPolicy confirmed)
  cases reply with
  | fatal reason => exact ends _ _
  | ok => exact reading _
  | transient reason => exact reading _

variable [Timescale τ]

theorem createUnder_obeys {handle : Handle}
    (confirmed : Confirmed config.group config.account handle past) :
    (engine.createUnder config handle).Obeys allowed post past := by
  unfold createUnder
  refine obeys_report.mpr ((obeys_bind post _ _).mpr (obeys_now.mpr fun start =>
    attempts_obeys _ _ _ _ _ (fun added => ?_) fun added ending => ?_))
  · exact changes _ _ (.create (confirmed.later added))
  · cases ending with
    | failed failure => exact ends _ _
    | raised text => exact ends _ _
    | unfinished => exact ends _ _
    | returned attempted =>
        cases attempted with
        | ok => exact settle_obeys engine config queries changes ends (confirmed.later added)
        | fatal reason => exact ends _ _
        | timedOut timeout attempts reason => exact ends _ _

theorem create_obeys : (engine.create config).Obeys allowed post past := by
  unfold create
  refine obeys_ask.mpr ⟨queries _ _ rfl, fun text time => ends _ _, fun reply time => ?_⟩
  obtain ⟨handle, present⟩ := reply
  cases present with
  | false => exact ends _ _
  | true =>
      refine createUnder_obeys engine config queries changes ends ⟨time, ?_⟩
      exact List.mem_append_right past List.mem_cons_self

omit changes

theorem createFrom_obeys (document : Document)
    (changes : ∀ config past request, Config.ofDocument document = .ok config →
      DeclaredChange config past request → allowed past request) :
    (engine.createFrom document).Obeys allowed post past := by
  cases accepted : Config.ofDocument document with
  | error rejection =>
      rw [engine.createFrom_of_error accepted]
      exact obeys_ofLogged_error.mpr (ends _ _)
  | ok config =>
      rw [engine.createFrom_of_ok accepted]
      exact create_obeys engine config queries
        (fun past request => changes config past request accepted) ends

theorem replace_obeys (uri : String)
    (deletions : ∀ identity past request,
      Identity.decode uri engine.environment.suffix = .ok identity →
      IdentifiedChange identity past request → allowed past request)
    (changes : ∀ past request, DeclaredChange config past request → allowed past request) :
    (engine.replace uri config).Obeys allowed post past := by
  unfold replace
  refine obeys_report.mpr ((obeys_bind post _ _).mpr (delete_obeys engine uri
    (fun _ _ _ _ inquiry => queries _ _ inquiry.changes_eq_false) deletions
    fun past ending => ?_))
  cases ending with
  | returned value => exact create_obeys engine config queries changes ends
  | failed failure => exact ends _ _
  | raised text => exact ends _ _
  | unfinished => exact ends _ _

theorem replaceFrom_obeys (uri : String) (document : Document)
    (deletions : ∀ identity past request,
      Identity.decode uri engine.environment.suffix = .ok identity →
      IdentifiedChange identity past request → allowed past request)
    (changes : ∀ config past request, Config.ofDocument document = .ok config →
      DeclaredChange config past request → allowed past request) :
    (engine.replaceFrom uri document).Obeys allowed post past := by
  cases accepted : Config.ofDocument document with
  | error rejection =>
      rw [engine.replaceFrom_of_error accepted]
      exact obeys_ofLogged_error.mpr (ends _ _)
  | ok config =>
      rw [engine.replaceFrom_of_ok accepted]
      exact replace_obeys engine config queries ends uri deletions
        fun past request => changes config past request accepted

end Stowage.Engine
