import Stowage.Proofs.Engine.Queries

/-! # The ways of a deletion

A deletion reads the id, looks up the account of the container and asks for the deletion where it
found one.  `Deletion` lists the ways in which it can go, and `run_delete` shows that there are no
others.
-/

namespace Stowage.Engine

open Program

variable {Handle τ σ : Type}

/-- The exchanges of a deletion, and how it ends. -/
inductive Deletion (engine : Engine τ) (uri : String) :
    List (Exchange (Gateway.interface Handle) τ) → Ending (Failure τ) Unit → Prop where
  | malformed (fault : Identity.Malformed)
      (unread : Identity.decode uri engine.environment.suffix = .error fault) :
      Deletion engine uri [] (.failed (.malformed fault))
  | unresolved {identity : Identity} {lookup : List (Exchange (Gateway.interface Handle) τ)}
      {text : String} (decoded : Identity.decode uri engine.environment.suffix = .ok identity)
      (looked : Resolution identity.account lookup (.raised text : Ending _ (Option Handle))) :
      Deletion engine uri lookup (.raised text)
  | gone {identity : Identity} {lookup : List (Exchange (Gateway.interface Handle) τ)}
      (decoded : Identity.decode uri engine.environment.suffix = .ok identity)
      (looked : Resolution identity.account lookup (.returned none)) :
      Deletion engine uri lookup (.returned ())
  | raised {identity : Identity} {lookup : List (Exchange (Gateway.interface Handle) τ)}
      {handle : Handle} (decoded : Identity.decode uri engine.environment.suffix = .ok identity)
      (looked : Resolution identity.account lookup (.returned (some handle))) (text : String)
      (time : τ) :
      Deletion engine uri
        (lookup ++ [⟨.deleteIfPresent handle identity.container, .error text, time⟩])
        (.raised text)
  | refused {identity : Identity} {lookup : List (Exchange (Gateway.interface Handle) τ)}
      {handle : Handle} (decoded : Identity.decode uri engine.environment.suffix = .ok identity)
      (looked : Resolution identity.account lookup (.returned (some handle))) (reason : String)
      (time : τ) :
      Deletion engine uri
        (lookup ++ [⟨.deleteIfPresent handle identity.container, .ok (.fatal reason), time⟩])
        (.failed (.remote (.ofDelete identity.container identity.account reason)))
  | settled {identity : Identity} {lookup : List (Exchange (Gateway.interface Handle) τ)}
      {handle : Handle} (decoded : Identity.decode uri engine.environment.suffix = .ok identity)
      (looked : Resolution identity.account lookup (.returned (some handle)))
      (reply : CallResult) (time : τ) (kept : ∀ reason, reply ≠ .fatal reason) :
      Deletion engine uri
        (lookup ++ [⟨.deleteIfPresent handle identity.container, .ok reply, time⟩])
        (.returned ())

theorem delete_ways (engine : Engine τ) (uri : String) :
    (engine.delete uri : Operation Handle τ Unit).Obeys (fun _ _ => True) (Deletion engine uri)
      [] := by
  refine (obeys_bind _ _ _).mpr (decode_obeys engine uri (fun fault unread => .malformed fault unread)
    fun identity decoded => ?_)
  refine (obeys_bind _ _ _).mpr ((resolve_ways identity).weaken fun lookup ending looked => ?_)
  rcases ending with found | failure | text | _
  · cases found with
    | none => exact .gone decoded looked
    | some handle =>
        unfold thenObeys
        refine obeys_report.mpr (obeys_ask.mpr ⟨trivial, fun text time => ?_, fun reply time => ?_⟩)
        · exact .raised decoded looked text time
        cases reply with
        | fatal reason => exact .refused decoded looked reason time
        | ok => exact .settled decoded looked .ok time nofun
        | transient reason => exact .settled decoded looked (.transient reason) time nofun
  · cases looked
  · exact .unresolved decoded looked
  · cases looked

theorem run_delete (engine : Engine τ) (uri : String) (world : World (Gateway.interface Handle) τ σ)
    (state : σ) :
    Deletion engine uri ((engine.delete uri).run world state).exchanges
      ((engine.delete uri).run world state).ending := by
  have ways := (run_of_obeys (delete_ways engine uri) world state).1
  rwa [List.nil_append] at ways

end Stowage.Engine
