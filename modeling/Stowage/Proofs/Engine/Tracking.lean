import Stowage.Proofs.Engine.Changes
import Stowage.Proofs.Engine.Protocol
import Stowage.Proofs.Engine.Replacement
import Stowage.Proofs.Identity.Accounts
import Stowage.Service

/-! # Tracking what was created

A container is created in the account of its declaration, but read back and tracked under its id.
Both are the same container if and only if ids give the account back (`create_tracks_iff`), which no
check on declarations makes sure of.
-/

namespace Stowage.Engine

open Program

variable {Handle τ σ α : Type}

/-- The requests that an operation under the id of a container may send. -/
def About (identity : Identity) (past : List (Exchange (Gateway.interface Handle) τ))
    (request : Gateway.Request Handle) : Prop :=
  Inquiry identity past request ∨ IdentifiedChange identity past request

/-- The exchanges begin with the account of a container, and all of them are about the container. -/
structure Addresses (identity : Identity)
    (exchanges : List (Exchange (Gateway.interface Handle) τ)) : Prop where
  first : exchanges.head?.map Exchange.request = some (.resolveGroup identity.account)
  only : ∀ earlier exchange later, exchanges = earlier ++ exchange :: later →
    About identity earlier exchange.request

/-- Whatever the service, what is done under the id is done to the container. -/
structure IsIdOf (engine : Engine τ) (identity : Identity) (uri : String) : Prop where
  decoded : Identity.decode uri engine.environment.suffix = .ok identity
  read {Handle σ : Type} (world : World (Gateway.interface Handle) τ σ) (state : σ) :
    Addresses identity ((engine.read uri).run world state).exchanges
  probe {Handle σ : Type} (world : World (Gateway.interface Handle) τ σ) (state : σ) :
    Addresses identity ((engine.probe uri).run world state).exchanges
  delete {Handle σ : Type} (world : World (Gateway.interface Handle) τ σ) (state : σ) :
    Addresses identity ((engine.delete uri).run world state).exchanges

section Decoded

variable {engine : Engine τ} {uri : String} {identity : Identity}
  (decoded : Identity.decode uri engine.environment.suffix = .ok identity)

include decoded

theorem about_inquiry (other : Identity) (past : List (Exchange (Gateway.interface Handle) τ))
    (request : Gateway.Request Handle)
    (decodedOther : Identity.decode uri engine.environment.suffix = .ok other)
    (inquiry : Inquiry other past request) : About identity past request := by
  obtain rfl : other = identity := Except.ok.inj (decodedOther.symm.trans decoded)
  exact .inl inquiry

/-- An operation that looks its id up first and sends only what is about the container. -/
theorem addresses_of_obeys {program : Operation Handle τ α}
    {next : Identity → Option Handle → Operation Handle τ α}
    (begins : program = engine.decode uri >>= fun identity => resolve identity >>= next identity)
    (obeys : program.Obeys (About identity) (fun _ _ => True) [])
    (world : World (Gateway.interface Handle) τ σ) (state : σ) :
    Addresses identity (program.run world state).exchanges := by
  refine ⟨?_, (run_of_obeys obeys world state).2⟩
  rw [begins, engine.decode_of_ok decoded]
  exact first_request_call world state _ _

theorem isIdOf_of_decode : engine.IsIdOf identity uri where
  decoded
  read := addresses_of_obeys decoded rfl
    (read_obeys engine uri (about_inquiry decoded) fun _ _ _ => trivial)
  probe := addresses_of_obeys decoded rfl
    (probe_obeys engine uri (about_inquiry decoded) fun _ _ => trivial)
  delete := by
    refine addresses_of_obeys decoded rfl (delete_obeys engine uri (about_inquiry decoded)
      (fun other past request decodedOther change => ?_) fun _ _ => trivial)
    obtain rfl : other = identity := Except.ok.inj (decodedOther.symm.trans decoded)
    exact .inr change

end Decoded

variable [Timescale τ] {engine : Engine τ} {config : Config}

/-- A creation that tracks the container it created: its id is read, the closing reading addresses
the declared container, and so does every id under which the container is managed. -/
structure Tracks (engine : Engine τ) (config : Config) (calls : CreationCalls Handle τ)
    (ending : Ending (Failure τ) Outcome) : Prop where
  readable (fault : Identity.Malformed) : ending ≠ .failed (.malformed fault)
  closing (settled : calls.IsSettled) : Addresses ⟨config.account, config.name⟩ calls.readBack
  managed {uri : String} {identity : Identity} {properties : Document.Fields}
    (returned : ending = .returned (.managed uri identity properties)) :
    identity = ⟨config.account, config.name⟩ ∧ engine.IsIdOf identity uri

theorem Creation.tracks {world : World (Gateway.interface Handle) τ σ}
    {calls : CreationCalls Handle τ} {ending : Ending (Failure τ) Outcome}
    (decoded : Identity.decode (engine.identify config) engine.environment.suffix =
      .ok ⟨config.account, config.name⟩)
    (creation : Creation engine config world calls ending) : Tracks engine config calls ending where
  readable fault failed := by
    obtain ⟨state, _, same⟩ := creation.readBack (creation.settled_of_ending (.inr ⟨fault, failed⟩))
    have reading := run_read_ends engine (engine.identify config) world state
    rw [← same, failed] at reading
    cases reading with
    | malformed fault unread => cases unread.symm.trans decoded
  closing settled := by
    obtain ⟨state, same, _⟩ := creation.readBack settled
    rw [same]
    exact (isIdOf_of_decode decoded).read world state
  managed {uri identity properties} returned := by
    obtain ⟨state, _, same⟩ := creation.readBack (creation.settled_of_ending (.inl ⟨_, returned⟩))
    have reading := run_read_ends engine (engine.identify config) world state
    rw [← same, returned] at reading
    cases reading with
    | managed _ _ decodedId =>
        exact ⟨Except.ok.inj (decodedId.symm.trans decoded), isIdOf_of_decode decodedId⟩

/-- Where every container is found, one is managed under any id that can be read. -/
theorem ending_read_granting (engine : Engine τ) (uri : String) (handle : Handle) (state : σ) :
    ((engine.read uri).run (granting handle) state).ending =
      match Identity.decode uri engine.environment.suffix with
      | .error fault => .failed (.malformed fault)
      | .ok identity =>
        .returned (.managed uri identity (Store.newContainer identity.container).project) := by
  cases decoded : Identity.decode uri engine.environment.suffix with
  | error fault =>
      rw [read, decode_of_error engine decoded]
      rfl
  | ok identity =>
      have resolved : ((resolve identity : Operation Handle τ (Option Handle)).run
          (granting handle) state).ending = .returned (some handle) := rfl
      rw [read, engine.decode_of_ok decoded]
      change ((resolve identity >>= _).run (granting handle) state).ending = _
      rw [run_bind, (Run.andThen_of_returned _ resolved).2.1]
      change ((ask (.list handle identity.container) >>= _).run (granting handle) _).ending = _
      rw [run_ask_of_ok rfl]
      simp [granting, Store.newContainer]

theorem ending_create_granting (engine : Engine τ) (config : Config) (handle : Handle) (state : σ) :
    ((engine.create config).run (granting handle) state).ending =
      ((engine.read (engine.identify config)).run (granting handle) state).ending := by
  unfold create createUnder settle
  generalize engine.read (engine.identify config) = reading
  obtain ⟨environment, schedule, limit⟩ := engine
  cases limit <;> rfl

/-- Creations track what they create if and only if the ids of the environment give the account of
the declaration back. -/
theorem create_tracks_iff (builtIn : engine.environment ∈ Environment.builtIn) :
    (∀ {Handle σ : Type} (world : World (Gateway.interface Handle) τ σ) (state : σ),
      let run := (engine.create config).run world state
      ∃ calls, KeepsProtocol engine config world calls run ∧
        Tracks engine config calls run.ending) ↔
    Identity.IsAccountText config.account engine.environment.suffix := by
  have hostSuffix : Identity.IsHostText engine.environment.suffix := by
    have all : ∀ environment ∈ Environment.builtIn, Identity.IsHostText environment.suffix := by
      decide
    exact all _ builtIn
  obtain ⟨filled, segment⟩ := Identity.isSegmentText_of_lawful config.name_lawful
  rw [← Identity.decode_encode_iff_isAccountText hostSuffix segment filled]
  constructor
  · intro tracking
    -- A service that finds every container lets a creation end with what its id is read as.
    obtain ⟨calls, _, tracks⟩ := tracking (granting ()) ()
    have ended := (ending_create_granting engine config () ()).trans
      (ending_read_granting engine (engine.identify config) () ())
    cases decoded : Identity.decode (engine.identify config) engine.environment.suffix with
    | error fault =>
        rw [decoded] at ended
        exact absurd ended (tracks.readable fault)
    | ok identity =>
        rw [decoded] at ended
        rw [(tracks.managed ended).1] at decoded
        exact decoded
  · intro decoded Handle σ world state run
    obtain ⟨calls, word, creation⟩ := run_create engine config world state
    exact ⟨calls, creation.keepsProtocol engine world word, creation.tracks decoded⟩

/-- An account with letters of both cases, one of them beyond ASCII. -/
theorem create_tracks_accented :
    let engine : Engine Rat := ⟨Environment.publicCloud, ⟨120, 1, 10⟩, 0⟩
    let config : Config := ⟨"logs", "rg", "Zürich-Ost", "private", by decide, by decide⟩
    engine.environment ∈ Environment.builtIn ∧
      ∀ service : Service Rat, ∃ calls : CreationCalls String Rat,
        Tracks engine config calls ((engine.create config).run Service.world service).ending := by
  intro engine config
  have builtIn : engine.environment ∈ Environment.builtIn := by decide
  have text : Identity.IsAccountText config.account engine.environment.suffix := by
    decide
  refine ⟨builtIn, fun service => ?_⟩
  obtain ⟨calls, _, tracks⟩ := (create_tracks_iff builtIn).mpr text Service.world service
  exact ⟨calls, tracks⟩

/-- A slash in the account ends the host of the id early: the container is there, but its id cannot
be read. -/
theorem create_loses_slashed_account :
    let engine : Engine Rat := ⟨Environment.publicCloud, ⟨120, 1, 10⟩, 0⟩
    let config : Config := ⟨"logs", "rg", "a/b", "private", by decide, by decide⟩
    let run := (engine.create config).run (granting "a/b") ()
    Config.ofDocument (.object [("name", .text "logs"), ("resource_group_name", .text "rg"),
        ("storage_account_name", .text "a/b")]) = .ok config ∧
      .createIfMissing "a/b" "logs" ∈ run.requests ∧
      run.ending = .failed (.malformed (.foreignHost "a" "https://a/b.core.windows.net/logs"
        "core.windows.net")) := by
  intro engine config run
  have malformed : Identity.decode (engine.identify config) engine.environment.suffix =
      .error (.foreignHost "a" "https://a/b.core.windows.net/logs" "core.windows.net") :=
    Identity.decode_slashed_account
  obtain ⟨readBack, requests⟩ := requests_create_granting engine config "a/b" ()
  have ended := ending_read_granting engine (engine.identify config) "a/b" ()
  rw [malformed] at ended
  refine ⟨rfl, ?_, (ending_create_granting engine config "a/b" ()).trans ended⟩
  rw [show run.requests = _ from requests]
  exact List.mem_cons_of_mem _ List.mem_cons_self

end Stowage.Engine
