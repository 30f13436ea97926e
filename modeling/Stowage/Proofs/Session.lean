import Stowage.Proofs.Engine.Changes
import Stowage.Session

/-! # Changes in a session

However long a session is and whatever the service answers, an operation that is refused sends
nothing, an operation that asks changes nothing, and every change follows a confirmation of its
account within the same operation.
-/

namespace Stowage

variable {Handle τ σ : Type}

namespace Command

/-- What is asked for is no configuration, or not under an id. -/
def IsRefused (engine : Engine τ) : Command → Prop
  | .create declared => ∃ rejection, Config.ofDocument declared.document = .error rejection
  | .read uri | .probe uri | .delete uri | .adopt uri =>
    ∃ fault, Identity.decode uri engine.environment.suffix = .error fault
  | .replace uri declared =>
    (∃ rejection, Config.ofDocument declared.document = .error rejection) ∨
      ∃ fault, Identity.decode uri engine.environment.suffix = .error fault

/-- The changes that a document asks for, if it is a configuration. -/
def DeclaresChange (document : Document) (past : List (Exchange (Gateway.interface Handle) τ))
    (request : Gateway.Request Handle) : Prop :=
  ∃ config, Config.ofDocument document = .ok config ∧ Engine.DeclaredChange config past request

/-- The change that an id asks for, if it is one. -/
def IdentifiesChange (engine : Engine τ) (uri : String)
    (past : List (Exchange (Gateway.interface Handle) τ)) (request : Gateway.Request Handle) :
    Prop :=
  ∃ identity, Identity.decode uri engine.environment.suffix = .ok identity ∧
    Engine.IdentifiedChange identity past request

/-- The changes that an operation may make after the given exchanges. -/
def Justifies (engine : Engine τ) (past : List (Exchange (Gateway.interface Handle) τ))
    (request : Gateway.Request Handle) : Command → Prop
  | .create declared => DeclaresChange declared.document past request
  | .read _ | .probe _ | .adopt _ => False
  | .delete uri => IdentifiesChange engine uri past request
  | .replace uri declared =>
    IdentifiesChange engine uri past request ∨ DeclaresChange declared.document past request

def isQuery : Command → Bool
  | .read _ | .probe _ | .adopt _ => true
  | .create _ | .delete _ | .replace _ _ => false

theorem not_justifies_of_isQuery (engine : Engine τ) {command : Command}
    (query : command.isQuery = true) {past : List (Exchange (Gateway.interface Handle) τ)}
    {request : Gateway.Request Handle} :
    ¬command.Justifies engine past request := by
  cases command with
  | read uri | probe uri | adopt uri => exact id
  | create declared | delete uri | replace uri declared => cases query

end Command

/-- What is promised of every operation of a session. -/
structure Step.IsJustified (engine : Engine τ) (step : Step Handle τ σ) : Prop where
  refused : step.command.IsRefused engine →
    step.run.exchanges = [] ∧ ∃ failure, step.run.ending = .failed failure
  query : step.command.isQuery = true →
    ∀ exchange ∈ step.run.exchanges, exchange.request.changes = false
  change : ∀ earlier exchange later, step.run.exchanges = earlier ++ exchange :: later →
    exchange.request.changes = true →
    step.command.Justifies engine earlier exchange.request

namespace Command

open Program

variable [Timescale τ] (engine : Engine τ) (command : Command)
  (world : World (Gateway.interface Handle) τ σ) (state : σ)

/-- The operation works under the id; a replacement also has a configuration to work with. -/
def IsUnder (uri : String) : Command → Prop
  | .create _ => False
  | .read given | .probe given | .delete given | .adopt given => given = uri
  | .replace given declared =>
    given = uri ∧ ∃ config, Config.ofDocument declared.document = .ok config

/-- An operation under an id that cannot be read says so and sends nothing. -/
theorem run_of_malformed {uri : String} {fault : Identity.Malformed} (under : command.IsUnder uri)
    (malformed : Identity.decode uri engine.environment.suffix = .error fault) :
    let run := (command.program engine).run world state
    run.exchanges = [] ∧ run.ending = .failed (.malformed fault) := by
  cases command with
  | create declared => cases under
  | read given | probe given | delete given | adopt given =>
      cases under
      simp only [program, Engine.read, Engine.probe, Engine.delete, Engine.adopt,
        engine.decode_of_error malformed]
      exact ⟨rfl, rfl⟩
  | replace given declared =>
      obtain ⟨rfl, config, accepted⟩ := under
      rw [program, engine.replaceFrom_of_ok accepted, engine.replace_of_error config malformed]
      exact ⟨rfl, rfl⟩

theorem run_of_refused (refused : command.IsRefused engine) :
    let run := (command.program engine).run world state
    run.exchanges = [] ∧ ∃ failure, run.ending = .failed failure := by
  have unreadable {uri : String} (under : command.IsUnder uri)
      (refused : ∃ fault, Identity.decode uri engine.environment.suffix = .error fault) :
      let run := (command.program engine).run world state
      run.exchanges = [] ∧ ∃ failure, run.ending = .failed failure := by
    obtain ⟨fault, malformed⟩ := refused
    obtain ⟨silent, ended⟩ := run_of_malformed engine command world state under malformed
    exact ⟨silent, _, ended⟩
  have rejecting (events : List Event) (rejection : Config.Rejection) :
      let run := (.outcome <$> .ofLogged ⟨events, .error (.rejected rejection)⟩ :
        Operation Handle τ Answer).run world state
      run.exchanges = [] ∧ ∃ failure, run.ending = .failed failure := by
    rw [map_eq_pure_bind, Program.ofLogged_error_bind, Program.run_ofLogged_error]
    exact ⟨Run.exchanges_noted .., _, rfl⟩
  cases command with
  | create declared =>
      obtain ⟨rejection, rejected⟩ := refused
      rw [program, engine.createFrom_of_error rejected]
      exact rejecting _ rejection
  | read uri | probe uri | delete uri | adopt uri => exact unreadable rfl refused
  | replace uri declared =>
      cases read : Config.ofDocument declared.document with
      | error rejection =>
          rw [program, engine.replaceFrom_of_error read]
          exact rejecting _ rejection
      | ok config =>
          obtain ⟨rejection, rejected⟩ | malformed := refused
          · cases read.symm.trans rejected
          · exact unreadable ⟨rfl, config, read⟩ malformed

/-- Every change that an operation makes is justified by what it exchanged before. -/
theorem program_obeys :
    (command.program engine : Operation Handle τ Answer).Obeys
      (fun past (request : Gateway.Request Handle) =>
        request.changes = true → command.Justifies engine past request)
      (fun _ _ => True) [] := by
  have queries : ∀ (past : List (Exchange (Gateway.interface Handle) τ))
      (request : Gateway.Request Handle), request.changes = false →
      request.changes = true → command.Justifies engine past request := by
    intro past request unchanging changing
    cases unchanging.symm.trans changing
  have inquiries (uri : String) : ∀ identity (past : List (Exchange (Gateway.interface Handle) τ))
      (request : Gateway.Request Handle),
      Identity.decode uri engine.environment.suffix = .ok identity →
      Engine.Inquiry identity past request →
      request.changes = true → command.Justifies engine past request :=
    fun _ _ _ _ inquiry => queries _ _ inquiry.changes_eq_false
  cases command with
  | create declared =>
      exact (Engine.createFrom_obeys engine queries (fun _ _ => trivial) declared.document
        fun config past request accepted change _ => ⟨config, accepted, change⟩).map _
  | read uri => exact (Engine.read_obeys engine uri (inquiries uri) fun _ _ _ => trivial).map _
  | probe uri => exact (Engine.probe_obeys engine uri (inquiries uri) fun _ _ => trivial).map _
  | delete uri =>
      exact (Engine.delete_obeys engine uri (inquiries uri)
        (fun identity past request decoded change _ => ⟨identity, decoded, change⟩)
        fun _ _ => trivial).map _
  | adopt uri => exact (Engine.adopt_obeys engine uri (inquiries uri) fun _ _ => trivial).map _
  | replace uri declared =>
      exact (Engine.replaceFrom_obeys engine queries (fun _ _ => trivial) uri declared.document
        (fun identity past request decoded change _ => .inl ⟨identity, decoded, change⟩)
        fun config past request accepted change _ => .inr ⟨config, accepted, change⟩).map _

theorem run_justified : Step.IsJustified engine
    (⟨command, (command.program engine).run world state⟩ : Step Handle τ σ) := by
  have changes := (run_of_obeys (program_obeys engine command) world state).2
  refine ⟨run_of_refused engine command world state, fun query exchange member => ?_, changes⟩
  obtain ⟨earlier, later, split⟩ := List.append_of_mem member
  cases changing : exchange.request.changes with
  | false => rfl
  | true =>
      cases not_justifies_of_isQuery engine query (changes earlier exchange later split changing)

end Command

variable [Timescale τ]

/-- Every operation of a session is carried out, and its changes are justified by what it exchanged
before itself, whatever the service answers. -/
theorem session_justified (engine : Engine τ) (world : World (Gateway.interface Handle) τ σ)
    (commands : List Command) (state : σ) :
    (session engine world commands state).map Step.command = commands ∧
      ∀ step ∈ session engine world commands state, step.IsJustified engine := by
  induction commands generalizing state with
  | nil => exact ⟨rfl, nofun⟩
  | cons command rest ih =>
      obtain ⟨carried, justified⟩ := ih ((command.program engine).run world state).state
      refine ⟨congrArg (List.cons command) carried, fun step member => ?_⟩
      rcases List.mem_cons.mp member with rfl | member
      · exact command.run_justified engine world state
      · exact justified step member

end Stowage
