import Stowage.Proofs.Engine.Replacement
import Stowage.Proofs.Identity.RoundTrip
import Stowage.Proofs.Schedules
import Stowage.Proofs.Store.Sharing

/-! # Concurrent operations

Operations on different containers, and creations from declarations without a difference, do not
interfere with each other (`interleave_without_interference`).  Nothing is locked for it: each
operation changes its own container only, and finds it by its exact name among whatever siblings are
there.
-/

namespace Stowage

open Program Service

variable {τ α β : Type}

theorem Store.MovesTo.congr {config other : Config} {store later : Store}
    (alike : ∀ field, config.compared field = other.compared field)
    (moves : MovesTo config store later) : MovesTo other store later := by
  have access : config.access = other.access := Config.access_eq_iff.mpr (alike .access)
  have name : config.name = other.name := alike .name
  have group : config.group = other.group := alike .group
  have account : config.account = other.account := alike .account
  obtain ⟨container, policy⟩ := moves
  rw [name, group, account] at container
  rw [name, group, account, access] at policy
  exact ⟨container, policy⟩

namespace Command

/-- The containers that an operation is about. -/
def Targets (engine : Engine τ) (identity : Identity) : Command → Prop
  | .create declared => ∃ config, Config.ofDocument declared.document = .ok config ∧
    identity = ⟨config.account, config.name⟩
  | .read uri | .probe uri | .delete uri | .adopt uri =>
    Identity.decode uri engine.environment.suffix = .ok identity
  | .replace uri declared => Identity.decode uri engine.environment.suffix = .ok identity ∨
    ∃ config, Config.ofDocument declared.document = .ok config ∧
      identity = ⟨config.account, config.name⟩

/-- No replacement, which is about two containers, and what is created can be addressed by its
id. -/
def IsSingle : Command → Prop
  | .create declared => ∃ config, Config.ofDocument declared.document = .ok config ∧
    config.account ≠ "" ∧ Identity.IsHostText config.account
  | .read _ | .probe _ | .delete _ | .adopt _ => True
  | .replace _ _ => False

/-- Both create a container, and neither declaration has to be replaced by the other. -/
def CreatesLike (command other : Command) : Prop :=
  ∃ declared config otherDeclared otherConfig,
    command = .create declared ∧ Config.ofDocument declared.document = .ok config ∧
    other = .create otherDeclared ∧ Config.ofDocument otherDeclared.document = .ok otherConfig ∧
    config.requiresReplacement otherConfig = []

/-- The operations are about different containers or create the same one. -/
def IsCompatible (engine : Engine τ) (command other : Command) : Prop :=
  (∀ identity, command.Targets engine identity → ¬other.Targets engine identity) ∨
    command.CreatesLike other

/-- What an operation may make of its container. -/
def Permits (identity : Identity) (store later : Store) : Command → Prop
  | .create declared => ∀ config, Config.ofDocument declared.document = .ok config →
    Store.MovesTo config store later
  | .delete _ | .replace _ _ => True
  | .read _ | .probe _ | .adopt _ => Store.SameAt identity store later

/-- What an operation lets others make of its container. -/
def Tolerates (identity : Identity) (store later : Store) : Command → Prop
  | .create declared => ∀ config, Config.ofDocument declared.document = .ok config →
    Store.MovesTo config store later
  | .read _ | .probe _ | .delete _ | .adopt _ | .replace _ _ => Store.SameAt identity store later

variable {engine : Engine τ} {command other : Command} {identity : Identity} {store later : Store}

theorem config_of_targets {declared : Declared} {config : Config}
    (targets : (Command.create declared).Targets engine identity)
    (accepted : Config.ofDocument declared.document = .ok config) :
    identity = ⟨config.account, config.name⟩ := by
  obtain ⟨other, acceptedOther, rfl⟩ := targets
  obtain rfl : other = config := Except.ok.inj (acceptedOther.symm.trans accepted)
  rfl

theorem tolerates_of_sameAt (targets : command.Targets engine identity)
    (same : Store.SameAt identity store later) : command.Tolerates identity store later := by
  cases command with
  | create declared =>
      intro config accepted
      rw [config_of_targets targets accepted] at same
      exact same.movesTo
  | read uri | probe uri | delete uri | adopt uri | replace uri declared => exact same

theorem permits_of_sameAt (targets : command.Targets engine identity)
    (same : Store.SameAt identity store later) : command.Permits identity store later := by
  cases command with
  | create declared =>
      intro config accepted
      rw [config_of_targets targets accepted] at same
      exact same.movesTo
  | read uri | probe uri | adopt uri => exact same
  | delete uri | replace uri declared => trivial

theorem tolerates_trans {service next last : Service τ}
    (first : command.Tolerates identity service.store next.store) (keeps : service.Keeps next)
    (second : command.Tolerates identity next.store last.store) :
    command.Tolerates identity service.store last.store := by
  cases command with
  | create declared =>
      exact fun config accepted =>
        (first config accepted).trans (second config accepted) keeps.groups keeps.accounts
  | read uri | probe uri | delete uri | adopt uri | replace uri declared => exact first.trans second

/-- The terms on which an operation shares a service. -/
def terms (engine : Engine τ) (command : Command) : Terms (Service τ) where
  rely service later := service.Keeps later ∧ ∀ identity, command.Targets engine identity →
    command.Tolerates identity service.store later.store
  guarantee service later := service.Keeps later ∧ ∀ identity,
    (command.Targets engine identity → command.Permits identity service.store later.store) ∧
      (¬command.Targets engine identity → Store.SameAt identity service.store later.store)
  rely_refl _ := ⟨.refl, fun _ targets => tolerates_of_sameAt targets .refl⟩
  rely_trans first second := ⟨first.1.trans second.1, fun identity targets =>
    tolerates_trans (first.2 identity targets) first.1 (second.2 identity targets)⟩
  guarantee_refl _ := ⟨.refl, fun _ =>
    ⟨fun targets => permits_of_sameAt targets .refl, fun _ => .refl⟩⟩

section Creation

variable {declared : Declared} {config : Config} {service later : Service τ}
  (accepted : Config.ofDocument declared.document = .ok config)

include accepted

theorem movesTo_of_rely (changed : ((Command.create declared).terms engine).rely service later) :
    Store.MovesTo config service.store later.store :=
  changed.2 _ ⟨config, accepted, rfl⟩ config accepted

theorem guarantee_of_movesTo (keeps : service.Keeps later)
    (moves : Store.MovesTo config service.store later.store)
    (others : ∀ identity, identity ≠ ⟨config.account, config.name⟩ →
      Store.SameAt identity service.store later.store) :
    ((Command.create declared).terms engine).guarantee service later := by
  refine ⟨keeps, fun identity => ⟨fun _ actual acceptedActual => ?_, fun apart => ?_⟩⟩
  · obtain rfl : actual = config := Except.ok.inj (acceptedActual.symm.trans accepted)
    exact moves
  · exact others identity fun same => apart ⟨config, accepted, same⟩

end Creation

/-- What compatible operations may do is what each of them tolerates. -/
theorem rely_of_guarantee (compatible : command.IsCompatible engine other)
    {service later : Service τ} (guaranteed : (other.terms engine).guarantee service later) :
    (command.terms engine).rely service later := by
  obtain ⟨keeps, changes⟩ := guaranteed
  refine ⟨keeps, fun identity targets => ?_⟩
  obtain ⟨own, others⟩ := changes identity
  rcases compatible with apart | alike
  · exact tolerates_of_sameAt targets (others (apart identity targets))
  · obtain ⟨declared, config, otherDeclared, otherConfig, rfl, accepted, rfl, acceptedOther,
      same⟩ := alike
    have compared := (Config.requiresReplacement_eq_nil config otherConfig).mp same
    have account : config.account = otherConfig.account := compared .account
    have name : config.name = otherConfig.name := compared .name
    have shared : (Command.create otherDeclared).Targets engine identity :=
      ⟨otherConfig, acceptedOther, by rw [config_of_targets targets accepted, account, name]⟩
    intro actual acceptedActual
    obtain rfl : actual = config := Except.ok.inj (acceptedActual.symm.trans accepted)
    exact (own shared otherConfig acceptedOther).congr fun field => (compared field).symm

/-- The operation ended in this way, and its container is as it was left in this store. -/
def Leaves (engine : Engine τ) (command : Command) (ending : Ending (Failure τ) α) (left : Store)
    (actual : Ending (Failure τ) α) (service : Service τ) : Prop :=
  actual = ending ∧ ∀ identity, command.Targets engine identity →
    Store.SameAt identity left service.store

section Foreseen

variable [Timescale τ] {service : Service τ}

/-- How the operation ends and what becomes of its container does not depend on the others. -/
def IsForeseeable (engine : Engine τ) (command : Command) (service : Service τ) : Prop :=
  ∃ ending left, (command.program engine).Withstands world (command.terms engine)
    (command.Leaves engine ending left) service

theorem isForeseeable_map {program : Operation String τ α} {ending : Ending (Failure τ) α}
    {left : Store} (f : α → Answer)
    (withstands : program.Withstands world (command.terms engine)
      (command.Leaves engine ending left) service)
    (same : command.program engine = f <$> program) : command.IsForeseeable engine service := by
  refine ⟨ending.map f, left, ?_⟩
  rw [same]
  refine .map f (withstands.weaken ?_)
  rintro _ later ⟨rfl, untouched⟩
  exact ⟨rfl, untouched⟩

/-- An operation under an id that cannot be read fails at once. -/
theorem isForeseeable_of_decoded {uri : String}
    (targets : ∀ identity, command.Targets engine identity →
      Identity.decode uri engine.environment.suffix = .ok identity)
    (malformed : ∀ fault, Identity.decode uri engine.environment.suffix = .error fault →
      command.program engine = (.fail (.malformed fault) : Operation String τ Answer))
    (decoded : ∀ identity, Identity.decode uri engine.environment.suffix = .ok identity →
      command.IsForeseeable engine service) : command.IsForeseeable engine service := by
  cases read : Identity.decode uri engine.environment.suffix with
  | ok identity => exact decoded identity read
  | error fault =>
      refine ⟨.failed (.malformed fault), service.store, ?_⟩
      rw [malformed fault read]
      exact fun later _ =>
        ⟨rfl, fun identity names => nomatch read.symm.trans (targets identity names)⟩

theorem withstands_settled {program : Operation String τ α} {value : α}
    (settles : program.Settles world (command.terms engine) value service)
    (unchanged : ∀ later, (command.terms engine).rely service later → ∀ identity,
      command.Targets engine identity → Store.SameAt identity service.store later.store) :
    program.Withstands world (command.terms engine)
      (command.Leaves engine (.returned value) service.store) service := by
  refine Withstands.weaken settles ?_
  rintro _ later ⟨rfl, changed⟩
  exact ⟨rfl, unchanged later changed⟩

variable (engine) (quiet : service.IsQuiet) (named : service.store.IsNamed) (uri : String)

include quiet

theorem isForeseeable_probe : (Command.probe uri).IsForeseeable engine service := by
  refine isForeseeable_of_decoded (fun _ => id) (fun fault unread => ?_) fun identity decoded => ?_
  · rw [program, Engine.probe, engine.decode_of_error unread]
    rfl
  · have probing : (engine.probe uri).Settles world ((Command.probe uri).terms engine) _ service :=
      settles_probe And.left quiet engine decoded fun later changed =>
        (changed.2 identity decoded).1
    exact isForeseeable_map .presence
      (withstands_settled probing fun later changed => changed.2) rfl

theorem isForeseeable_delete : (Command.delete uri).IsForeseeable engine service := by
  refine isForeseeable_of_decoded (fun _ => id) (fun fault unread => ?_) fun identity decoded => ?_
  · rw [program, Engine.delete, engine.decode_of_error unread]
    rfl
  let left := if service.store.knows identity.account then
    service.store.dropContainer identity.account identity.container else service.store
  have deleting : (engine.delete uri).Withstands world ((Command.delete uri).terms engine)
      ((Command.delete uri).Leaves engine (.returned ()) left) service := by
    refine withstands_delete And.left quiet engine decoded (fun unknown later changed => ?_)
      fun known later changed => ⟨⟨.dropContainer .., fun other => ⟨fun _ => trivial, ?_⟩⟩, ?_⟩
    · simp only [left, unknown]
      exact ⟨rfl, changed.2⟩
    · exact fun apart => Store.sameAt_dropContainer later.store fun same => apart (same ▸ decoded)
    · simp only [left, known, if_true]
      refine fun last further => ⟨rfl, fun other targets => ?_⟩
      obtain rfl : other = identity := Except.ok.inj (targets.symm.trans decoded)
      exact (changed.2 other targets).dropContainer.trans (further.2 other targets)
  exact isForeseeable_map (fun _ => .done) deleting rfl

include named

theorem isForeseeable_read : (Command.read uri).IsForeseeable engine service := by
  refine isForeseeable_of_decoded (fun _ => id) (fun fault unread => ?_) fun identity decoded => ?_
  · rw [program, Engine.read, engine.decode_of_error unread]
    rfl
  · have reading : (engine.read uri).Settles world ((Command.read uri).terms engine) _ service :=
      settles_read And.left quiet engine decoded
        (fun later changed => (changed.2 identity decoded).1) named
    exact isForeseeable_map .outcome (withstands_settled reading fun later changed => changed.2) rfl

theorem isForeseeable_adopt : (Command.adopt uri).IsForeseeable engine service := by
  refine isForeseeable_of_decoded (fun _ => id) (fun fault unread => ?_) fun identity decoded => ?_
  · rw [program, Engine.adopt, Engine.read, engine.decode_of_error unread]
    rfl
  have reading : (engine.read uri).Settles world ((Command.adopt uri).terms engine) _ service :=
    settles_read And.left quiet engine decoded
      (fun later changed => (changed.2 identity decoded).1) named
  cases found : service.store.reachable? identity.account identity.container with
  | none =>
      rw [found] at reading
      have adopting : (engine.adopt uri).Withstands world ((Command.adopt uri).terms engine)
          ((Command.adopt uri).Leaves engine (.failed (.notFound uri)) service.store) service :=
        reading.bind fun later changed => ⟨rfl, changed.2⟩
      exact isForeseeable_map .outcome adopting rfl
  | some properties =>
      rw [found] at reading
      have adopting : (engine.adopt uri).Withstands world ((Command.adopt uri).terms engine)
          ((Command.adopt uri).Leaves engine
            (.returned (.managed uri identity properties.project)) service.store) service :=
        reading.bind fun later changed => ⟨rfl, changed.2⟩
      exact isForeseeable_map .outcome adopting rfl

omit uri

theorem isForeseeable_create {declared : Declared}
    (single : (Command.create declared).IsSingle)
    (hostSuffix : Identity.IsHostText engine.environment.suffix) :
    (Command.create declared).IsForeseeable engine service := by
  obtain ⟨config, accepted, filledAccount, hostAccount⟩ := single
  have decoded : Identity.decode (engine.identify config) engine.environment.suffix =
      .ok ⟨config.account, config.name⟩ :=
    Identity.decode_encode_config config hostAccount filledAccount hostSuffix
  have same : (Command.create declared).program engine =
      (.outcome <$> engine.create config : Operation String τ Answer) := by
    rw [program, engine.createFrom_of_ok accepted]
  cases owned : service.store.owns config.group config.account with
  | false =>
      have creating : (engine.create config).Withstands world
          ((Command.create declared).terms engine)
          ((Command.create declared).Leaves engine
            (.failed (.accountMissing config.account)) service.store) service := by
        refine withstands_create And.left quiet engine (movesTo_of_rely accepted)
          (guarantee_of_movesTo accepted) named decoded
          (fun _ later changed => ⟨rfl, fun identity targets => ?_⟩)
          fun present => absurd (owned.symm.trans present) Bool.false_ne_true
        rw [config_of_targets targets accepted]
        exact (movesTo_of_rely accepted changed).sameAt owned
      exact isForeseeable_map .outcome creating same
  | true =>
      let properties := (service.store.container? config.account config.name).getD
        (Store.newContainer config.name)
      have creating : (engine.create config).Withstands world
          ((Command.create declared).terms engine)
          ((Command.create declared).Leaves engine
            (.returned (.managed (engine.identify config) ⟨config.account, config.name⟩
              properties.project)) (service.store.declare config)) service := by
        refine withstands_create And.left quiet engine (movesTo_of_rely accepted)
          (guarantee_of_movesTo accepted) named decoded
          (fun absent => absurd (absent.symm.trans owned) Bool.false_ne_true)
          fun _ later made set => ⟨rfl, fun identity targets => ?_⟩
        rw [config_of_targets targets accepted]
        exact ⟨by rw [made, Store.container?_declare, if_pos ⟨rfl, rfl⟩],
          by rw [set, Store.policy?_declare, if_pos ⟨rfl, rfl⟩]⟩
      exact isForeseeable_map .outcome creating same

/-- Among compatible operations none depends on the others. -/
theorem isForeseeable (single : command.IsSingle)
    (hostSuffix : Identity.IsHostText engine.environment.suffix) :
    command.IsForeseeable engine service := by
  cases command with
  | create declared => exact isForeseeable_create engine quiet named single hostSuffix
  | read uri => exact isForeseeable_read engine quiet named uri
  | probe uri => exact isForeseeable_probe engine quiet uri
  | delete uri => exact isForeseeable_delete engine quiet uri
  | adopt uri => exact isForeseeable_adopt engine quiet named uri
  | replace uri declared => exact single.elim

omit quiet named

theorem withstands_program (foreseeable : command.IsForeseeable engine service) :
    let alone := (command.program engine).run world service
    (command.program engine).Withstands world (command.terms engine)
      (command.Leaves engine alone.ending alone.state.store) service := by
  obtain ⟨ending, left, withstands⟩ := foreseeable
  obtain ⟨same, untouched⟩ := withstands.run
  refine withstands.weaken ?_
  rintro _ later ⟨rfl, untouchedLater⟩
  exact ⟨same.symm, fun identity targets =>
    (untouched identity targets).symm.trans (untouchedLater identity targets)⟩

end Foreseen

end Command

/-- The stores hold the same, in whatever order they came by it. -/
structure Store.HoldsSame (store other : Store) : Prop where
  groups : store.groups = other.groups
  accounts : store.accounts = other.accounts
  container (account name : String) : store.container? account name = other.container? account name
  policy (account name : String) : store.policy? account name = other.policy? account name

namespace Service

open Ensemble

variable [Timescale τ] {ι : Type} [DecidableEq ι] {engine : Engine τ} {commands : ι → Command}
  {service : Service τ}

section Compatible

variable (compatible : ∀ who other, who ≠ other →
    (commands who).IsCompatible engine (commands other))
  (foreseeable : ∀ who, (commands who).IsForeseeable engine service)

include foreseeable

omit [DecidableEq ι] in
theorem withstands_ensemble :
    (Command.ensemble engine commands service).Withstands world
      (fun who => (commands who).terms engine)
      (fun who =>
        let alone := ((commands who).program engine).run world service
        (commands who).Leaves engine alone.ending alone.state.store) :=
  fun who => Command.withstands_program engine (foreseeable who)

include compatible

omit [DecidableEq ι] [Timescale τ] foreseeable in
theorem fit_terms : Fit fun who => (commands who).terms engine :=
  fun who other distinct _ _ guaranteed =>
    Command.rely_of_guarantee (compatible who other distinct) guaranteed

variable (schedule : List ι)

theorem keeps_interleave :
    service.Keeps ((Command.ensemble engine commands service).interleave world schedule).state :=
  related_interleave (fit_terms compatible) (withstands_ensemble foreseeable) Keeps
    (fun _ => .refl) .trans (fun _ _ _ guaranteed => guaranteed.1) schedule

theorem sameAt_of_not_targets {identity : Identity}
    (spared : ∀ who, ¬(commands who).Targets engine identity) :
    Store.SameAt identity service.store
      ((Command.ensemble engine commands service).interleave world schedule).state.store :=
  related_interleave (fit_terms compatible) (withstands_ensemble foreseeable)
    (fun service later => Store.SameAt identity service.store later.store)
    (fun _ => .refl) .trans (fun who _ _ guaranteed => (guaranteed.2 identity).2 (spared who))
    schedule

/-- A client that has ended did so as it does alone, and left its container as it does alone. -/
theorem leaves_of_ended {who : ι} {ending : Ending (Failure τ) Answer}
    (ended : ((Command.ensemble engine commands service).interleave world schedule).clients who =
      .ended ending) :
    let alone := ((commands who).program engine).run world service
    (commands who).Leaves engine alone.ending alone.state.store ending
      ((Command.ensemble engine commands service).interleave world schedule).state :=
  post_of_ended (withstands_interleave (fit_terms compatible) (withstands_ensemble foreseeable)
    schedule) ended

variable {schedule} {other : List ι}

/-- Two schedules at whose ends all clients have ended lead to the same. -/
theorem holdsSame_of_ended
    (ended : ∀ who, ∃ ending,
      ((Command.ensemble engine commands service).interleave world schedule).clients who =
        .ended ending)
    (endedOther : ∀ who, ∃ ending,
      ((Command.ensemble engine commands service).interleave world other).clients who =
        .ended ending) :
    ((Command.ensemble engine commands service).interleave world schedule).state.store.HoldsSame
      ((Command.ensemble engine commands service).interleave world other).state.store := by
  have same (identity : Identity) : Store.SameAt identity
      ((Command.ensemble engine commands service).interleave world other).state.store
      ((Command.ensemble engine commands service).interleave world schedule).state.store := by
    -- Both times the container is as one client leaves it alone, or as it was at the start.
    by_cases targeted : ∃ who, (commands who).Targets engine identity
    · obtain ⟨who, targets⟩ := targeted
      obtain ⟨ending, here⟩ := ended who
      obtain ⟨endingOther, there⟩ := endedOther who
      have left := (leaves_of_ended compatible foreseeable schedule here).2 identity targets
      have leftOther := (leaves_of_ended compatible foreseeable other there).2 identity targets
      exact leftOther.symm.trans left
    · have spared := fun who targets => targeted ⟨who, targets⟩
      exact (sameAt_of_not_targets compatible foreseeable other spared).symm.trans
        (sameAt_of_not_targets compatible foreseeable schedule spared)
  have keeps := keeps_interleave compatible foreseeable schedule
  have keepsOther := keeps_interleave compatible foreseeable other
  exact ⟨keeps.groups.trans keepsOther.groups.symm, keeps.accounts.trans keepsOther.accounts.symm,
    fun account name => (same ⟨account, name⟩).1, fun account name => (same ⟨account, name⟩).2⟩

end Compatible

/-- However clients with compatible operations take turns, each ends as it does alone, all of them
together leave what a session of the operations in any order leaves, and everyone ends who gets
turns again and again. -/
theorem interleave_without_interference
    (hostSuffix : Identity.IsHostText engine.environment.suffix) (quiet : service.IsQuiet)
    (named : service.store.IsNamed) (single : ∀ who, (commands who).IsSingle)
    (compatible : ∀ who other, who ≠ other →
      (commands who).IsCompatible engine (commands other)) :
    let start := Command.ensemble engine commands service
    (∀ schedule who ending, (start.interleave world schedule).clients who = .ended ending →
      ending = (((commands who).program engine).run world service).ending) ∧
    (∀ schedule order : List ι,
      (∀ who, ∃ ending, (start.interleave world schedule).clients who = .ended ending) →
      order.Nodup → (∀ who, who ∈ order) →
      (start.interleave world schedule).state.store.HoldsSame
        (sessionState engine world (order.map commands) service).store) ∧
    ∀ turns, IsFair turns → ∀ who, ∃ count ending,
      (start.interleave world ((List.range count).map turns)).clients who = .ended ending := by
  intro start
  have foreseeable := fun who => Command.isForeseeable engine quiet named (single who) hostSuffix
  refine ⟨fun schedule who ending ended => ?_, fun schedule order ended once all => ?_,
    fun turns fair who => ?_⟩
  · exact (leaves_of_ended compatible foreseeable schedule ended).1
  · -- The session is a schedule too, in which one client after the other has all its turns.
    obtain ⟨sequential, left, endedSequential⟩ :=
      exists_schedule_session engine world once fun who _ => (rfl : start.clients who = _)
    rw [show sessionState engine world (order.map commands) service = _ from left.symm]
    exact holdsSame_of_ended compatible foreseeable ended fun who => endedSequential who (all who)
  · exact Program.ends who _ start turns fair rfl

/-- Two clients that create one container, and one that deletes a sibling of it meanwhile. -/
theorem interleave_without_interference_sibling :
    let engine : Engine Rat := ⟨Environment.publicCloud, ⟨120, 1, 10⟩, 0⟩
    let declared (access : String) : Declared := .raw (.object [("name", .text "logs"),
      ("resource_group_name", .text "rg"), ("storage_account_name", .text "acct"),
      ("container_access_type", .text access)])
    let sibling := Identity.encode "acct" "logs-2" "core.windows.net"
    let commands (who : Fin 3) : Command := match who with
      | 0 => .create (declared "blob")
      | 1 => .create (declared "Blob")
      | 2 => .delete sibling
    let accounts := Store.empty.addAccount "acct" "rg"
    let service : Service Rat := { store := accounts.createContainer "acct" "logs-2", clock := 0 }
    let start := Command.ensemble engine commands service
    service.IsQuiet ∧ service.store.IsNamed ∧ (∀ who, (commands who).IsSingle) ∧
      (∀ who other, who ≠ other → (commands who).IsCompatible engine (commands other)) ∧
      ∀ turns, IsFair turns → ∀ who, ∃ count,
        (start.interleave world ((List.range count).map turns)).clients who =
          .ended (((commands who).program engine).run world service).ending := by
  intro engine declared sibling commands accounts service start
  have quiet : service.IsQuiet := fun queue => rfl
  have named : service.store.IsNamed :=
    (Store.isNamed_empty.addAccount "acct" "rg").createContainer "acct" "logs-2"
  let lower : Config := ⟨"logs", "rg", "acct", "blob", by decide, by decide⟩
  let upper : Config := ⟨"logs", "rg", "acct", "Blob", by decide, by decide⟩
  have acceptedLower : Config.ofDocument (declared "blob").document = .ok lower := rfl
  have acceptedUpper : Config.ofDocument (declared "Blob").document = .ok upper := rfl
  have decoded : Identity.decode sibling engine.environment.suffix = .ok ⟨"acct", "logs-2"⟩ :=
    Identity.decode_encode (by decide) (by decide) (by decide) (by decide) (by decide)
  have targets (identity : Identity) (deleted : (Command.delete sibling).Targets engine identity) :
      identity = ⟨"acct", "logs-2"⟩ := Except.ok.inj (deleted.symm.trans decoded)
  have apart {access : String} {config : Config}
      (accepted : Config.ofDocument (declared access).document = .ok config)
      (distinct : config.name ≠ "logs-2") (identity : Identity)
      (created : (Command.create (declared access)).Targets engine identity) :
      ¬(Command.delete sibling).Targets engine identity := by
    intro deleted
    have same := (Command.config_of_targets created accepted).symm.trans (targets identity deleted)
    exact distinct (congrArg Identity.container same)
  have single : ∀ who, (commands who).IsSingle := fun who => match who with
    | 0 => ⟨lower, acceptedLower, by decide, by decide⟩
    | 1 => ⟨upper, acceptedUpper, by decide, by decide⟩
    | 2 => trivial
  have compatible (who other : Fin 3) (distinct : who ≠ other) :
      (commands who).IsCompatible engine (commands other) := match who, other with
    | 0, 0 | 1, 1 | 2, 2 => absurd rfl distinct
    | 0, 1 => .inr ⟨_, lower, _, upper, rfl, acceptedLower, rfl, acceptedUpper, by decide⟩
    | 1, 0 => .inr ⟨_, upper, _, lower, rfl, acceptedUpper, rfl, acceptedLower, by decide⟩
    | 0, 2 => .inl (apart acceptedLower (by decide))
    | 1, 2 => .inl (apart acceptedUpper (by decide))
    | 2, 0 => .inl fun identity deleted created => apart acceptedLower (by decide) _ created deleted
    | 2, 1 => .inl fun identity deleted created => apart acceptedUpper (by decide) _ created deleted
  obtain ⟨alone, _, fair⟩ :=
    interleave_without_interference (by decide) quiet named single compatible
  refine ⟨quiet, named, single, compatible, fun turns fairly who => ?_⟩
  obtain ⟨count, ending, ended⟩ := fair turns fairly who
  exact ⟨count, by rw [← alone _ who ending ended]; exact ended⟩

end Service

end Stowage
