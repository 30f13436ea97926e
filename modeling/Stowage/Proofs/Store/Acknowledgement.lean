import Stowage.Proofs.Engine.Changes
import Stowage.Proofs.Engine.Deletion
import Stowage.Proofs.Identity.RoundTrip
import Stowage.Proofs.Store.Operations
import Stowage.Proofs.Store.Replay

/-! # Operations that return

An operation that returns has had its changes granted, as long as the service does not put off what
the engine asks for only once: the policy of a new container and the deletion of an old one.  The
store then holds what was asked for.
-/

namespace Stowage

open Engine

variable {τ : Type}

theorem CallResult.eq_ok {reply : CallResult} (kept : ∀ reason, reply ≠ .fatal reason)
    (final : ∀ reason, reply ≠ .transient reason) : reply = .ok := by
  cases reply with
  | ok => rfl
  | fatal reason => exact absurd rfl (kept reason)
  | transient reason => exact absurd rfl (final reason)

/-- The exchanges that belong to a queue. -/
def Run.exchangesOf {σ ε α : Type} (run : Run (Gateway.interface String) τ σ ε α)
    (queue : Script.Queue) : List (Exchange (Gateway.interface String) τ) :=
  run.exchanges.filter fun exchange => Script.Queue.of exchange.request = queue

namespace Engine

/-- Reading a container sends queries alone. -/
theorem queries_read {Handle σ : Type} (engine : Engine τ) (uri : String)
    (world : World (Gateway.interface Handle) τ σ) (state : σ) :
    ∀ exchange ∈ ((engine.read uri).run world state).exchanges,
      exchange.request.changes = false := by
  intro exchange member
  have obeys : (engine.read uri).Obeys
      (fun _ (request : Gateway.Request Handle) => request.changes = false) (fun _ _ => True) [] :=
    read_obeys engine uri (fun _ _ _ _ inquiry => inquiry.changes_eq_false) fun _ _ _ => trivial
  obtain ⟨earlier, later, split⟩ := List.append_of_mem member
  exact (Program.run_of_obeys obeys world state).2 earlier exchange later split

end Engine

namespace Service

variable [Timescale τ] {service : Service τ} (engine : Engine τ)

section Words

variable {ε α : Type} {program : Program (Gateway.interface String) τ ε α}
  {before after : List (Exchange (Gateway.interface String) τ)}
  {exchange : Exchange (Gateway.interface String) τ}
  (word : (program.run world service).exchanges = before ++ exchange :: after)

include word

/-- Behind its last change a run leaves the store alone. -/
theorem store_of_word (queries : ∀ query ∈ after, query.request.changes = false) :
    (program.run world service).state.store =
      (before.foldl Store.record service.store).record exchange := by
  rw [store_run, word, List.foldl_append, List.foldl_cons, Store.foldl_record_of_queries _ queries]

theorem exchangesOf_of_word {queue : Script.Queue}
    (own : Script.Queue.of exchange.request = queue)
    (others : ∀ other ∈ before ++ after, Script.Queue.of other.request ≠ queue) :
    (program.run world service).exchangesOf queue = [exchange] := by
  obtain ⟨othersBefore, othersAfter⟩ := List.forall_mem_append.mp others
  have nothing {exchanges : List (Exchange (Gateway.interface String) τ)}
      (others : ∀ other ∈ exchanges, Script.Queue.of other.request ≠ queue) :
      (exchanges.filter fun exchange => Script.Queue.of exchange.request = queue) = [] :=
    List.filter_eq_nil_iff.mpr fun other member => mt of_decide_eq_true (others other member)
  rw [Run.exchangesOf, word, List.filter_append, nothing othersBefore, List.nil_append,
    List.filter_cons, if_pos (decide_eq_true own), nothing othersAfter]

end Words

omit [Timescale τ] in
theorem queue_ne_of_query {request : Gateway.Request String} {queue : Script.Queue}
    (query : request.changes = false) (changing : queue = .policy ∨ queue = .delete) :
    Script.Queue.of request ≠ queue := by
  intro same
  rcases changing with rfl | rfl <;> cases request <;> cases same <;> cases query

/-- A creation that returns has had its policy granted. -/
theorem policy_of_create {config : Config} {outcome : Outcome} (decided : service.IsDecided)
    (returned : ((engine.create config).run world service).ending = .returned outcome) :
    let run := (engine.create config).run world service
    (∃ time, run.exchangesOf .policy =
      [⟨.setPolicy config.account config.name config.declaredHeader, .ok CallResult.ok, time⟩]) ∧
    run.state.store.policy? config.account config.name = some config.declaredHeader := by
  intro run
  obtain ⟨calls, word, creation⟩ := run_create engine config world service
  generalize ((engine.create config).run world service).ending = ending at creation returned
  cases creation with
  | @settled handle begun earlier created reply state passing kept =>
      have queries := queries_read engine (engine.identify config) world state
      generalize (engine.read (engine.identify config)).run world state = readBack at word queries
      rw [CreationCalls.word_of_policy] at word
      have named := isNamed_of_run (engine.create config) service
      have final := isFinal_of_run (engine.create config) decided
      rw [word] at named final
      obtain rfl : handle = config.account :=
        named _ (List.mem_append_left _ List.mem_cons_self)
      obtain rfl : reply = .ok := CallResult.eq_ok kept fun reason putOff => by
        subst putOff
        exact final _ (List.mem_append_right _ List.mem_cons_self)
      refine ⟨⟨_, exchangesOf_of_word word rfl fun other member => ?_⟩, ?_⟩
      · rcases List.mem_append.mp member with before | after
        · rcases List.mem_cons.mp before with rfl | tried
          · exact nofun
          · obtain ⟨attempt, _, rfl⟩ := List.mem_map.mp tried
            exact nofun
        · exact queue_ne_of_query (queries other after) (.inl rfl)
      · rw [store_of_word word queries]
        exact (Store.policy?_putPolicy ..).trans (if_pos ⟨rfl, rfl⟩)
  | _ => cases returned

/-- A creation returns if its policy was not refused and nothing is scripted for the reading. -/
theorem returned_of_kept {config : Config} {found created settled : Service τ} {reply : CallResult}
    (located : world.answer (.resolveAccount config.group config.account) service =
      (.ok (config.account, true), found))
    (tried : world.answer (.createIfMissing config.account config.name) found =
      (.ok CallResult.ok, created))
    (replied : world.answer (.setPolicy config.account config.name config.access.header) created =
      (.ok reply, settled))
    (kept : ∀ reason, reply ≠ .fatal reason) (quiet : settled.IsQuiet)
    (decoded : Identity.decode (engine.identify config) engine.environment.suffix =
      .ok ⟨config.account, config.name⟩) :
    let run := (engine.create config).run world service
    (∃ outcome, run.ending = .returned outcome) ∧ run.state = settled ∧
      run.exchangesOf .policy = [⟨.setPolicy config.account config.name config.access.header,
        .ok reply, settled.clock⟩] := by
  intro run
  obtain ⟨word, ended, left⟩ := run_create_of_kept engine config replied kept located tried
  obtain ⟨returned, untouched, _⟩ := yields_read_listed engine quiet decoded
  have queries := queries_read engine (engine.identify config) world settled
  generalize (engine.read (engine.identify config)).run world settled = readBack
    at word ended left returned untouched queries
  have cut : run.exchanges = [_, _] ++ _ :: readBack.exchanges := word
  refine ⟨⟨_, ended.trans returned⟩, left.trans untouched,
    exchangesOf_of_word cut rfl fun other member => ?_⟩
  rcases List.mem_append.mp member with before | after
  · rcases List.mem_cons.mp before with rfl | before
    · exact nofun
    · cases List.mem_singleton.mp before
      exact nofun
  · exact queue_ne_of_query (queries other after) (.inl rfl)

/-- A deletion that returns has been granted, if the account of the container was confirmed. -/
theorem container_of_delete {uri : String} (decided : service.IsDecided)
    (returned : ((engine.delete uri).run world service).ending = .returned ()) :
    let run := (engine.delete uri).run world service
    ∃ identity, Identity.decode uri engine.environment.suffix = .ok identity ∧
      ∀ group handle time,
        ⟨.resolveAccount group identity.account, .ok (handle, true), time⟩ ∈ run.exchanges →
        (∃ time, run.exchangesOf .delete =
          [⟨.deleteIfPresent identity.account identity.container, .ok CallResult.ok, time⟩]) ∧
        run.state.store.container? identity.account identity.container = none := by
  intro run
  have deletion := run_delete engine uri world service
  have named := isNamed_of_run (engine.delete uri) service
  have final := isFinal_of_run (engine.delete uri) decided
  rw [returned] at deletion
  generalize word : ((engine.delete uri).run world service).exchanges = exchanges
    at deletion named final
  cases deletion with
  | @gone identity _ decoded looked =>
      refine ⟨identity, decoded, fun group handle time confirmed => ?_⟩
      cases looked.confirmed_iff.mp ⟨group, time, confirmed⟩
  | @settled identity lookup handle decoded looked reply time kept =>
      refine ⟨identity, decoded, fun _ _ _ _ => ?_⟩
      obtain ⟨group, asked, confirmed⟩ := looked.confirmed_iff.mpr rfl
      obtain rfl : handle = identity.account :=
        named _ (List.mem_append_left _ confirmed)
      obtain rfl : reply = .ok := CallResult.eq_ok kept fun reason putOff => by
        subst putOff
        exact final _ (List.mem_append_right _ List.mem_cons_self)
      refine ⟨⟨_, exchangesOf_of_word word rfl fun other member => ?_⟩, ?_⟩
      · rw [List.append_nil] at member
        exact queue_ne_of_query (looked.queries other member) (.inr rfl)
      · rw [store_of_word word nofun]
        exact (Store.container?_dropContainer ..).trans (if_pos ⟨rfl, rfl⟩)

/-- What returns was granted, as long as no change of a policy and no deletion is put off: the policy
of a container that was created, and the deletion of one whose account was confirmed. -/
theorem granted_of_returned (decided : service.IsDecided) (engine : Engine τ) :
    (∀ document outcome,
      ((engine.createFrom document).run world service).ending = .returned outcome →
      let run := (engine.createFrom document).run world service
      ∃ config, Config.ofDocument document = .ok config ∧
        (∃ time, run.exchangesOf .policy =
          [⟨.setPolicy config.account config.name config.declaredHeader, .ok CallResult.ok,
            time⟩]) ∧
        run.state.store.policy? config.account config.name = some config.declaredHeader) ∧
    ∀ uri, ((engine.delete uri).run world service).ending = .returned () →
      let run := (engine.delete uri).run world service
      ∃ identity, Identity.decode uri engine.environment.suffix = .ok identity ∧
        ∀ group handle time,
          ⟨.resolveAccount group identity.account, .ok (handle, true), time⟩ ∈ run.exchanges →
          (∃ time, run.exchangesOf .delete =
            [⟨.deleteIfPresent identity.account identity.container, .ok CallResult.ok, time⟩]) ∧
          run.state.store.container? identity.account identity.container = none := by
  refine ⟨fun document outcome returned => ?_, fun uri => container_of_delete engine decided⟩
  cases accepted : Config.ofDocument document with
  | error rejection =>
      rw [engine.createFrom_of_error accepted, Program.run_ofLogged_error] at returned
      cases returned
  | ok config =>
      rw [engine.createFrom_of_ok accepted] at returned ⊢
      exact ⟨config, rfl, policy_of_create engine decided returned⟩

/-- A policy that takes its time is set in the end. -/
theorem granted_of_returned_slow :
    let engine : Engine Rat := ⟨Environment.publicCloud, ⟨120, 1, 10⟩, 0⟩
    let document : Document := .object [("name", .text "logs"), ("resource_group_name", .text "rg"),
      ("storage_account_name", .text "acct"), ("container_access_type", .text "blob")]
    let accounts := Store.empty.addAccount "acct" "rg"
    let slow : Service Rat :=
      { store := accounts
        clock := 0
        scripts := fun queue => if queue = .policy then [{ delay := some 3 }] else [] }
    let creation := (engine.createFrom document).run world slow
    slow.IsDecided ∧ (∃ outcome, creation.ending = .returned outcome) ∧
      creation.state.store.policy? "acct" "logs" = some "blob" := by
  intro engine document accounts slow creation
  have decided : slow.IsDecided := by
    rintro queue (rfl | rfl) script member reason
    · cases List.mem_singleton.mp member
      exact nofun
    · cases member
  let logs : Config := ⟨"logs", "rg", "acct", "blob", by decide, by decide⟩
  let created : Service Rat := { slow with store := accounts.createContainer "acct" "logs" }
  let settled : Service Rat :=
    { store := created.store.putPolicy "acct" "logs" logs.access.header
      clock := 0 + 3
      scripts := fun other => if other = .policy then [] else slow.scripts other }
  have decoded : Identity.decode (engine.identify logs) engine.environment.suffix =
      .ok ⟨"acct", "logs"⟩ :=
    Identity.decode_encode_config logs (by decide) (by decide) (by decide)
  have located : world.answer (.resolveAccount "rg" "acct") slow =
      (.ok ("acct", true), slow) := rfl
  have tried : world.answer (.createIfMissing "acct" "logs") slow =
      (.ok CallResult.ok, created) := rfl
  have replied : world.answer (.setPolicy "acct" "logs" logs.access.header) created =
      (.ok CallResult.ok, settled) := rfl
  have quiet : settled.IsQuiet := fun queue => by cases queue <;> rfl
  obtain ⟨⟨outcome, returned⟩, _, _⟩ := returned_of_kept engine located tried replied
    (fun reason same => by cases same) quiet decoded
  have accepted : Config.ofDocument document = .ok logs := rfl
  rw [← engine.createFrom_of_ok accepted] at returned
  obtain ⟨config, acceptedAs, _, stored⟩ :=
    (granted_of_returned decided engine).1 document outcome returned
  obtain rfl := Except.ok.inj (acceptedAs.symm.trans accepted)
  have header : logs.declaredHeader = "blob" := by decide
  exact ⟨decided, ⟨outcome, returned⟩, stored.trans (congrArg some header)⟩

end Service

namespace Engine

open Service

/-- A reply that puts a change off counts as if it had granted it: a creation returns although the
policy was never set, and a deletion returns although the container is still there. -/
theorem returns_when_put_off :
    let engine : Engine Rat := ⟨Environment.publicCloud, ⟨120, 1, 10⟩, 0⟩
    let logs : Config := ⟨"logs", "rg", "acct", "blob", by decide, by decide⟩
    let accounts := Store.empty.addAccount "acct" "rg"
    let busy (queue : Script.Queue) : Script.Queue → List (Script Rat) :=
      fun other => if other = queue then [{ reply := .transient "busy" }] else []
    let fresh : Service Rat := { store := accounts, clock := 0, scripts := busy .policy }
    let creation := (engine.create logs).run world fresh
    let deletion := (engine.delete (engine.identify logs)).run world
      { store := accounts.createContainer "acct" "logs", clock := 0, scripts := busy .delete }
    ((∃ outcome, creation.ending = .returned outcome) ∧
      creation.exchangesOf .policy =
        [⟨.setPolicy "acct" "logs" logs.access.header, .ok (CallResult.transient "busy"), 0⟩] ∧
      creation.state.store.policy? "acct" "logs" = none) ∧
    deletion.ending = .returned () ∧
      ⟨.resolveAccount "rg" "acct", .ok ("acct", true), 0⟩ ∈ deletion.exchanges ∧
      deletion.exchangesOf .delete =
        [⟨.deleteIfPresent "acct" "logs", .ok (CallResult.transient "busy"), 0⟩] ∧
      (deletion.state.store.container? "acct" "logs").isSome = true := by
  intro engine logs accounts busy fresh creation deletion
  have decoded : Identity.decode (engine.identify logs) engine.environment.suffix =
      .ok ⟨"acct", "logs"⟩ :=
    Identity.decode_encode_config logs (by decide) (by decide) (by decide)
  constructor
  · let created : Service Rat := { fresh with store := accounts.createContainer "acct" "logs" }
    let spent : Service Rat :=
      { created with scripts := fun other => if other = .policy then [] else busy .policy other }
    have located : world.answer (.resolveAccount "rg" "acct") fresh =
        (.ok ("acct", true), fresh) := rfl
    have tried : world.answer (.createIfMissing "acct" "logs") fresh =
        (.ok CallResult.ok, created) := rfl
    have replied : world.answer (.setPolicy "acct" "logs" logs.access.header) created =
        (.ok (CallResult.transient "busy"), spent) := rfl
    have quiet : spent.IsQuiet := fun queue => by cases queue <;> rfl
    obtain ⟨returned, left, policies⟩ := returned_of_kept engine located tried replied
      (fun reason same => by cases same) quiet decoded
    refine ⟨returned, policies, ?_⟩
    simp only [creation, left]
    rfl
  · simp only [deletion]
    unfold delete
    rw [engine.decode_of_ok decoded]
    exact ⟨rfl, List.mem_cons_of_mem _ List.mem_cons_self, rfl, rfl⟩

end Engine

end Stowage
