import Stowage.Proofs.Engine.Attempts
import Stowage.Proofs.Engine.Queries

/-! # The ways of a creation

A creation looks up the account, tries to create the container, sets the policy and reads the
container back, and it can stop behind each of these phases.  `Creation` lists the ways in which it
can go, and `run_create` shows that there are no others.
-/

namespace Stowage

theorem Config.access_name (config : Config) :
    config.access.name = AccessType.normalized config.accessText := by
  have known : AccessType.ofText? config.accessText = some config.access :=
    (Option.some_get config.access_known).symm
  unfold AccessType.ofText? at known
  exact beq_iff_eq.mp (List.find?_some known :)

/-- The header that a declaration asks for: none for a private container, and otherwise the access
type in lower case. -/
def Config.declaredHeader (config : Config) : String :=
  if AccessType.normalized config.accessText = AccessType.closed.name then ""
  else AccessType.normalized config.accessText

theorem Config.access_header (config : Config) :
    config.access.header = config.declaredHeader := by
  rw [declaredHeader, ← config.access_name]
  cases config.access <;> decide

namespace Engine

open Retry

variable {Handle τ σ : Type}

/-- The calls of a creation, phase by phase. -/
structure CreationCalls (Handle τ : Type) where
  account : Except String (Handle × Bool)
  /-- The time of that reply, at which the attempts begin. -/
  begun : τ
  tries : List (Try τ) := []
  policy : Option (Try τ) := none
  readBack : List (Exchange (Gateway.interface Handle) τ) := []

namespace CreationCalls

/-- The exchanges that the phases stand for. -/
def word (config : Config) (calls : CreationCalls Handle τ) :
    List (Exchange (Gateway.interface Handle) τ) :=
  ⟨.resolveAccount config.group config.account, calls.account, calls.begun⟩ ::
    match calls.account with
    | .error _ => []
    | .ok (handle, _) =>
      calls.tries.map (Try.exchange handle config.name) ++
      calls.policy.toList.map (fun reply =>
        ⟨.setPolicy handle config.name config.declaredHeader, reply.reply, reply.time⟩) ++
      calls.readBack

/-- The word of a creation that got as far as the policy, cut where the policy is set. -/
theorem word_of_policy (config : Config) (handle : Handle) (present : Bool) (begun : τ)
    (tries : List (Try τ)) (policy : Try τ)
    (readBack : List (Exchange (Gateway.interface Handle) τ)) :
    (⟨.ok (handle, present), begun, tries, some policy, readBack⟩ :
        CreationCalls Handle τ).word config =
      (⟨.resolveAccount config.group config.account, .ok (handle, present), begun⟩ ::
          tries.map (Try.exchange handle config.name)) ++
        ⟨.setPolicy handle config.name config.declaredHeader, policy.reply, policy.time⟩ ::
          readBack :=
  congrArg (List.cons _) (List.append_assoc _ [_] _)

end CreationCalls

/-- When it is too late for another attempt, if the attempts began at the given time. -/
def deadline [Timescale τ] (engine : Engine τ) (begun : τ) : τ :=
  Timescale.add begun engine.schedule.timeout

variable [Timescale τ] (engine : Engine τ) (config : Config)
  (world : World (Gateway.interface Handle) τ σ)

/-- The ways in which a creation can go, and how each of them ends.  Where there were attempts, all
but the last one were passing. -/
inductive Creation : CreationCalls Handle τ → Ending (Failure τ) Outcome → Prop where
  | unresolved (text : String) (begun : τ) :
      Creation ⟨.error text, begun, [], none, []⟩ (.raised text)
  | missing (handle : Handle) (begun : τ) :
      Creation ⟨.ok (handle, false), begun, [], none, []⟩ (.failed (.accountMissing config.account))
  | raised (handle : Handle) {begun : τ} {earlier : List (Try τ)} (text : String) (time : τ)
      (passing : ∀ attempt ∈ earlier, attempt.IsPassing (engine.deadline begun)) :
      Creation ⟨.ok (handle, true), begun, earlier ++ [⟨.error text, time⟩], none, []⟩
        (.raised text)
  | refused (handle : Handle) {begun : τ} {earlier : List (Try τ)} (reason : String) (time : τ)
      (passing : ∀ attempt ∈ earlier, attempt.IsPassing (engine.deadline begun)) :
      Creation ⟨.ok (handle, true), begun, earlier ++ [⟨.ok (.fatal reason), time⟩], none, []⟩
        (.failed (.remote (.ofCreate config.name config.account (.reply (.fatal reason)))))
  | late (handle : Handle) {begun : τ} {earlier : List (Try τ)} (reason : String) {time : τ}
      (passing : ∀ attempt ∈ earlier, attempt.IsPassing (engine.deadline begun))
      (late : Timescale.le (engine.deadline begun) time = true) :
      Creation ⟨.ok (handle, true), begun, earlier ++ [⟨.ok (.transient reason), time⟩], none, []⟩
        (.failed (.remote (.ofCreate config.name config.account
          (.timedOut engine.schedule.timeout (earlier.length + 1) reason))))
  | cutOff (handle : Handle) {begun : τ} {earlier : List (Try τ)} {last : Try τ}
      (passing : ∀ attempt ∈ earlier ++ [last], attempt.IsPassing (engine.deadline begun))
      (exhausted : earlier.length = engine.limit) :
      Creation ⟨.ok (handle, true), begun, earlier ++ [last], none, []⟩ .unfinished
  | policyRaised (handle : Handle) {begun : τ} {earlier : List (Try τ)} (created : τ)
      (text : String) (time : τ)
      (passing : ∀ attempt ∈ earlier, attempt.IsPassing (engine.deadline begun)) :
      Creation ⟨.ok (handle, true), begun, earlier ++ [⟨.ok .ok, created⟩],
        some ⟨.error text, time⟩, []⟩ (.raised text)
  | policyRefused (handle : Handle) {begun : τ} {earlier : List (Try τ)} (created : τ)
      (reason : String) (time : τ)
      (passing : ∀ attempt ∈ earlier, attempt.IsPassing (engine.deadline begun)) :
      Creation ⟨.ok (handle, true), begun, earlier ++ [⟨.ok .ok, created⟩],
        some ⟨.ok (.fatal reason), time⟩, []⟩
        (.failed (.remote (.ofPolicy config.name config.account reason)))
  | settled (handle : Handle) {begun : τ} {earlier : List (Try τ)} (created : τ)
      (reply : CallResult) (state : σ)
      (passing : ∀ attempt ∈ earlier, attempt.IsPassing (engine.deadline begun))
      (kept : ∀ reason, reply ≠ .fatal reason) :
      Creation ⟨.ok (handle, true), begun, earlier ++ [⟨.ok .ok, created⟩],
        some ⟨.ok reply, world.now state⟩,
        ((engine.read (engine.identify config)).run world state).exchanges⟩
        ((engine.read (engine.identify config)).run world state).ending

/-- The calls of a run that sets the policy and, unless that is refused, reads the container. -/
theorem run_settle (handle : Handle) {begun : τ} {earlier : List (Try τ)} (created : τ)
    (passing : ∀ attempt ∈ earlier, attempt.IsPassing (engine.deadline begun)) (state : σ) :
    ∃ policy readBack,
      ((engine.settle config handle).run world state).exchanges =
        ⟨.setPolicy handle config.name config.declaredHeader, policy.reply, policy.time⟩ ::
          readBack ∧
      Creation engine config world
        ⟨.ok (handle, true), begun, earlier ++ [⟨.ok .ok, created⟩], some policy, readBack⟩
        ((engine.settle config handle).run world state).ending := by
  unfold settle
  rw [config.access_header, Program.run_report_bind, Run.exchanges_after_noted, Run.ending_after]
  rcases answered : world.answer (.setPolicy handle config.name config.declaredHeader) state
    with ⟨reply, after⟩
  cases reply with
  | error text =>
      rw [run_ask_of_error answered]
      exact ⟨⟨.error text, world.now after⟩, [], rfl, .policyRaised handle created text _ passing⟩
  | ok reply =>
      rw [run_ask_of_ok answered, Run.exchanges_after_called, Run.ending_after]
      cases reply with
      | fatal reason =>
          exact ⟨⟨.ok (.fatal reason), world.now after⟩, [], rfl,
            .policyRefused handle created reason _ passing⟩
      | ok =>
          exact ⟨⟨.ok .ok, world.now after⟩,
            ((engine.read (engine.identify config)).run world after).exchanges, rfl,
            .settled handle created .ok after passing nofun⟩
      | transient reason =>
          exact ⟨⟨.ok (.transient reason), world.now after⟩,
            ((engine.read (engine.identify config)).run world after).exchanges, rfl,
            .settled handle created (.transient reason) after passing nofun⟩

/-- The calls of a run that tries to create the container of a confirmed account. -/
theorem run_createUnder (handle : Handle) (state : σ) :
    ∃ tries policy readBack,
      ((engine.createUnder config handle).run world state).exchanges =
        tries.map (Try.exchange handle config.name) ++
        ((policy : Option (Try τ)).toList.map fun reply =>
          ⟨.setPolicy handle config.name config.declaredHeader, reply.reply, reply.time⟩) ++
        readBack ∧
      Creation engine config world
        ⟨.ok (handle, true), world.now state, tries, policy, readBack⟩
        ((engine.createUnder config handle).run world state).ending := by
  obtain ⟨earlier, last, tried, passing, ended, exhausted⟩ :=
    run_run world engine.schedule s!"create container '{config.name}'" handle config.name
      engine.limit state
  unfold createUnder
  rw [Program.run_report_bind, Run.exchanges_after_noted, Run.ending_after, Program.run_bind]
  generalize (Retry.run engine.schedule engine.limit s!"create container '{config.name}'"
    (ask (.createIfMissing handle config.name))).run world state = attempted at *
  obtain ⟨reply, time⟩ := last
  rcases reply with text | _ | reason | reason
  · obtain ⟨exchanges, ending⟩ := Run.andThen_of_raised _ ended
    rw [exchanges, ending, tried]
    exact ⟨_, none, [], by simp, .raised handle text time passing⟩
  · obtain ⟨exchanges, ending, _⟩ := Run.andThen_of_returned _ ended
    obtain ⟨policy, readBack, settling, creation⟩ :=
      run_settle engine config world handle time passing attempted.state
    rw [exchanges, ending, tried]
    refine ⟨_, some policy, readBack, ?_, creation⟩
    rw [List.append_assoc]
    exact congrArg _ settling
  · cases late : Timescale.le (engine.deadline (world.now state)) time with
    | true =>
        obtain ⟨exchanges, ending, _⟩ := Run.andThen_of_returned _ (ended.trans (if_pos late))
        rw [exchanges, ending, tried]
        exact ⟨_, none, [], (List.append_nil _).symm, .late handle reason passing late⟩
    | false =>
        -- Early enough for another attempt, so the series was cut off by its limit.
        have ongoing : Try.IsPassing (engine.deadline (world.now state))
            ⟨.ok (.transient reason), time⟩ := ⟨⟨reason, rfl⟩, late⟩
        have unfinished := ended.trans (Try.ending_of_isPassing ongoing)
        obtain ⟨exchanges, ending⟩ := Run.andThen_of_unfinished _ unfinished
        rw [exchanges, ending, tried]
        refine ⟨earlier ++ [⟨.ok (.transient reason), time⟩], none, [], by simp,
          .cutOff handle ?_ (exhausted unfinished)⟩
        intro attempt member
        rcases List.mem_append.mp member with member | member
        · exact passing attempt member
        · rw [List.mem_singleton.mp member]
          exact ongoing
  · obtain ⟨exchanges, ending, _⟩ := Run.andThen_of_returned _ ended
    rw [exchanges, ending, tried]
    exact ⟨_, none, [], (List.append_nil _).symm, .refused handle reason time passing⟩

theorem run_create (state : σ) :
    ∃ calls : CreationCalls Handle τ,
      ((engine.create config).run world state).exchanges = calls.word config ∧
      Creation engine config world calls ((engine.create config).run world state).ending := by
  unfold create
  rcases answered : world.answer (.resolveAccount config.group config.account) state
    with ⟨reply, found⟩
  cases reply with
  | error text =>
      rw [run_ask_of_error answered]
      exact ⟨⟨.error text, world.now found, [], none, []⟩, rfl, .unresolved text _⟩
  | ok reply =>
      rw [run_ask_of_ok answered]
      obtain ⟨handle, present⟩ := reply
      cases present with
      | false =>
          exact ⟨⟨.ok (handle, false), world.now found, [], none, []⟩, rfl, .missing handle _⟩
      | true =>
          obtain ⟨tries, policy, readBack, exchanges, creation⟩ :=
            run_createUnder engine config world handle found
          refine ⟨⟨.ok (handle, true), world.now found, tries, policy, readBack⟩, ?_, creation⟩
          exact congrArg (List.cons _) exchanges

section Granted

variable {world} {state found created settled : σ} {handle : Handle}

theorem run_run_of_ok (tried : world.answer (.createIfMissing handle config.name) found =
      (.ok CallResult.ok, created)) :
    (Retry.run engine.schedule engine.limit s!"create container '{config.name}'"
        (ask (.createIfMissing handle config.name)) : Operation Handle τ (Attempted τ)).run world
        found =
      ⟨[.called ⟨.createIfMissing handle config.name, .ok CallResult.ok, world.now created⟩],
        .returned .ok, created⟩ := by
  unfold Retry.run
  rw [Program.run_now_bind]
  cases engine.limit with
  | zero => exact run_ask_of_ok tried _
  | succ limit => exact run_ask_of_ok tried _

variable {reply : CallResult} (replied : world.answer
    (.setPolicy handle config.name config.access.header) created = (.ok reply, settled))
  (kept : ∀ reason, reply ≠ .fatal reason)

include replied kept

omit [Timescale τ] in
theorem run_settle_of_kept :
    (engine.settle config handle).run world created =
      (((engine.read (engine.identify config)).run world settled).after
        (.called ⟨Gateway.Request.setPolicy handle config.name config.access.header, .ok reply,
          world.now settled⟩)).after (.noted (.settingAccess config.access.name config.name)) := by
  unfold settle
  generalize engine.read (engine.identify config) = reading
  rw [Program.run_report_bind, run_ask_of_ok replied]
  cases reply with
  | ok => rfl
  | fatal reason => exact absurd rfl (kept reason)
  | transient reason => rfl

section Located

variable (located : world.answer (.resolveAccount config.group config.account) state =
    (.ok (handle, true), found))
  (tried : world.answer (.createIfMissing handle config.name) found =
    (.ok CallResult.ok, created))

include located tried

/-- A creation to which nothing is refused sends three requests and then reads the container. -/
theorem run_create_eq :
    (engine.create config).run world state =
      ⟨.called ⟨Gateway.Request.resolveAccount config.group config.account, .ok (handle, true),
          world.now found⟩ ::
        .noted (.creating config.name config.account) ::
        .called ⟨Gateway.Request.createIfMissing handle config.name, .ok CallResult.ok,
          world.now created⟩ ::
        .noted (.settingAccess config.access.name config.name) ::
        .called ⟨Gateway.Request.setPolicy handle config.name config.access.header, .ok reply,
          world.now settled⟩ ::
        ((engine.read (engine.identify config)).run world settled).actions,
        ((engine.read (engine.identify config)).run world settled).ending,
        ((engine.read (engine.identify config)).run world settled).state⟩ := by
  have looked : (engine.create config).run world state =
      ((engine.createUnder config handle).run world found).after _ := run_ask_of_ok located _
  rw [looked]
  unfold createUnder
  rw [Program.run_report_bind, Program.run_bind, run_run_of_ok engine config tried]
  unfold Run.andThen
  dsimp only
  rw [run_settle_of_kept engine config replied kept]
  generalize (engine.read (engine.identify config)).run world settled = reading
  rfl

/-- A creation to which nothing is refused ends with reading the container. -/
theorem run_create_of_kept :
    let run := (engine.create config).run world state
    run.exchanges =
        ⟨.resolveAccount config.group config.account, .ok (handle, true), world.now found⟩ ::
          ⟨.createIfMissing handle config.name, .ok CallResult.ok, world.now created⟩ ::
          ⟨.setPolicy handle config.name config.access.header, .ok reply, world.now settled⟩ ::
          ((engine.read (engine.identify config)).run world settled).exchanges ∧
      run.ending = ((engine.read (engine.identify config)).run world settled).ending ∧
      run.state = ((engine.read (engine.identify config)).run world settled).state := by
  intro run
  have whole : run = _ := run_create_eq engine config replied kept located tried
  rw [whole]
  generalize (engine.read (engine.identify config)).run world settled = reading
  exact ⟨rfl, rfl, rfl⟩

/-- The only waits of a creation to which nothing is refused are those of its reading. -/
theorem pauses_create_of_kept :
    ((engine.create config).run world state).pauses =
      ((engine.read (engine.identify config)).run world settled).pauses := by
  rw [run_create_eq engine config replied kept located tried]
  generalize (engine.read (engine.identify config)).run world settled = reading
  rfl

end Located

end Granted

end Engine

end Stowage
