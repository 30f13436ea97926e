import Stowage.Interleaving
import Stowage.Proofs.Runs

/-! # Schedules

A run of one client on its own and a session of operations one after the other are schedules among
others (`exists_schedule_run`, `exists_schedule_session`).  In a fair schedule every client ends
(`Program.ends`).
-/

namespace Stowage

variable {I : Interface} {τ σ ε α ι : Type} [DecidableEq ι] {world : World I τ σ}

namespace Ensemble

variable {ensemble : Ensemble I τ σ ε α ι} {who : ι}

theorem interleave_append (earlier later : List ι) :
    ensemble.interleave world (earlier ++ later) =
      (ensemble.interleave world earlier).interleave world later :=
  List.foldl_append

theorem interleave_cons_of_running {program : Program I τ ε α} {client : Client I τ ε α} {after : σ}
    (running : ensemble.clients who = .running program)
    (acts : program.act world ensemble.state = (client, after)) (rest : List ι) :
    ensemble.interleave world (who :: rest) =
      (ensemble.set who client after).interleave world rest := by
  refine congrArg (interleave world · rest) ?_
  rw [turn, running, Client.act, acts]

theorem clients_turn_of_ended {ending : Ending ε α} (ended : ensemble.clients who = .ended ending)
    (other : ι) : (ensemble.turn world other).clients who = .ended ending := by
  unfold turn
  by_cases same : who = other
  · rw [← same, ended, clients_set_self]
    rfl
  · rw [clients_set_of_ne _ _ _ _ same, ended]

theorem clients_interleave_of_ended {ending : Ending ε α}
    (ended : ensemble.clients who = .ended ending) (schedule : List ι) :
    (ensemble.interleave world schedule).clients who = .ended ending := by
  induction schedule generalizing ensemble with
  | nil => exact ended
  | cons other rest ih => exact ih (clients_turn_of_ended ended other)

theorem exists_schedule_of_act {program next : Program I τ ε α} {client : Client I τ ε α}
    {after last : σ} (running : ensemble.clients who = .running program)
    (acts : program.act world ensemble.state = (.running next, after))
    (rest : ∃ schedule, (ensemble.set who (.running next) after).interleave world schedule =
      (ensemble.set who (.running next) after).set who client last) :
    ∃ schedule, ensemble.interleave world schedule = ensemble.set who client last := by
  obtain ⟨schedule, same⟩ := rest
  rw [set_set] at same
  exact ⟨who :: schedule, (interleave_cons_of_running running acts schedule).trans same⟩

/-- A client that alone has turns goes through the run of its program. -/
theorem exists_schedule_run {program : Program I τ ε α}
    (running : ensemble.clients who = .running program) :
    ∃ schedule, ensemble.interleave world schedule =
      ensemble.set who (.ended (program.run world ensemble.state).ending)
        (program.run world ensemble.state).state := by
  induction program generalizing ensemble with
  | done value => exact ⟨[who], interleave_cons_of_running running rfl []⟩
  | fail error => exact ⟨[who], interleave_cons_of_running running rfl []⟩
  | unfinished => exact ⟨[who], interleave_cons_of_running running rfl []⟩
  | note event rest ih =>
      exact exists_schedule_of_act running rfl (ih (clients_set_self ..))
  | time rest ih =>
      exact exists_schedule_of_act running rfl (ih _ (clients_set_self ..))
  | pause span rest ih =>
      exact exists_schedule_of_act running rfl (ih (clients_set_self ..))
  | call request rest ih =>
      rcases answered : world.answer request ensemble.state with ⟨reply, after⟩
      cases reply with
      | ok reply =>
          have acts : (Program.call request rest).act world ensemble.state =
              (.running (rest reply), after) := by
            simp only [Program.act, answered]
          rw [Program.run_call_of_ok answered rest]
          exact exists_schedule_of_act running acts (ih _ (clients_set_self ..))
      | error text =>
          have acts : (Program.call request rest).act world ensemble.state =
              (.ended (.raised text), after) := by
            simp only [Program.act, answered]
          rw [Program.run_call_of_error answered rest]
          exact ⟨[who], interleave_cons_of_running running acts []⟩

/-! ## Sessions -/

section Session

variable {Handle : Type} [Timescale τ] (engine : Engine τ)
  (world : World (Gateway.interface Handle) τ σ)

omit [DecidableEq ι] in
theorem sessionState_cons (command : Command) (rest : List Command) (state : σ) :
    sessionState engine world (command :: rest) state =
      sessionState engine world rest ((command.program engine).run world state).state := by
  simp only [sessionState, session, List.getLast?_cons, Option.map_some, Option.getD_some]
  cases (session engine world rest ((command.program engine).run world state).state).getLast? <;>
    rfl

/-- Clients that have their turns one after the other go through a session. -/
theorem exists_schedule_session
    {ensemble : Ensemble (Gateway.interface Handle) τ σ (Failure τ) Answer ι}
    {commands : ι → Command} {order : List ι} (once : order.Nodup)
    (waiting : ∀ who ∈ order,
      ensemble.clients who = .running ((commands who).program engine)) :
    ∃ schedule,
      (ensemble.interleave world schedule).state =
        sessionState engine world (order.map commands) ensemble.state ∧
      ∀ who ∈ order, ∃ ending,
        (ensemble.interleave world schedule).clients who = .ended ending := by
  -- The rest starts where the run of the first client ends, with its clients still waiting.
  induction order generalizing ensemble with
  | nil => exact ⟨[], rfl, nofun⟩
  | cons who rest ih =>
      obtain ⟨first, alone⟩ := exists_schedule_run (waiting who List.mem_cons_self)
      obtain ⟨fresh, onceRest⟩ := List.nodup_cons.mp once
      have waitingRest : ∀ other ∈ rest, (ensemble.interleave world first).clients other =
          .running ((commands other).program engine) := by
        intro other member
        have distinct : other ≠ who := fun same => fresh (same ▸ member)
        rw [alone, clients_set_of_ne _ _ _ _ distinct]
        exact waiting other (List.mem_cons_of_mem who member)
      obtain ⟨later, left, ended⟩ := ih onceRest waitingRest
      refine ⟨first ++ later, ?_, fun other member => ?_⟩
      · rw [interleave_append, left, alone, state_set, List.map_cons, sessionState_cons]
      · rw [interleave_append]
        rcases List.mem_cons.mp member with rfl | member
        · exact ⟨_, clients_interleave_of_ended (by rw [alone, clients_set_self]) later⟩
        · exact ended other member

end Session

/-! ## Fair schedules -/

variable (world) in
/-- Up to its first turn a client stays as it is. -/
theorem exists_first_turn {client : Client I τ ε α} {turns : Nat → ι} {count : Nat}
    (chosen : turns count = who) (waiting : ensemble.clients who = client) :
    ∃ first, turns first = who ∧
      (ensemble.interleave world ((List.range first).map turns)).clients who = client := by
  induction count generalizing ensemble turns with
  | zero => exact ⟨0, chosen, waiting⟩
  | succ count ih =>
      by_cases now : turns 0 = who
      · exact ⟨0, now, waiting⟩
      · have still : (ensemble.turn world (turns 0)).clients who = client := by
          rw [turn, clients_set_of_ne _ _ _ _ (Ne.symm now), waiting]
        let others (later : Nat) : ι := turns (later + 1)
        have chosenLater : others count = who := chosen
        obtain ⟨first, there, same⟩ := ih chosenLater still
        refine ⟨first + 1, there, ?_⟩
        rw [List.range_succ_eq_map, List.map_cons, List.map_map]
        exact same

end Ensemble

open Ensemble

omit [DecidableEq ι] in
theorem IsFair.later {turns : Nat → ι} (fair : IsFair turns) (first : Nat) :
    IsFair fun count => turns (first + count) := by
  intro who start
  obtain ⟨count, chosen⟩ := fair who (first + start)
  exact ⟨count, by simpa only [Nat.add_assoc] using chosen⟩

/-- In a state like this the client ends in every fair schedule. -/
def Client.Ends (world : World I τ σ) (who : ι) (client : Client I τ ε α) : Prop :=
  ∀ (ensemble : Ensemble I τ σ ε α ι) (turns : Nat → ι), IsFair turns →
    ensemble.clients who = client →
    ∃ count ending, (ensemble.interleave world ((List.range count).map turns)).clients who =
      .ended ending

theorem Client.ends_of_act {who : ι} {client : Client I τ ε α}
    (next : ∀ state, (client.act world state).1.Ends world who) : client.Ends world who := by
  intro ensemble turns fair waiting
  obtain ⟨count, chosen⟩ := fair who 0
  obtain ⟨first, there, still⟩ := exists_first_turn world chosen waiting
  let before := ensemble.interleave world ((List.range first).map turns)
  have acted : (before.turn world who).clients who = (client.act world before.state).1 := by
    rw [turn, clients_set_self, show before.clients who = client from still]
  obtain ⟨count, ending, ended⟩ := next _ _ _ (fair.later (first + 1)) acted
  refine ⟨first + 1 + count, ending, ?_⟩
  rw [List.range_add, List.map_append, interleave_append, List.range_succ, List.map_append,
    interleave_append, List.map_singleton, there, List.map_map]
  exact ended

theorem Program.ends (who : ι) (program : Program I τ ε α) :
    (Client.running program).Ends world who := by
  have ended (ending : Ending ε α) : (Client.ended ending : Client I τ ε α).Ends world who :=
    fun ensemble turns fair waiting => ⟨0, ending, waiting⟩
  -- A turn leaves a part of the program, whatever state it is taken in.
  induction program with
  | done value => exact Client.ends_of_act fun state => ended _
  | fail error => exact Client.ends_of_act fun state => ended _
  | unfinished => exact Client.ends_of_act fun state => ended _
  | note event rest ih => exact Client.ends_of_act fun state => ih
  | time rest ih => exact Client.ends_of_act fun state => ih _
  | pause span rest ih => exact Client.ends_of_act fun state => ih
  | call request rest ih =>
      refine Client.ends_of_act fun state => ?_
      simp only [Client.act, act]
      rcases world.answer request state with ⟨_ | reply, after⟩
      · exact ended _
      · exact ih reply

end Stowage
