import Stowage.Store
import Stowage.Timescale

/-! # Services

A store with a clock, whose replies can be scripted.  There is a queue of scripted replies for
each kind of request; a request takes the next one of its queue, and the store answers when the
queue is empty or the script says so.
-/

namespace Stowage

/-- A reply that is laid down in advance.  There is none that grants a change by itself: what is
scripted to end well is `usual`, which leaves it to the store to make the change and to grant it. -/
inductive Script.Reply where
  | usual
  | raised (text : String)
  | transient (reason : String)
  | fatal (reason : String)
  | group (name : Option String)
  | presence (there : Bool)
  | entries (listing : List Properties)

/-- A scripted reply and the time that passes before it comes. -/
structure Script (τ : Type) where
  delay : Option τ := none
  reply : Script.Reply := .usual

namespace Script

inductive Queue where
  | group
  | account
  | create
  | policy
  | list
  | probe
  | delete
deriving DecidableEq, Repr

def Queue.of {Handle : Type} : Gateway.Request Handle → Queue
  | .resolveGroup _ => .group
  | .resolveAccount _ _ => .account
  | .createIfMissing _ _ => .create
  | .setPolicy _ _ _ => .policy
  | .list _ _ => .list
  | .probe _ _ => .probe
  | .deleteIfPresent _ _ => .delete

def Reply.callResult? : Reply → Option CallResult
  | .transient reason => some (.transient reason)
  | .fatal reason => some (.fatal reason)
  | _ => none

/-- What a script says to a request; none where it leaves the answer to the store. -/
def Reply.to? (reply : Reply) :
    (request : Gateway.Request String) → Option (Gateway.Reply request)
  | .resolveGroup _ => match reply with
    | .group name => some name
    | _ => none
  | .resolveAccount _ account => match reply with
    | .presence there => some (account, there)
    | _ => none
  | .createIfMissing _ _ => reply.callResult?
  | .setPolicy _ _ _ => reply.callResult?
  | .list _ _ => match reply with
    | .fatal reason => some (Except.error reason)
    | .entries listing => some (Except.ok listing)
    | _ => none
  | .probe _ _ => match reply with
    | .fatal reason => some (Except.error reason)
    | .presence there => some (Except.ok there)
    | _ => none
  | .deleteIfPresent _ _ => reply.callResult?

end Script

/-- A store with a clock and scripted replies. -/
structure Service (τ : Type) where
  store : Store := .empty
  clock : τ
  /-- The scripted replies that are left, by queue. -/
  scripts : Script.Queue → List (Script τ) := fun _ => []

namespace Service

variable {τ : Type} [Timescale τ]

def advance (service : Service τ) (span : τ) : Service τ :=
  { service with clock := Timescale.add service.clock span }

/-- The service when a delayed reply comes. -/
def delay (service : Service τ) : Option τ → Service τ
  | some span => service.advance span
  | none => service

def enqueue (service : Service τ) (queue : Script.Queue) (scripts : List (Script τ)) :
    Service τ :=
  { service with
    scripts := fun other =>
      if other = queue then service.scripts other ++ scripts else service.scripts other }

/-- The next scripted reply of a queue, and the service without it. -/
def next (service : Service τ) (queue : Script.Queue) : Script τ × Service τ :=
  match service.scripts queue with
  | [] => ({}, service)
  | script :: rest =>
    (script, { service with
      scripts := fun other => if other = queue then rest else service.scripts other })

def answer (service : Service τ) (request : Gateway.Request String) :
    Except String (Gateway.Reply request) × Service τ :=
  let (script, rest) := service.next (Script.Queue.of request)
  let rest := rest.delay script.delay
  match script.reply with
  | .raised text => (.error text, rest)
  | reply =>
    match reply.to? request with
    | some answer => (.ok answer, rest)
    | none =>
      match rest.store.answer request with
      | .ok (answer, store) => (.ok answer, { rest with store })
      | .error text => (.error text, rest)

def world : World (Gateway.interface String) τ (Service τ) where
  now service := service.clock
  pause span service := service.advance span
  answer request service := service.answer request

/-- No creation is repeated more often than this, for the store itself puts none off. -/
def attemptLimit (service : Service τ) : Nat :=
  (service.scripts .create).length

end Service

end Stowage
