import Stowage.Gateway
import Stowage.Table
import Stowage.Text.Quoted

/-! # Stores

A storage service in memory: which groups own which accounts, which accounts exist, and the
containers and access policies of each account.

An account is added together with its table of containers, and a table is never taken away: an
account that is dropped leaves it behind.  So every account that exists has one, which is a part of
what a store is.  Of an account that was never added there may be none, and then whatever has to
look into it fails.
-/

namespace Stowage

structure Store where
  /-- The resource group of an account. -/
  groups : Table String
  accounts : Table Unit
  containers : Table (Table Properties)
  /-- The public-access header of a container. -/
  policies : Table (Table String)
  tabled : ∀ account, accounts.contains account = true → containers.contains account = true

namespace Store

def empty : Store where
  groups := Table.empty
  accounts := Table.empty
  containers := Table.empty
  policies := Table.empty
  tabled _ known := known

def newContainer (name : String) : Properties where
  name
  lastModified := .text "2024-05-01T12:00:00+00:00"
  leaseStatus := .text "unlocked"
  leaseState := .text "available"

/-- The containers of an account, none where it has no table of them. -/
def containersOf (store : Store) (account : String) : Table Properties :=
  (store.containers.get? account).getD Table.empty

def container? (store : Store) (account name : String) : Option Properties :=
  (store.containersOf account).get? name

def policy? (store : Store) (account name : String) : Option String :=
  ((store.policies.get? account).getD Table.empty).get? name

/-- Whether the account exists and belongs to the group. -/
def owns (store : Store) (group account : String) : Bool :=
  store.accounts.contains account && store.groups.get? account == some group

def putContainer (store : Store) (account name : String) (properties : Properties) : Store :=
  { store with
    containers := store.containers.insert account
      ((store.containersOf account).insert name properties)
    tabled := fun other known => Table.contains_insert_of_contains (store.tabled other known) }

def addAccount (store : Store) (account group : String) : Store :=
  { store with
    groups := store.groups.insert account group
    accounts := store.accounts.insert account ()
    containers := store.containers.insert account (store.containersOf account)
    tabled := fun other known => by
      rw [Table.contains_insert, Bool.or_eq_true] at known ⊢
      exact known.imp_right (store.tabled other) }

def dropGroup (store : Store) (account : String) : Store :=
  { store with groups := store.groups.erase account }

/-- The account is gone, its table of containers stays. -/
def dropAccount (store : Store) (account : String) : Store :=
  { store with
    accounts := store.accounts.erase account
    tabled := fun other known => store.tabled other (Table.contains_of_contains_erase known) }

/-- Adds a new container unless there is one of that name. -/
def createContainer (store : Store) (account name : String) : Store :=
  match store.container? account name with
  | some _ => store
  | none => store.putContainer account name (newContainer name)

def dropContainer (store : Store) (account name : String) : Store :=
  match store.containers.get? account with
  | none => store
  | some containers =>
    { store with
      containers := store.containers.insert account (containers.erase name)
      tabled := fun other known => Table.contains_insert_of_contains (store.tabled other known) }

def putPolicy (store : Store) (account name header : String) : Store :=
  { store with
    policies := store.policies.insert account
      (((store.policies.get? account).getD Table.empty).insert name header) }

/-- The containers of an account whose names begin with a text, by name. -/
def listing (store : Store) (account beginning : String) : List Properties :=
  ((store.containersOf account).entries.filter fun entry =>
    beginning.toList.isPrefixOf entry.1.toList).map Prod.snd

/-- What the store replies to a request, and what it makes of the store.  Accounts are their own
handles. -/
def reply (store : Store) :
    (request : Gateway.Request String) → Gateway.Reply request × Store
  | .resolveGroup account => (store.groups.get? account, store)
  | .resolveAccount group account => ((account, store.owns group account), store)
  | .createIfMissing account name => (CallResult.ok, store.createContainer account name)
  | .setPolicy account name header => (CallResult.ok, store.putPolicy account name header)
  | .list account beginning => (Except.ok (store.listing account beginning), store)
  | .probe account name => (Except.ok (store.container? account name).isSome, store)
  | .deleteIfPresent account name => (CallResult.ok, store.dropContainer account name)

/-- The account whose table of containers a request looks into. -/
def tableOf? : Gateway.Request String → Option String
  | .createIfMissing account _ | .list account _ | .probe account _ | .deleteIfPresent account _ =>
    some account
  | .resolveGroup _ | .resolveAccount _ _ | .setPolicy _ _ _ => none

/-- The account that a request looks into although it has no table of containers. -/
def untabled? (store : Store) (request : Gateway.Request String) : Option String :=
  (tableOf? request).filter fun account => !store.containers.contains account

/-- How the store answers a request.  Where there is no table to look into, it fails with the name
of the account. -/
def answer (store : Store) (request : Gateway.Request String) :
    Except String (Gateway.Reply request × Store) :=
  match store.untabled? request with
  | some account => .error (Text.quoted account)
  | none => .ok (store.reply request)

end Store

end Stowage
