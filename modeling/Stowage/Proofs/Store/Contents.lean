import Stowage.Config
import Stowage.Store

/-! # What a store holds

A store is seen through its groups, its accounts, and the container and the policy of every pair of
an account and a name.  Each change is described by what it does to these.
-/

namespace Stowage.Table

variable {ν : Type} {table : Table ν} {name : String} {value : ν}

theorem mem_of_mem_insert {entry : String × ν}
    (member : entry ∈ (table.insert name value).entries) :
    entry = (name, value) ∨ entry ∈ table.entries := by
  obtain ⟨entries⟩ := table
  simp only [insert] at member
  induction entries with
  | nil => exact .inl (List.mem_singleton.mp member)
  | cons first rest ih =>
      obtain ⟨key, old⟩ := first
      simp only [insertEntry] at member
      split at member
      · rcases List.mem_cons.mp member with same | member
        · exact .inl same
        · exact .inr (List.mem_cons_of_mem _ member)
      · split at member
        · rcases List.mem_cons.mp member with same | member
          · exact .inl same
          · exact .inr member
        · rcases List.mem_cons.mp member with same | member
          · exact .inr (same ▸ List.mem_cons_self)
          · rcases ih member with same | member
            · exact .inl same
            · exact .inr (List.mem_cons_of_mem _ member)

theorem mem_of_mem_erase {entry : String × ν} (member : entry ∈ (table.erase name).entries) :
    entry ∈ table.entries :=
  (List.mem_filter.mp member).1

/-- An entry that is put in its place once more changes nothing, in whatever order the table is. -/
theorem insert_insert_self :
    (table.insert name value).insert name value = table.insert name value := by
  obtain ⟨entries⟩ := table
  simp only [insert, mk.injEq]
  induction entries with
  | nil => simp [insertEntry]
  | cons first rest ih =>
      obtain ⟨key, old⟩ := first
      by_cases same : name = key
      · simp [insertEntry, same]
      · by_cases less : name < key
        · simp [insertEntry, same, less]
        · simp [insertEntry, same, less, ih]

theorem erase_erase_self : (table.erase name).erase name = table.erase name := by
  simp [erase, List.filter_filter]

end Stowage.Table

namespace Stowage.Store

variable (store : Store) (account name header : String)

/-- Every container is stored under its own name. -/
def IsNamed : Prop :=
  ∀ account, ∀ entry ∈ (store.containersOf account).entries, entry.2.name = entry.1

/-- Whether the account exists and a group owns it. -/
def knows : Bool :=
  (store.groups.get? account).isSome && store.accounts.contains account

/-- The container as it can be reached. -/
def reachable? : Option Properties :=
  if store.knows account then store.container? account name else none

def holds : Bool :=
  (store.reachable? account name).isSome

/-- The store after a declared container was created and its policy set. -/
def declare (config : Config) : Store :=
  (store.createContainer config.account config.name).putPolicy config.account config.name
    config.access.header

theorem knows_of_owns {group : String} (owned : store.owns group account = true) :
    store.knows account = true := by
  simp only [owns, Bool.and_eq_true, beq_iff_eq] at owned
  simp [knows, owned]

theorem knows_of_holds (held : store.holds account name = true) : store.knows account = true := by
  unfold holds reachable? at held
  split at held
  · next known => exact known
  · cases held

/-- An account that exists has a table of containers, so what looks into it is served. -/
theorem untabled?_of_knows {request : Gateway.Request String}
    (looked : tableOf? request = some account) (known : store.knows account = true) :
    store.untabled? request = none := by
  simp only [knows, Bool.and_eq_true] at known
  rw [untabled?, looked, Option.filter_some, store.tabled account known.2]
  rfl

theorem holds_iff :
    store.holds account name = true ↔
      (∃ group, store.groups.get? account = some group) ∧
        store.accounts.contains account = true ∧
        ∃ properties, store.container? account name = some properties := by
  unfold holds reachable? knows
  cases store.groups.get? account <;> cases store.accounts.contains account <;>
    simp [Option.isSome_iff_exists]

theorem knows_congr {other : Store} (groups : other.groups = store.groups)
    (accounts : other.accounts = store.accounts) : other.knows account = store.knows account := by
  rw [knows, groups, accounts, knows]

theorem owns_congr {other : Store} (group : String) (groups : other.groups = store.groups)
    (accounts : other.accounts = store.accounts) :
    other.owns group account = store.owns group account := by
  rw [owns, groups, accounts, owns]

theorem containersOf_putContainer (properties : Properties) (other : String) :
    (store.putContainer account name properties).containersOf other =
      if other = account then (store.containersOf account).insert name properties
      else store.containersOf other := by
  simp only [containersOf, putContainer, Table.get?_insert]
  split <;> rfl

theorem containersOf_dropContainer (other : String) :
    (store.dropContainer account name).containersOf other =
      if other = account then (store.containersOf account).erase name
      else store.containersOf other := by
  cases found : store.containers.get? account with
  | none =>
      have nothing : store.containersOf account = Table.empty := by
        simp [containersOf, found]
      by_cases same : other = account
      · subst same
        simp only [dropContainer, found, nothing, if_true]
        rfl
      · simp only [dropContainer, found, same, if_false]
  | some containers =>
      simp only [dropContainer, found, containersOf, Table.get?_insert]
      split <;> rfl

variable (otherAccount otherName : String)

theorem container?_createContainer :
    (store.createContainer account name).container? otherAccount otherName =
      if otherAccount = account ∧ otherName = name then
        some ((store.container? account name).getD (newContainer name))
      else store.container? otherAccount otherName := by
  cases found : store.container? account name with
  | some properties =>
      simp only [createContainer, found]
      split
      · next same =>
        obtain ⟨rfl, rfl⟩ := same
        exact found
      · rfl
  | none =>
      simp only [createContainer, found]
      simp only [container?, containersOf_putContainer]
      by_cases same : otherAccount = account
      · simp [same, Table.get?_insert]
      · simp [same]

theorem container?_dropContainer :
    (store.dropContainer account name).container? otherAccount otherName =
      if otherAccount = account ∧ otherName = name then none
      else store.container? otherAccount otherName := by
  simp only [container?, containersOf_dropContainer]
  by_cases same : otherAccount = account
  · simp [same, Table.get?_erase]
  · simp [same]

theorem policy?_putPolicy :
    (store.putPolicy account name header).policy? otherAccount otherName =
      if otherAccount = account ∧ otherName = name then some header
      else store.policy? otherAccount otherName := by
  simp only [policy?, putPolicy, Table.get?_insert]
  by_cases same : otherAccount = account
  · simp [same, Table.get?_insert]
  · simp [same]

@[simp] theorem container?_putPolicy :
    (store.putPolicy account name header).container? otherAccount otherName =
      store.container? otherAccount otherName := rfl

@[simp] theorem policy?_createContainer :
    (store.createContainer account name).policy? otherAccount otherName =
      store.policy? otherAccount otherName := by
  unfold createContainer
  split <;> rfl

@[simp] theorem policy?_dropContainer :
    (store.dropContainer account name).policy? otherAccount otherName =
      store.policy? otherAccount otherName := by
  unfold dropContainer
  split <;> rfl

@[simp] theorem groups_createContainer :
    (store.createContainer account name).groups = store.groups := by
  unfold createContainer
  split <;> rfl

@[simp] theorem accounts_createContainer :
    (store.createContainer account name).accounts = store.accounts := by
  unfold createContainer
  split <;> rfl

@[simp] theorem groups_putPolicy :
    (store.putPolicy account name header).groups = store.groups := rfl

@[simp] theorem accounts_putPolicy :
    (store.putPolicy account name header).accounts = store.accounts := rfl

@[simp] theorem groups_dropContainer :
    (store.dropContainer account name).groups = store.groups := by
  unfold dropContainer
  split <;> rfl

@[simp] theorem accounts_dropContainer :
    (store.dropContainer account name).accounts = store.accounts := by
  unfold dropContainer
  split <;> rfl

variable {store}

theorem isNamed_empty : empty.IsNamed :=
  fun _ _ member => nomatch member

/-- An account brings no containers, and keeps those it left. -/
theorem IsNamed.addAccount (named : store.IsNamed) (group : String) :
    (store.addAccount account group).IsNamed := by
  intro other entry member
  have same : (store.addAccount account group).containersOf other = store.containersOf other := by
    by_cases own : other = account
    · subst own
      simp [containersOf, Store.addAccount]
    · simp [containersOf, Store.addAccount, own]
  rw [same] at member
  exact named other entry member

theorem IsNamed.createContainer (named : store.IsNamed) :
    (store.createContainer account name).IsNamed := by
  unfold Store.createContainer
  split
  · exact named
  · intro other entry member
    rw [containersOf_putContainer] at member
    split at member
    · rcases Table.mem_of_mem_insert member with rfl | member
      · rfl
      · exact named account entry member
    · exact named other entry member

theorem IsNamed.putPolicy (named : store.IsNamed) :
    (store.putPolicy account name header).IsNamed := named

theorem IsNamed.dropContainer (named : store.IsNamed) :
    (store.dropContainer account name).IsNamed := by
  intro other entry member
  rw [containersOf_dropContainer] at member
  split at member
  · exact named account entry (Table.mem_of_mem_erase member)
  · exact named other entry member

theorem find?_of_named {entries : List (String × Properties)}
    (named : ∀ entry ∈ entries, entry.2.name = entry.1) :
    (entries.find? fun entry =>
      name.toList.isPrefixOf entry.1.toList && entry.2.name == name).map Prod.snd =
      entries.lookup name := by
  induction entries with
  | nil => rfl
  | cons entry rest ih =>
      obtain ⟨key, properties⟩ := entry
      have own : properties.name = key := named _ List.mem_cons_self
      have others := ih fun entry member => named entry (List.mem_cons_of_mem _ member)
      by_cases same : key = name
      · subst same
        simp [own]
      · have different : (name == key) = false := by simpa using Ne.symm same
        simp [own, same, List.lookup_cons, different, others]

/-- In the listing under a name, the exact name finds the container of that name. -/
theorem find?_listing (named : store.IsNamed) :
    ((store.listing account name).find? fun entry => entry.name == name) =
      store.container? account name := by
  rw [listing, List.find?_map, List.find?_filter]
  simp only [Bool.decide_and, Bool.decide_eq_true, Function.comp_apply]
  exact find?_of_named name (named account)

theorem IsNamed.declare (named : store.IsNamed) (config : Config) :
    (store.declare config).IsNamed :=
  (named.createContainer config.account config.name).putPolicy _ _ _

variable (store) (config : Config)

/-- The container as a reading finds it: by its exact name among all that are listed under it. -/
def listed? : Option Properties :=
  if store.knows account then (store.listing account name).find? fun entry => entry.name == name
  else none

variable {store} in
theorem listed?_of_named (named : store.IsNamed) :
    store.listed? account name = store.reachable? account name := by
  rw [listed?, reachable?, find?_listing account name named]

@[simp] theorem groups_declare : (store.declare config).groups = store.groups := by
  simp [declare]

@[simp] theorem accounts_declare : (store.declare config).accounts = store.accounts := by
  simp [declare]

theorem container?_declare :
    (store.declare config).container? account name =
      if account = config.account ∧ name = config.name then
        some ((store.container? config.account config.name).getD (newContainer config.name))
      else store.container? account name := by
  rw [declare, container?_putPolicy, container?_createContainer]

theorem policy?_declare :
    (store.declare config).policy? account name =
      if account = config.account ∧ name = config.name then some config.access.header
      else store.policy? account name := by
  rw [declare, policy?_putPolicy, policy?_createContainer]

/-- A container that is there is not created again. -/
theorem createContainer_of_stored {properties : Properties}
    (stored : store.container? account name = some properties) :
    store.createContainer account name = store := by
  simp only [createContainer, stored]

theorem putPolicy_putPolicy_self (header : String) :
    (store.putPolicy account name header).putPolicy account name header =
      store.putPolicy account name header := by
  simp only [putPolicy, Table.get?_insert_self, Option.getD_some, Table.insert_insert_self]

/-- What is declared already can be declared once more. -/
theorem declare_declare : (store.declare config).declare config = store.declare config := by
  have stored := store.container?_declare config.account config.name config
  rw [if_pos ⟨rfl, rfl⟩] at stored
  rw [declare, createContainer_of_stored _ _ _ stored, declare, putPolicy_putPolicy_self]

/-- A container that was dropped cannot be dropped again. -/
theorem dropContainer_dropContainer_self :
    (store.dropContainer account name).dropContainer account name =
      store.dropContainer account name := by
  cases found : store.containers.get? account with
  | none => simp [dropContainer, found]
  | some containers =>
      simp [dropContainer, found, Table.erase_erase_self, Table.insert_insert_self]

theorem knows_declare : (store.declare config).knows account = store.knows account :=
  store.knows_congr account (store.groups_declare config) (store.accounts_declare config)

theorem knows_dropContainer :
    (store.dropContainer account name).knows otherAccount = store.knows otherAccount :=
  store.knows_congr otherAccount (store.groups_dropContainer account name)
    (store.accounts_dropContainer account name)

theorem reachable?_declare (known : store.knows config.account = true) :
    (store.declare config).reachable? config.account config.name =
      some ((store.container? config.account config.name).getD (newContainer config.name)) := by
  rw [reachable?, knows_declare, if_pos known, container?_declare, if_pos ⟨rfl, rfl⟩]

theorem holds_declare_self (known : store.knows config.account = true) :
    (store.declare config).holds config.account config.name = true := by
  rw [holds, store.reachable?_declare config known]
  rfl

theorem holds_declare_of_ne (other : ¬(account = config.account ∧ name = config.name)) :
    (store.declare config).holds account name = store.holds account name := by
  rw [holds, reachable?, knows_declare, container?_declare, if_neg other, holds, reachable?]

theorem holds_dropContainer_self :
    (store.dropContainer account name).holds account name = false := by
  simp [holds, reachable?, container?_dropContainer]

theorem holds_dropContainer_of_ne (other : ¬(otherAccount = account ∧ otherName = name)) :
    (store.dropContainer account name).holds otherAccount otherName =
      store.holds otherAccount otherName := by
  rw [holds, reachable?, knows_dropContainer, container?_dropContainer, if_neg other, holds,
    reachable?]

end Stowage.Store
