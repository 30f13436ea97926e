import Stowage.Proofs.Interference
import Stowage.Proofs.Engine.Queries
import Stowage.Proofs.Store.Operations

/-! # Operations on a shared store

Each operation of the engine is followed through the changes that others make to the store while it
goes on.  None of them touches groups or accounts (`Service.Keeps`), and the container of the
operation they leave alone, or move it towards the same declaration (`Store.MovesTo`).
-/

namespace Stowage

namespace Store

/-- The container and its policy are as they were. -/
def SameAt (identity : Identity) (store later : Store) : Prop :=
  later.container? identity.account identity.container =
      store.container? identity.account identity.container ∧
    later.policy? identity.account identity.container =
      store.policy? identity.account identity.container

/-- The declared container and its policy are as they were, or as the declaration wants them. -/
structure MovesTo (config : Config) (store later : Store) : Prop where
  container : later.container? config.account config.name =
      store.container? config.account config.name ∨
    store.owns config.group config.account = true ∧
      later.container? config.account config.name =
        some ((store.container? config.account config.name).getD (newContainer config.name))
  policy : later.policy? config.account config.name =
      store.policy? config.account config.name ∨
    store.owns config.group config.account = true ∧
      later.policy? config.account config.name = some config.access.header

variable {identity : Identity} {config : Config} {first second third store later : Store}

theorem SameAt.refl : SameAt identity store store :=
  ⟨rfl, rfl⟩

theorem SameAt.symm (same : SameAt identity store later) : SameAt identity later store :=
  ⟨same.1.symm, same.2.symm⟩

theorem SameAt.trans (earlier : SameAt identity first second)
    (further : SameAt identity second third) : SameAt identity first third :=
  ⟨further.1.trans earlier.1, further.2.trans earlier.2⟩

section Others

variable {account name : String} (distinct : identity ≠ ⟨account, name⟩) (store)

include distinct

omit store in
theorem not_names_of_ne : ¬(identity.account = account ∧ identity.container = name) := by
  rintro ⟨rfl, rfl⟩
  exact distinct rfl

theorem sameAt_createContainer : SameAt identity store (store.createContainer account name) :=
  ⟨(store.container?_createContainer ..).trans (if_neg (not_names_of_ne distinct)),
    store.policy?_createContainer ..⟩

theorem sameAt_putPolicy (header : String) :
    SameAt identity store (store.putPolicy account name header) :=
  ⟨rfl, (store.policy?_putPolicy ..).trans (if_neg (not_names_of_ne distinct))⟩

theorem sameAt_dropContainer : SameAt identity store (store.dropContainer account name) :=
  ⟨(store.container?_dropContainer ..).trans (if_neg (not_names_of_ne distinct)),
    store.policy?_dropContainer ..⟩

end Others

theorem SameAt.dropContainer (same : SameAt identity store later) :
    SameAt identity (store.dropContainer identity.account identity.container)
      (later.dropContainer identity.account identity.container) := by
  simpa only [SameAt, container?_dropContainer, policy?_dropContainer, and_self, if_true, true_and]
    using same.2

theorem SameAt.movesTo (same : SameAt ⟨config.account, config.name⟩ store later) :
    MovesTo config store later :=
  ⟨.inl same.1, .inl same.2⟩

namespace MovesTo

theorem sameAt (moves : MovesTo config store later)
    (foreign : store.owns config.group config.account = false) :
    SameAt ⟨config.account, config.name⟩ store later := by
  have unowned : ¬store.owns config.group config.account = true := ne_true_of_eq_false foreign
  exact ⟨moves.container.resolve_right fun moved => unowned moved.1,
    moves.policy.resolve_right fun moved => unowned moved.1⟩

/-- What the declaration makes of the container does not change on the way. -/
theorem getD_container (moves : MovesTo config store later) :
    (later.container? config.account config.name).getD (newContainer config.name) =
      (store.container? config.account config.name).getD (newContainer config.name) := by
  rcases moves.container with same | ⟨_, made⟩
  · rw [same]
  · rw [made, Option.getD_some]

theorem container_of_some {properties : Properties} (moves : MovesTo config store later)
    (there : store.container? config.account config.name = some properties) :
    later.container? config.account config.name = some properties := by
  rcases moves.container with same | ⟨_, made⟩
  · rw [same, there]
  · rw [made, there, Option.getD_some]

theorem policy_of_some (moves : MovesTo config store later)
    (set : store.policy? config.account config.name = some config.access.header) :
    later.policy? config.account config.name = some config.access.header := by
  rcases moves.policy with same | ⟨_, made⟩
  · rw [same, set]
  · exact made

theorem trans (earlier : MovesTo config first second) (further : MovesTo config second third)
    (groups : second.groups = first.groups) (accounts : second.accounts = first.accounts) :
    MovesTo config first third := by
  have owns := first.owns_congr config.account config.group groups accounts
  obtain ⟨container, policy⟩ := further
  rw [earlier.getD_container, owns] at container
  rw [owns] at policy
  refine ⟨?_, ?_⟩
  · rcases container with same | made
    · rw [same]
      exact earlier.container
    · exact .inr made
  · rcases policy with same | made
    · rw [same]
      exact earlier.policy
    · exact .inr made

end MovesTo

theorem reply_of_query {request : Gateway.Request String} (query : request.changes = false)
    (store : Store) : (store.reply request).2 = store := by
  cases request <;> first | rfl | cases query

end Store

namespace Service

open Program Engine

variable {τ α : Type}

/-- What no operation changes. -/
structure Keeps (service later : Service τ) : Prop where
  quiet : service.IsQuiet → later.IsQuiet
  named : service.store.IsNamed → later.store.IsNamed
  groups : later.store.groups = service.store.groups
  accounts : later.store.accounts = service.store.accounts

namespace Keeps

variable {service later : Service τ}

theorem refl : service.Keeps service :=
  ⟨id, id, rfl, rfl⟩

theorem trans {last : Service τ} (first : service.Keeps later) (second : later.Keeps last) :
    service.Keeps last :=
  ⟨second.quiet ∘ first.quiet, second.named ∘ first.named, second.groups.trans first.groups,
    second.accounts.trans first.accounts⟩

theorem createContainer (account name : String) :
    service.Keeps { service with store := service.store.createContainer account name } :=
  ⟨id, fun named => named.createContainer account name, Store.groups_createContainer ..,
    Store.accounts_createContainer ..⟩

theorem putPolicy (account name header : String) :
    service.Keeps { service with store := service.store.putPolicy account name header } :=
  ⟨id, fun named => named.putPolicy account name header, rfl, rfl⟩

theorem dropContainer (account name : String) :
    service.Keeps { service with store := service.store.dropContainer account name } :=
  ⟨id, fun named => named.dropContainer account name, Store.groups_dropContainer ..,
    Store.accounts_dropContainer ..⟩

theorem owns (keeps : service.Keeps later) (group account : String) :
    later.store.owns group account = service.store.owns group account :=
  service.store.owns_congr account group keeps.groups keeps.accounts

/-- What looks into an account that is known stays served. -/
theorem untabled? (keeps : service.Keeps later) {account : String}
    {request : Gateway.Request String} (looked : Store.tableOf? request = some account)
    (known : service.store.knows account = true) : later.store.untabled? request = none :=
  later.store.untabled?_of_knows account looked
    ((service.store.knows_congr account keeps.groups keeps.accounts).trans known)

end Keeps

variable [Timescale τ] {terms : Terms (Service τ)} {service : Service τ}
  (keeps : ∀ {service later}, terms.rely service later → service.Keeps later)
  (quiet : service.IsQuiet)

section Requests

variable {request : Gateway.Request String} {next : Gateway.Reply request → Operation String τ α}
  {post : Ending (Failure τ) α → Service τ → Prop}

  (served : ∀ later, terms.rely service later → later.store.untabled? request = none)

include keeps quiet served

/-- A request is answered by the store as it is then. -/
theorem withstands_ask
    (answered : ∀ later, terms.rely service later →
      let after := { later with store := (later.store.reply request).2 }
      terms.guarantee later after ∧
        (next (later.store.reply request).1).Withstands world terms post after) :
    (ask request >>= next).Withstands world terms post service := by
  intro later changed reply after same
  have usual := answer_of_quiet ((keeps changed).quiet quiet) (served later changed)
  obtain ⟨rfl, rfl⟩ := Prod.mk.inj (same.symm.trans usual)
  exact answered later changed

/-- A query after which the program goes on as if it were answered at once. -/
theorem withstands_query (query : request.changes = false)
    (same : ∀ later, terms.rely service later →
      next (later.store.reply request).1 = next (service.store.reply request).1)
    (withstands : (next (service.store.reply request).1).Withstands world terms post service) :
    (ask request >>= next).Withstands world terms post service := by
  refine withstands_ask keeps quiet served fun later changed => ?_
  rw [same later changed, Store.reply_of_query query]
  exact ⟨terms.guarantee_refl later, withstands.later changed⟩

end Requests

variable (engine : Engine τ) {uri : String} {identity : Identity}

section Queries

theorem settles_pure {value : α} :
    (pure value : Operation String τ α).Settles world terms value service :=
  fun _ changed => ⟨rfl, changed⟩

theorem settles_decode (decoded : Identity.decode uri engine.environment.suffix = .ok identity) :
    (engine.decode uri).Settles world terms identity service := by
  rw [engine.decode_of_ok decoded]
  exact settles_pure

include keeps quiet

theorem settles_resolve :
    (resolve identity).Settles world terms
      (if service.store.knows identity.account then some identity.account else none) service := by
  refine withstands_query keeps quiet (fun _ _ => rfl) rfl (fun later changed => ?_) ?_
  · simp only [Store.reply, (keeps changed).groups]
  cases found : service.store.groups.get? identity.account with
  | none =>
      simp only [Store.reply, found, Store.knows]
      exact settles_pure
  | some group =>
      have owned : service.store.owns group identity.account =
          service.store.accounts.contains identity.account := by
        simp [Store.owns, found]
      simp only [Store.reply, found]
      refine withstands_query keeps quiet (fun _ _ => rfl) rfl (fun later changed => ?_) ?_
      · simp only [Store.reply, (keeps changed).owns]
      simp only [Store.reply, owned, Store.knows, found]
      cases service.store.accounts.contains identity.account with
      | false => exact settles_pure
      | true => exact settles_pure

variable (decoded : Identity.decode uri engine.environment.suffix = .ok identity)
  (steady : ∀ later, terms.rely service later →
    later.store.container? identity.account identity.container =
      service.store.container? identity.account identity.container)

include decoded steady

theorem settles_probe :
    (engine.probe uri).Settles world terms
      (service.store.holds identity.account identity.container) service := by
  refine (settles_decode engine decoded).bind ((settles_resolve keeps quiet).bind ?_)
  unfold Store.holds Store.reachable?
  cases known : service.store.knows identity.account with
  | false => exact settles_pure
  | true =>
      refine withstands_query keeps quiet (fun _ changed => (keeps changed).untabled? rfl known) rfl
        (fun later changed => ?_) ?_
      · simp only [Store.reply, steady later changed]
      simp only [Store.reply]
      cases service.store.container? identity.account identity.container with
      | none => exact settles_pure
      | some properties => exact settles_pure

theorem settles_read (named : service.store.IsNamed) :
    (engine.read uri).Settles world terms
      ((service.store.reachable? identity.account identity.container).elim .removed
        fun properties => .managed uri identity properties.project) service := by
  refine (settles_decode engine decoded).bind ((settles_resolve keeps quiet).bind ?_)
  unfold Store.reachable?
  cases known : service.store.knows identity.account with
  | false => exact settles_pure
  | true =>
      -- The listing may differ from time to time, but not in what is found under the exact name.
      refine withstands_query keeps quiet (fun _ changed => (keeps changed).untabled? rfl known) rfl
        (fun later changed => ?_) ?_
      · simp only [Store.reply, Store.find?_listing, (keeps changed).named named, named,
          steady later changed]
      simp only [Store.reply, Store.find?_listing, named]
      cases service.store.container? identity.account identity.container with
      | none => exact settles_pure
      | some properties => exact settles_pure

end Queries

include keeps quiet

theorem withstands_delete {post : Ending (Failure τ) Unit → Service τ → Prop}
    (decoded : Identity.decode uri engine.environment.suffix = .ok identity)
    (unknown : service.store.knows identity.account = false → ∀ later,
      terms.rely service later → post (.returned ()) later)
    (dropped : service.store.knows identity.account = true → ∀ later, terms.rely service later →
      let after := { later with
        store := later.store.dropContainer identity.account identity.container }
      terms.guarantee later after ∧ ∀ last, terms.rely after last → post (.returned ()) last) :
    (engine.delete uri).Withstands world terms post service := by
  refine (settles_decode engine decoded).bind ((settles_resolve keeps quiet).bind ?_)
  cases known : service.store.knows identity.account with
  | false => exact unknown known
  | true =>
      exact withstands_ask keeps quiet (fun _ changed => (keeps changed).untabled? rfl known)
        (dropped known)

theorem withstands_repetition {post : Ending (Failure τ) (Attempted τ) → Service τ → Prop}
    (schedule : Schedule τ) (limit : Nat) (description account name : String)
    (known : service.store.knows account = true)
    (created : ∀ later, terms.rely service later →
      let after := { later with store := later.store.createContainer account name }
      terms.guarantee later after ∧ ∀ last, terms.rely after last → post (.returned .ok) last) :
    (Retry.run schedule limit description (ask (.createIfMissing account name))).Withstands world
      terms post service := by
  intro start began
  have attempted (deadline : τ) (number : Nat) (again : Operation String τ (Attempted τ)) :
      (Retry.attemptThen schedule description deadline (ask (.createIfMissing account name)) number
        again).Withstands world terms post start :=
    withstands_ask keeps ((keeps began).quiet quiet)
      (fun _ changed => ((keeps began).trans (keeps changed)).untabled? rfl known)
      fun later changed => created later (terms.rely_trans began changed)
  cases limit with
  | zero => exact attempted _ 1 _
  | succ limit => exact attempted _ 1 _

section Creation

variable {config : Config} {post : Ending (Failure τ) Outcome → Service τ → Prop}
  (moves : ∀ {service later}, terms.rely service later →
    Store.MovesTo config service.store later.store)
  (permitted : ∀ {service later}, service.Keeps later →
    Store.MovesTo config service.store later.store →
    (∀ identity, identity ≠ ⟨config.account, config.name⟩ →
      Store.SameAt identity service.store later.store) → terms.guarantee service later)
  (named : service.store.IsNamed)
  (owned : service.store.owns config.group config.account = true)
  (decoded : Identity.decode (engine.identify config) engine.environment.suffix =
    .ok ⟨config.account, config.name⟩)

include moves permitted named decoded

section Settling

variable {properties : Properties}
  (there : service.store.container? config.account config.name = some properties)
  (returned : ∀ later,
    later.store.container? config.account config.name = some properties →
    later.store.policy? config.account config.name = some config.access.header →
    post (.returned (.managed (engine.identify config) ⟨config.account, config.name⟩
      properties.project)) later)

include owned there returned

theorem withstands_settle :
    (engine.settle config config.account).Withstands world terms post service := by
  unfold settle
  generalize engine.identify config = uri at *
  refine withstands_ask keeps quiet (fun _ _ => rfl) fun later changed => ?_
  have still := (moves changed).container_of_some there
  have ownedLater := ((keeps changed).owns config.group config.account).trans owned
  let header := config.access.header
  let after : Service τ :=
    { later with store := later.store.putPolicy config.account config.name header }
  have kept : later.Keeps after := .putPolicy config.account config.name header
  have set : after.store.policy? config.account config.name = some header := by
    rw [Store.policy?_putPolicy, if_pos ⟨rfl, rfl⟩]
  refine ⟨permitted kept ⟨.inl rfl, .inr ⟨ownedLater, set⟩⟩ fun other distinct =>
    Store.sameAt_putPolicy later.store distinct header, ?_⟩
  have reading := settles_read keeps (kept.quiet ((keeps changed).quiet quiet)) engine decoded
    (fun last further => ((moves further).container_of_some still).trans still.symm)
    (kept.named ((keeps changed).named named))
  have found : after.store.reachable? config.account config.name = some properties := by
    rw [Store.reachable?, if_pos (after.store.knows_of_owns _ ((kept.owns ..).trans ownedLater))]
    exact still
  rw [found] at reading
  refine Withstands.weaken reading ?_
  rintro _ last ⟨rfl, further⟩
  exact returned last ((moves further).container_of_some still) ((moves further).policy_of_some set)

end Settling

/-- A creation finds its container made by itself or, from the same declaration, by others. -/
theorem withstands_createUnder (owned : service.store.owns config.group config.account = true)
    (returned : ∀ later,
      let properties := (service.store.container? config.account config.name).getD
        (Store.newContainer config.name)
      later.store.container? config.account config.name = some properties →
      later.store.policy? config.account config.name = some config.access.header →
      post (.returned (.managed (engine.identify config) ⟨config.account, config.name⟩
        properties.project)) later) :
    (engine.createUnder config config.account).Withstands world terms post service := by
  refine withstands_report (withstands_bind (withstands_repetition keeps quiet _ _ _ _ _
    (service.store.knows_of_owns _ owned) fun later changed => ?_))
  have made : (later.store.createContainer config.account config.name).container? config.account
      config.name = some ((later.store.container? config.account config.name).getD
        (Store.newContainer config.name)) := by
    rw [Store.container?_createContainer, if_pos ⟨rfl, rfl⟩]
  have kept : later.Keeps { later with
      store := later.store.createContainer config.account config.name } := .createContainer ..
  have ownedLater := ((keeps changed).owns config.group config.account).trans owned
  refine ⟨permitted kept ⟨.inr ⟨ownedLater, made⟩, .inl (Store.policy?_createContainer ..)⟩
    fun other distinct => Store.sameAt_createContainer later.store distinct, fun last further => ?_⟩
  have keepsLast := (keeps changed).trans (kept.trans (keeps further))
  rw [(moves changed).getD_container] at made
  exact withstands_settle keeps (keepsLast.quiet quiet) engine moves permitted
    (keepsLast.named named) ((keepsLast.owns ..).trans owned) decoded
    ((moves further).container_of_some made) returned

theorem withstands_create
    (missing : service.store.owns config.group config.account = false → ∀ later,
      terms.rely service later → post (.failed (.accountMissing config.account)) later)
    (returned : service.store.owns config.group config.account = true → ∀ later,
      let properties := (service.store.container? config.account config.name).getD
        (Store.newContainer config.name)
      later.store.container? config.account config.name = some properties →
      later.store.policy? config.account config.name = some config.access.header →
      post (.returned (.managed (engine.identify config) ⟨config.account, config.name⟩
        properties.project)) later) :
    (engine.create config).Withstands world terms post service := by
  refine withstands_query keeps quiet (fun _ _ => rfl) rfl (fun later changed => ?_) ?_
  · simp only [Store.reply, (keeps changed).owns]
  simp only [Store.reply]
  cases owned : service.store.owns config.group config.account with
  | false => exact missing owned
  | true =>
      exact withstands_createUnder keeps quiet engine moves permitted named decoded owned
        (returned owned)

end Creation

end Service

end Stowage
