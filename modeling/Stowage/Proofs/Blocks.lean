import Stowage.Declaration
import Stowage.Proofs.Collection
import Stowage.Proofs.Interpolation

/-! # Declarations block by block

A file is read as if it were one list of blocks: those of `present`, then those of `ensure`, then
those of `absent`, each in the order of the file (`ofDocument_eq_collect`).  So every block becomes
one declaration, or the first that becomes none decides the fault and what was reported until then
(`ofDocument_blocks`).
-/

namespace Stowage.Declaration

open Interpolation

/-- A block as it is declared: under which strategy, of which kind and with which attributes. -/
structure Block where
  strategy : Strategy
  keyword : String
  attributes : Document.Fields

/-- The blocks of one item of a file: attributes by the keywords of kinds. -/
abbrev Item := List (String × Document.Fields)

def Item.document (item : Item) : Document :=
  .object (item.map fun (keyword, attributes) => (keyword, .object attributes))

/-- A file lists items under its strategies.  A strategy that it does not name has none, and what it
has under other names does not matter. -/
structure Lists (file : Document.Fields) (items : Strategy → List Item) : Prop where
  listed (strategy : Strategy) :
    file.get? strategy.keyword = some (.list ((items strategy).map Item.document)) ∨
      file.get? strategy.keyword = none ∧ items strategy = []
  unreserved {strategy : Strategy} {item : Item} (listed : item ∈ items strategy)
    {keyword : String} {attributes : Document.Fields} (member : (keyword, attributes) ∈ item) :
    reservedName ∉ attributes.map Prod.fst

/-- The blocks of a strategy, item by item. -/
def blocksOf (items : Strategy → List Item) (strategy : Strategy) : List Block :=
  (items strategy).flatMap fun item =>
    item.map fun (keyword, attributes) => ⟨strategy, keyword, attributes⟩

/-- All blocks of a file, strategy by strategy. -/
def blocks (items : Strategy → List Item) : List Block :=
  blocksOf items .present ++ blocksOf items .ensure ++ blocksOf items .absent

namespace Block

variable {ρ : Type} (kinds : List (Kind ρ)) (surroundings : Surroundings) (block : Block)

def kind? : Option (Kind ρ) :=
  kinds.find? fun kind => kind.keyword == block.keyword

/-- The attributes with the references in their texts replaced. -/
def interpolated : Document.Fields :=
  block.attributes.map fun (name, value) => (name, expanded surroundings value)

/-- The resource that a block declares, or why it declares none. -/
def outcome : Except Fault ρ :=
  match block.kind? kinds with
  | none => .error (.unknownKind block.keyword)
  | some kind => (kind.build (block.interpolated surroundings)).result.mapError .rejected

/-- What is reported about a block: nothing if its kind is not known, else about its references,
then that it is built, and last what building it reports. -/
def events : List Event :=
  match block.kind? kinds with
  | none => []
  | some kind => (block.attributes.flatMap fun (_, value) => reports surroundings value) ++
    .building block.keyword kind.resource :: (kind.build (block.interpolated surroundings)).events

def read : Reading (Declaration ρ) :=
  ⟨block.events kinds surroundings,
    (block.outcome kinds surroundings).map fun resource => ⟨block.strategy, resource⟩⟩

end Block

section

variable {ρ : Type} {kinds : List (Kind ρ)} {surroundings : Surroundings} {block : Block}

theorem collect_expand (fields : Document.Fields) :
    Logged.collect (fun (name, value) => do
        let value ← expand surroundings value
        pure (name, value)) (fields.map fun (name, value) => (Document.text name, value)) =
      (⟨fields.flatMap fun (_, value) => reports surroundings value,
        .ok (fields.map fun (name, value) => (.text name, expanded surroundings value))⟩ :
        Reading Attributes) := by
  induction fields with
  | nil => rfl
  | cons field rest ih =>
      obtain ⟨name, value⟩ := field
      rw [List.map_cons, Logged.collect_cons, ih]
      dsimp only
      rw [expand_eq, Logged.bind_of_ok rfl, Logged.bind_of_ok rfl, Logged.bind_of_ok rfl]
      change (⟨(_ ++ []) ++ (_ ++ []), _⟩ : Reading Attributes) = _
      rw [List.append_nil, List.append_nil]
      rfl

theorem namedAttributes_of_unreserved {fields : Document.Fields}
    (unreserved : reservedName ∉ fields.map Prod.fst) :
    namedAttributes (fields.map fun (name, value) => (.text name, value)) = .ok fields := by
  induction fields with
  | nil => rfl
  | cons field rest ih =>
      rw [List.map_cons, List.mem_cons, not_or] at unreserved
      rw [List.map_cons, namedAttributes, if_neg (Ne.symm unreserved.1), ih unreserved.2]
      rfl

theorem build_eq (unreserved : reservedName ∉ block.attributes.map Prod.fst) :
    build kinds surroundings block.keyword
        (block.attributes.map fun (name, value) => (.text name, value)) =
      ⟨block.events kinds surroundings, block.outcome kinds surroundings⟩ := by
  -- Interpolation keeps the names, so that none of them is reserved afterwards either.
  have named : namedAttributes (block.attributes.map fun (name, value) =>
      (.text name, expanded surroundings value)) = .ok (block.interpolated surroundings) := by
    have same : (block.interpolated surroundings).map Prod.fst = block.attributes.map Prod.fst := by
      simp [Block.interpolated]
    have kept := namedAttributes_of_unreserved (same ▸ unreserved)
    rwa [Block.interpolated, List.map_map] at kept
  unfold build
  rw [Block.events, Block.outcome, Block.kind?]
  cases kinds.find? fun kind => kind.keyword == block.keyword with
  | none => rfl
  | some kind =>
      dsimp only
      rw [collect_expand, Logged.bind_of_ok rfl]
      dsimp only
      rw [named]
      rfl

theorem read_eq (block : Block) (unreserved : reservedName ∉ block.attributes.map Prod.fst) :
    (do
      let given ← Logged.ofExcept (attributes (.object block.attributes))
      let resource ← build kinds surroundings block.keyword given
      pure ⟨block.strategy, resource⟩) = block.read kinds surroundings := by
  rw [attributes]
  change (build kinds surroundings block.keyword _ >>= _) = _
  rw [build_eq unreserved, Block.read]
  cases built : block.outcome kinds surroundings with
  | error fault => rfl
  | ok resource =>
      rw [Logged.bind_of_ok rfl]
      exact congrArg (Logged.mk · _) (List.append_nil _)

variable {file : Document.Fields} {items : Strategy → List Item}

theorem ofBlock_eq_collect (lists : Lists file items) {strategy : Strategy} {item : Item}
    (listed : item ∈ items strategy) :
    ofBlock kinds surroundings strategy item.document =
      Logged.collect (Block.read kinds surroundings)
        (item.map fun (keyword, attributes) => ⟨strategy, keyword, attributes⟩) := by
  rw [Item.document, ofBlock, Logged.collect_map, Logged.collect_map]
  refine Logged.collect_congr fun entry member => ?_
  obtain ⟨keyword, attributes⟩ := entry
  exact read_eq ⟨strategy, keyword, attributes⟩ (lists.unreserved listed member)

theorem ofStrategy_eq_collect (lists : Lists file items) (strategy : Strategy) :
    ofStrategy kinds surroundings file strategy =
      Logged.collect (Block.read kinds surroundings) (blocksOf items strategy) := by
  rw [ofStrategy, blocksOf, ← Logged.flatten_collect_collect]
  rcases lists.listed strategy with listed | ⟨unnamed, none⟩
  · rw [listed]
    dsimp only [parts?]
    rw [Logged.collect_map, Logged.collect_congr fun item => ofBlock_eq_collect lists]
  · rw [unnamed, none]
    rfl

theorem ofDocument_eq_collect (lists : Lists file items) :
    ofDocument kinds surroundings (.object file) =
      Logged.collect (Block.read kinds surroundings) (blocks items) := by
  have each : ofStrategy kinds surroundings file =
      fun strategy => Logged.collect (Block.read kinds surroundings) (blocksOf items strategy) :=
    funext (ofStrategy_eq_collect lists)
  rw [ofDocument, each, Logged.flatten_collect_collect]
  simp [Strategy.all, blocks]

theorem result_read_eq_ok_iff {declaration : Declaration ρ} :
    (block.read kinds surroundings).result = .ok declaration ↔
      declaration.strategy = block.strategy ∧
        block.outcome kinds surroundings = .ok declaration.resource := by
  obtain ⟨strategy, resource⟩ := declaration
  rw [Block.read]
  cases block.outcome kinds surroundings with
  | error fault => simp [Except.map]
  | ok found => simp [Except.map, eq_comm]

theorem result_read_eq_error_iff {fault : Fault} :
    (block.read kinds surroundings).result = .error fault ↔
      block.outcome kinds surroundings = .error fault := by
  rw [Block.read]
  cases block.outcome kinds surroundings <;> simp [Except.map]

theorem exists_result_read_eq_ok_iff :
    (∃ declaration, (block.read kinds surroundings).result = .ok declaration) ↔
      ∃ resource, block.outcome kinds surroundings = .ok resource := by
  simp only [result_read_eq_ok_iff]
  constructor
  · rintro ⟨declaration, _, found⟩
    exact ⟨declaration.resource, found⟩
  · rintro ⟨resource, found⟩
    exact ⟨⟨block.strategy, resource⟩, rfl, found⟩

/-- A container is built from attributes that are a configuration, and reports what is reported of
them as one. -/
theorem build_containerKind (embed : Config → ρ) (fields : Document.Fields) :
    (containerKind embed).build fields = ⟨Config.reports (.object fields),
      (Config.ofDocument (.object fields)).map embed⟩ := by
  change embed <$> Config.read (.object fields) = _
  cases accepted : Config.ofDocument (.object fields) with
  | ok config =>
      rw [Config.read_of_ok accepted, Config.reports_of_ok accepted]
      rfl
  | error rejection =>
      rw [Config.read_of_error accepted]
      rfl

/-- If all blocks of a file declare something, there is one declaration for each of them, in their
order.  Otherwise the first block that declares nothing decides the fault, and nothing is reported of
the blocks behind it. -/
theorem ofDocument_blocks (kinds : List (Kind ρ)) (surroundings : Surroundings)
    (lists : Lists file items) :
    ((∀ block ∈ blocks items, ∃ resource, block.outcome kinds surroundings = .ok resource) →
      ∃ declarations, List.Forall₂ (fun block declaration =>
          declaration.strategy = block.strategy ∧
            block.outcome kinds surroundings = .ok declaration.resource)
          (blocks items) declarations ∧
        ofDocument kinds surroundings (.object file) =
          ⟨(blocks items).flatMap (Block.events kinds surroundings), .ok declarations⟩) ∧
    (∀ before block after fault, blocks items = before ++ block :: after →
      (∀ earlier ∈ before, ∃ resource, earlier.outcome kinds surroundings = .ok resource) →
      block.outcome kinds surroundings = .error fault →
      ofDocument kinds surroundings (.object file) =
        ⟨before.flatMap (Block.events kinds surroundings) ++ block.events kinds surroundings,
          .error fault⟩) ∧
    ((∀ block ∈ blocks items, ∃ resource, block.outcome kinds surroundings = .ok resource) ∨
      ∃ before block after fault, blocks items = before ++ block :: after ∧
        (∀ earlier ∈ before, ∃ resource, earlier.outcome kinds surroundings = .ok resource) ∧
        block.outcome kinds surroundings = .error fault) ∧
    ∀ (embed : Config → ρ) (block : Block), block.kind? kinds = some (containerKind embed) →
      block.outcome kinds surroundings =
        match Config.ofDocument (.object (block.interpolated surroundings)) with
        | .ok config => .ok (embed config)
        | .error rejection => .error (.rejected rejection) := by
  rw [ofDocument_eq_collect lists]
  simp only [← exists_result_read_eq_ok_iff, ← result_read_eq_error_iff, ← result_read_eq_ok_iff]
  refine ⟨fun passed => ?_, ?_, Logged.forall_ok_or_first_error _ _, ?_⟩
  · obtain ⟨declarations, each, collected⟩ := Logged.collect_of_ok passed
    exact ⟨declarations, each, collected⟩
  · intro before block after fault split passed failed
    rw [split]
    exact Logged.collect_of_error passed failed
  · intro embed block known
    rw [Block.outcome, known]
    dsimp only
    rw [build_containerKind]
    cases Config.ofDocument (.object (block.interpolated surroundings)) <;> rfl

end

/-- A block of an unknown kind behind a good one: the references of the good one are reported, and
of the unknown kind and what is behind it there is nothing but the error. -/
theorem ofDocument_blocks_unknown :
    let attributes : Document.Fields := [("name", .text "logs"),
      ("resource_group_name", .text "rg"), ("storage_account_name", .text "$\x7benv.ACCOUNT\x7d")]
    let good : Item := [("storage_container", attributes)]
    let bad : Item := [("bucket", [])]
    let items : Strategy → List Item
      | .present => [good]
      | .ensure => []
      | .absent => [bad, good]
    let file : Document.Fields := [("absent", .list [bad.document, good.document]),
      ("title", .text "logs"), ("present", .list [good.document])]
    Lists file items ∧
      ofDocument [containerKind fun config => config] {} (.object file) =
        ⟨[.unsetVariable "ACCOUNT", .building "storage_container" "StorageContainer"],
          .error (.unknownKind "bucket")⟩ := by
  intro attributes good bad items file
  have unreserved (strategy : Strategy) : ∀ item ∈ items strategy, ∀ entry ∈ item,
      reservedName ∉ entry.2.map Prod.fst := by
    cases strategy <;> decide
  have lists : Lists file items := by
    refine ⟨fun strategy => ?_, fun listed _ _ member => unreserved _ _ listed _ member⟩
    cases strategy with
    | present => exact .inl rfl
    | ensure => exact .inr ⟨rfl, rfl⟩
    | absent => exact .inl rfl
  have pieces : Piece.ofChars "$\x7benv.ACCOUNT\x7d".toList =
      [.reference (.variable "ACCOUNT")] := by
    have found : Reference.atHead? "$\x7benv.ACCOUNT\x7d".toList =
      some (.variable "ACCOUNT", []) := rfl
    rw [Piece.ofChars_reference found, Piece.ofChars_nil]
  let stored : Block := ⟨.present, "storage_container", attributes⟩
  have interpolated : stored.interpolated {} = [("name", .text "logs"),
      ("resource_group_name", .text "rg"), ("storage_account_name", .text "")] := by
    change [(_, expanded {} _), (_, expanded {} _), (_, Document.text (substitute {} _))] = _
    rw [expanded_of_unopened rfl, expanded_of_unopened rfl, substitute, pieces]
    rfl
  have reported : stored.events [containerKind fun config => config] {} =
      [.unsetVariable "ACCOUNT", .building "storage_container" "StorageContainer"] := by
    change (warnings {} _ ++ (warnings {} _ ++ (warnings {} _ ++ []))) ++
      _ :: ((containerKind _).build _).events = _
    rw [warnings_of_unopened rfl, warnings_of_unopened rfl, warnings, pieces, interpolated]
    rfl
  obtain ⟨_, refuses, _, container⟩ :=
    ofDocument_blocks [containerKind fun config => config] {} lists
  have accepted : stored.outcome [containerKind fun config => config] {} =
      .ok ⟨"logs", "rg", "", "private", by decide, by decide⟩ := by
    rw [container (fun config => config) stored rfl, interpolated]
    rfl
  refine ⟨lists, (refuses [stored] ⟨.absent, "bucket", []⟩
    [⟨.absent, "storage_container", attributes⟩] (.unknownKind "bucket") rfl
    (List.forall_mem_singleton.mpr ⟨_, accepted⟩) rfl).trans ?_⟩
  rw [List.flatMap_singleton, reported]
  rfl

end Stowage.Declaration
