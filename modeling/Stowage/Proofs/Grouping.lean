import Stowage.Declaration
import Stowage.Proofs.Collection
import Stowage.Source.Body

/-! # The order of declarations

A file names its declarations in any order, and they are carried out strategy by strategy.  Of a
file whose strategies stand for their blocks (`Declaration.HoldsBlocks`), what is read is the same
declarations, regrouped (`Declaration.ofDocument_of_holdsBlocks`): those of one strategy keep the
order that they have in the file.
-/

namespace Stowage

namespace Source.Body

def Addition.name : Addition → String
  | .attribute name _ => name
  | .block kind _ => kind

/-- The bodies of the blocks of a kind, in order. -/
def bodiesOf (kind : String) (additions : List Addition) : List Document :=
  additions.filterMap fun
    | .block other body => if other = kind then some body else none
    | .attribute _ _ => none

/-- What a kind stands for in a body where its blocks have the given bodies. -/
def entryOf? : List Document → Option Entry
  | [] => none
  | bodies => some (.blocks bodies)

section Bodies

variable {addition : Addition} {kind : String}

theorem bodiesOf_cons_self (body : Document) (rest : List Addition) :
    bodiesOf kind (.block kind body :: rest) = body :: bodiesOf kind rest := by
  simp [bodiesOf]

theorem bodiesOf_cons_of_ne (distinct : addition.name ≠ kind) (rest : List Addition) :
    bodiesOf kind (addition :: rest) = bodiesOf kind rest := by
  rcases addition with ⟨name, value⟩ | ⟨other, body⟩
  · rfl
  · simp [bodiesOf, show ¬other = kind from distinct]

end Bodies

variable {addition : Addition} {entries after : List (String × Entry)} {kind : String}
  {body : Document}

/-- A member is added to the blocks of its name, or behind an entry of another name. -/
theorem add_cons_cases {other : String} {entry : Entry}
    (added : add addition ((other, entry) :: entries) = .ok after) :
    (∃ body bodies, addition = .block other body ∧ entry = .blocks bodies ∧
      after = (other, .blocks (bodies ++ [body])) :: entries) ∨
    (other ≠ addition.name ∧ ∃ rest, add addition entries = .ok rest ∧
      after = (other, entry) :: rest) := by
  have behind (distinct : other ≠ addition.name)
      (added : ((other, entry) :: ·) <$> add addition entries = .ok after) :
      other ≠ addition.name ∧ ∃ rest, add addition entries = .ok rest ∧
        after = (other, entry) :: rest := by
    cases inner : add addition entries with
    | error fault => rw [inner] at added; cases added
    | ok rest =>
        rw [inner] at added
        exact ⟨distinct, rest, rfl, (Except.ok.inj added).symm⟩
  rcases addition with ⟨name, value⟩ | ⟨kind, body⟩
  · simp only [add] at added
    split at added
    · cases added
    · next distinct => exact .inr (behind distinct added)
  · rcases entry with value | bodies
    · simp only [add] at added
      split at added
      · cases added
      · next distinct => exact .inr (behind distinct added)
    · simp only [add] at added
      split at added
      · next same =>
        subst same
        exact .inl ⟨body, bodies, rfl, rfl, (Except.ok.inj added).symm⟩
      · next distinct => exact .inr (behind distinct added)

theorem lookup_add_of_ne (distinct : addition.name ≠ kind)
    (added : add addition entries = .ok after) : after.lookup kind = entries.lookup kind := by
  have unequal : (kind == addition.name) = false := beq_eq_false_iff_ne.mpr (Ne.symm distinct)
  induction entries generalizing after with
  | nil =>
      have only : ∃ entry, after = [(addition.name, entry)] := by
        cases addition <;> exact ⟨_, (Except.ok.inj added).symm⟩
      obtain ⟨entry, rfl⟩ := only
      simp only [List.lookup_cons, unequal]
  | cons first entries ih =>
      obtain ⟨other, entry⟩ := first
      rcases add_cons_cases added with ⟨body, bodies, rfl, rfl, rfl⟩ | ⟨_, rest, inner, rfl⟩
      · simp only [List.lookup_cons, show (kind == other) = false from unequal]
      · rw [List.lookup_cons, List.lookup_cons, ih inner]

theorem lookup_add_block {bodies : List Document}
    (before : entries.lookup kind = entryOf? bodies)
    (added : add (.block kind body) entries = .ok after) :
    after.lookup kind = some (.blocks (bodies ++ [body])) := by
  induction entries generalizing after with
  | nil =>
      cases bodies with
      | nil => cases added; simp
      | cons first bodies => cases before
  | cons first entries ih =>
      obtain ⟨other, entry⟩ := first
      rcases add_cons_cases added with ⟨_, found, same, rfl, rfl⟩ | ⟨distinct, rest, inner, rfl⟩
      · cases same
        rw [List.lookup_cons_self] at before ⊢
        cases bodies with
        | nil => cases before
        | cons first bodies => cases before; rfl
      · have unequal : (kind == other) = false := beq_eq_false_iff_ne.mpr (Ne.symm distinct)
        simp only [List.lookup_cons, unequal] at before ⊢
        exact ih before inner

variable {additions : List Addition}

theorem lookup_add {bodies : List Document} (before : entries.lookup kind = entryOf? bodies)
    (unassigned : ∀ value, addition ≠ .attribute kind value)
    (added : add addition entries = .ok after) :
    after.lookup kind = entryOf? (bodies ++ bodiesOf kind [addition]) := by
  by_cases same : addition.name = kind
  · rcases addition with ⟨name, value⟩ | ⟨other, body⟩
    · exact absurd (same ▸ rfl) (unassigned value)
    · obtain rfl : other = kind := same
      rw [lookup_add_block before added, bodiesOf_cons_self]
      cases bodies <;> rfl
  · rw [lookup_add_of_ne same added, bodiesOf_cons_of_ne same, before]
    exact congrArg _ (List.append_nil _).symm

theorem lookup_foldlM_add {bodies : List Document} (before : entries.lookup kind = entryOf? bodies)
    (unassigned : ∀ value, .attribute kind value ∉ additions)
    (added : additions.foldlM (fun entries addition => add addition entries) entries = .ok after) :
    after.lookup kind = entryOf? (bodies ++ bodiesOf kind additions) := by
  induction additions generalizing entries bodies with
  | nil =>
      cases added
      exact before.trans (congrArg _ (List.append_nil _).symm)
  | cons addition rest ih =>
      rw [List.foldlM_cons] at added
      cases inner : add addition entries with
      | error fault => rw [inner] at added; cases added
      | ok between =>
          rw [inner] at added
          have apart := lookup_add before
            (fun value same => unassigned value (same ▸ List.mem_cons_self)) inner
          have rested := ih apart
            (fun value member => unassigned value (List.mem_cons_of_mem _ member)) added
          rw [rested, List.append_assoc]
          refine congrArg (fun bodies' => entryOf? (bodies ++ bodies')) ?_
          exact List.filterMap_append.symm

theorem lookup_map_document :
    (entries.map fun (name, entry) => (name, entry.document)).lookup kind =
      (entries.lookup kind).map Entry.document := by
  induction entries with
  | nil => rfl
  | cons first entries ih =>
      obtain ⟨name, entry⟩ := first
      rw [List.map_cons, List.lookup_cons, List.lookup_cons, ih]
      cases kind == name <;> rfl

/-- In the document of a body, a kind that no attribute has the name of stands for its blocks. -/
theorem get?_of_assemble {document : Document} (assembled : assemble additions = .ok document) :
    ∃ file : Document.Fields, document = .object file ∧
      ∀ kind, (∀ value, .attribute kind value ∉ additions) →
        file.get? kind = (entryOf? (bodiesOf kind additions)).map Entry.document := by
  unfold assemble at assembled
  cases folded : additions.foldlM (fun entries addition => add addition entries) [] with
  | error fault => rw [folded] at assembled; cases assembled
  | ok entries =>
      rw [folded] at assembled
      refine ⟨_, (Except.ok.inj assembled).symm, fun kind unassigned => ?_⟩
      have found : entries.lookup kind = entryOf? ([] ++ bodiesOf kind additions) :=
        lookup_foldlM_add rfl unassigned folded
      exact lookup_map_document.trans (congrArg _ found)

end Source.Body

theorem Strategy.ofKeyword?_eq_some {word : String} {strategy : Strategy} :
    Strategy.ofKeyword? word = some strategy ↔ word = strategy.keyword := by
  constructor
  · intro found
    have named := List.find?_some (p := fun strategy : Strategy => strategy.keyword == word) found
    exact (eq_of_beq named).symm
  · rintro rfl
    cases strategy <;> rfl

theorem Strategy.keyword_injective {first second : Strategy}
    (same : first.keyword = second.keyword) : first = second := by
  have found := Strategy.ofKeyword?_eq_some.mpr same
  exact Option.some.inj ((Strategy.ofKeyword?_eq_some.mpr rfl).symm.trans found)

namespace Declaration

open Source.Body

variable {ρ : Type}

/-- Declarations as they are carried out: strategy by strategy. -/
def grouped (declarations : List (Declaration ρ)) : List (Declaration ρ) :=
  Strategy.all.flatMap fun strategy =>
    declarations.filter fun declaration => declaration.strategy = strategy

theorem perm_grouped (declarations : List (Declaration ρ)) :
    (grouped declarations).Perm declarations := by
  simp only [grouped, Strategy.all, List.flatMap_cons, List.flatMap_nil, List.append_nil]
  induction declarations with
  | nil => exact .refl _
  | cons declaration rest ih =>
      obtain ⟨strategy, resource⟩ := declaration
      simp only [List.filter_cons]
      cases strategy with
      | present => exact ih.cons _
      | ensure => exact List.perm_middle.trans (ih.cons _)
      | absent =>
          refine .trans ?_ (ih.cons _)
          rw [← List.append_assoc, ← List.append_assoc]
          exact List.perm_middle

/-- The bodies of the blocks of a strategy, in order. -/
def bodiesOf (strategy : Strategy) (blocks : List (Strategy × Document)) : List Document :=
  (blocks.filter fun block => block.1 = strategy).map Prod.snd

/-- A file holds the given blocks if each strategy stands for the list of its blocks.  A strategy
without blocks may be missing. -/
def HoldsBlocks (file : Document.Fields) (blocks : List (Strategy × Document)) : Prop :=
  ∀ strategy : Strategy,
    (file.get? strategy.keyword).getD (.list []) = .list (bodiesOf strategy blocks)

section Bodies

variable {own strategy : Strategy} (body : Document) (rest : List (Strategy × Document))

theorem bodiesOf_cons_self :
    bodiesOf strategy ((strategy, body) :: rest) = body :: bodiesOf strategy rest := by
  simp [bodiesOf]

theorem bodiesOf_cons_of_ne (other : own ≠ strategy) :
    bodiesOf strategy ((own, body) :: rest) = bodiesOf strategy rest := by
  simp [bodiesOf, other]

end Bodies

variable (kinds : List (Kind ρ)) (surroundings : Surroundings)

/-- The declarations of blocks in the order in which they are given. -/
def inOrder (blocks : List (Strategy × Document)) : Reading (List (Declaration ρ)) :=
  List.flatten <$> Logged.collect
    (fun (strategy, body) => ofBlock kinds surroundings strategy body) blocks

variable {kinds surroundings} {strategy : Strategy} {declarations : List (Declaration ρ)}

theorem strategy_of_ofBlock {body : Document}
    (read : (ofBlock kinds surroundings strategy body).result = .ok declarations) :
    ∀ declaration ∈ declarations, declaration.strategy = strategy := by
  cases body with
  | object fields =>
      simp only [ofBlock] at read
      induction fields generalizing declarations with
      | nil => cases read; exact nofun
      | cons field rest ih =>
          obtain ⟨declaration, others, stepped, collected, rfl⟩ :=
            Logged.result_collect_cons_eq_ok.mp read
          obtain ⟨given, _, stepped⟩ := Logged.result_bind_eq_ok.mp stepped
          obtain ⟨resource, _, stepped⟩ := Logged.result_bind_eq_ok.mp stepped
          obtain rfl := Except.ok.inj stepped
          exact List.forall_mem_cons.mpr ⟨rfl, ih collected⟩
  | _ => cases read

theorem result_inOrder_cons_eq_ok {body : Document} {rest : List (Strategy × Document)} :
    (inOrder kinds surroundings ((strategy, body) :: rest)).result = .ok declarations ↔
      ∃ first others, (ofBlock kinds surroundings strategy body).result = .ok first ∧
        (inOrder kinds surroundings rest).result = .ok others ∧
        first ++ others = declarations := by
  simp only [inOrder, Logged.result_map_eq_ok, Logged.result_collect_cons_eq_ok]
  constructor
  · rintro ⟨_, ⟨first, others, read, collected, rfl⟩, rfl⟩
    exact ⟨first, others.flatten, read, ⟨others, collected, rfl⟩, rfl⟩
  · rintro ⟨first, _, read, ⟨others, collected, rfl⟩, rfl⟩
    exact ⟨first :: others, ⟨first, others, read, collected, rfl⟩, rfl⟩

theorem filter_of_ofBlock {own : Strategy} {body : Document}
    (read : (ofBlock kinds surroundings own body).result = .ok declarations) :
    (declarations.filter fun declaration => declaration.strategy = strategy) =
      if own = strategy then declarations else [] := by
  have under := strategy_of_ofBlock read
  split
  · next same =>
    exact List.filter_eq_self.mpr fun declaration member =>
      decide_eq_true ((under declaration member).trans same)
  · next other =>
    exact List.filter_eq_nil_iff.mpr fun declaration member => mt of_decide_eq_true fun same =>
      other ((under declaration member).symm.trans same)

/-- The blocks of one strategy declare what all blocks together declare under it. -/
theorem result_inOrder_bodiesOf {blocks : List (Strategy × Document)}
    (read : (inOrder kinds surroundings blocks).result = .ok declarations) :
    (inOrder kinds surroundings
        ((bodiesOf strategy blocks).map fun body => (strategy, body))).result =
      .ok (declarations.filter fun declaration => declaration.strategy = strategy) := by
  induction blocks generalizing declarations with
  | nil => cases read; rfl
  | cons block rest ih =>
      obtain ⟨own, body⟩ := block
      obtain ⟨first, others, readFirst, readRest, rfl⟩ := result_inOrder_cons_eq_ok.mp read
      rw [List.filter_append, filter_of_ofBlock readFirst]
      by_cases same : own = strategy
      · subst same
        rw [bodiesOf_cons_self, if_pos rfl, List.map_cons, result_inOrder_cons_eq_ok]
        exact ⟨first, _, readFirst, ih readRest, rfl⟩
      · rw [bodiesOf_cons_of_ne _ _ same, if_neg same]
        exact ih readRest

theorem ofStrategy_of_holdsBlocks {file : Document.Fields} {blocks : List (Strategy × Document)}
    (holds : HoldsBlocks file blocks) (strategy : Strategy) :
    ofStrategy kinds surroundings file strategy =
      inOrder kinds surroundings
        ((bodiesOf strategy blocks).map fun body => (strategy, body)) := by
  have listed := holds strategy
  rw [inOrder, Logged.collect_map, ofStrategy]
  cases found : file.get? strategy.keyword with
  | none =>
      rw [found, Option.getD_none] at listed
      rw [← Document.list.inj listed]
      rfl
  | some value =>
      rw [found, Option.getD_some] at listed
      rw [listed]
      rfl

/-- What is read from a file are the declarations of its blocks, strategy by strategy. -/
theorem ofDocument_of_holdsBlocks {file : Document.Fields} {blocks : List (Strategy × Document)}
    (holds : HoldsBlocks file blocks)
    (read : (inOrder kinds surroundings blocks).result = .ok declarations) :
    (ofDocument kinds surroundings (.object file)).result = .ok (grouped declarations) := by
  have each (strategy : Strategy) : (ofStrategy kinds surroundings file strategy).result =
      .ok (declarations.filter fun declaration => declaration.strategy = strategy) := by
    rw [ofStrategy_of_holdsBlocks holds]
    exact result_inOrder_bodiesOf read
  refine Logged.result_map_eq_ok.mpr ⟨_, ?_, rfl⟩
  simp only [Strategy.all, List.map_cons, List.map_nil, Logged.result_collect_cons_eq_ok]
  exact ⟨_, _, each .present, ⟨_, _, each .ensure, ⟨_, _, each .absent, rfl, rfl⟩, rfl⟩, rfl⟩

/-! ## Files as they are written -/

/-- A member of a body that declares something: a block whose kind is a strategy. -/
def block? : Addition → Option (Strategy × Document)
  | .block kind body => (Strategy.ofKeyword? kind).map fun strategy => (strategy, body)
  | .attribute _ _ => none

theorem block?_block {kind : String} (body : Document) :
    block? (.block kind body) =
      (Strategy.ofKeyword? kind).map fun strategy => (strategy, body) := rfl

theorem bodiesOf_filterMap_block? (additions : List Addition) :
    bodiesOf strategy (additions.filterMap block?) =
      Source.Body.bodiesOf strategy.keyword additions := by
  induction additions with
  | nil => rfl
  | cons addition rest ih =>
      rcases addition with ⟨name, value⟩ | ⟨kind, body⟩
      · exact ih
      cases found : Strategy.ofKeyword? kind with
      | none =>
          have other : (Addition.block kind body).name ≠ strategy.keyword := fun same => by
            cases found.symm.trans (Strategy.ofKeyword?_eq_some.mpr same)
          rw [List.filterMap_cons_none (by rw [block?_block, found]; rfl),
            Source.Body.bodiesOf_cons_of_ne other, ih]
      | some own =>
          obtain rfl : kind = own.keyword := Strategy.ofKeyword?_eq_some.mp found
          rw [List.filterMap_cons_some (by rw [block?_block, found]; rfl)]
          by_cases same : own = strategy
          · subst same
            rw [bodiesOf_cons_self, Source.Body.bodiesOf_cons_self, ih]
          · have other : (Addition.block own.keyword body).name ≠ strategy.keyword :=
              mt Strategy.keyword_injective same
            rw [bodiesOf_cons_of_ne _ _ same, Source.Body.bodiesOf_cons_of_ne other, ih]

/-- The document of a body holds its blocks, unless an attribute takes the name of a strategy. -/
theorem holdsBlocks_of_assemble {additions : List Addition} {document : Document}
    (assembled : assemble additions = .ok document)
    (unassigned : ∀ strategy : Strategy, ∀ value, .attribute strategy.keyword value ∉ additions) :
    ∃ file, document = .object file ∧ HoldsBlocks file (additions.filterMap block?) := by
  obtain ⟨file, rfl, found⟩ := get?_of_assemble assembled
  refine ⟨file, rfl, fun strategy => ?_⟩
  rw [found strategy.keyword (unassigned strategy), bodiesOf_filterMap_block?]
  cases Source.Body.bodiesOf strategy.keyword additions with
  | nil => rfl
  | cons body bodies => rfl

end Declaration

end Stowage
