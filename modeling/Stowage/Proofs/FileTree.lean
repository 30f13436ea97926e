import Mathlib.Data.List.Forall2
import Mathlib.Data.List.Nodup
import Stowage.FileTree

/-! # Places in file trees

An entry of a tree lies at the end of a row of names (`walk?`).  In a proper tree every directory
lists each of its names once; then each place is met exactly once on the way through all entries
(`mem_reachable_iff`, `nodup_reachable`).  The order in which directories list their entries is not
seen from the places: in a reordered tree everything lies where it lay (`Reordered.areSame`,
`find?_same`).
-/

namespace Stowage.FileTree

/-- What lies at the end of a row of names. -/
def walk? (tree : FileTree) : Names → Option FileTree
  | [] => some tree
  | name :: names => (tree.child? name).bind fun child => child.walk? names

/-- Every directory of the tree lists each of its names once. -/
def IsProper (tree : FileTree) : Prop :=
  ∀ names entries, tree.walk? names = some (.directory entries) → (entries.map Prod.fst).Nodup

/-- The content of a file; a directory has none. -/
def content? : FileTree → Option ByteArray
  | .file content => some content
  | .directory _ => none

/-- Trees with the same places, where the same files or else directories lie. -/
def Alike (tree other : FileTree) : Prop :=
  ∀ names, (tree.walk? names).map content? = (other.walk? names).map content?

/-- The same tree with the entries of its directories listed in other orders. -/
inductive Reordered : FileTree → FileTree → Prop
  | refl (tree : FileTree) : Reordered tree tree
  | shuffled {entries others : List (String × FileTree)} (perm : entries.Perm others) :
      Reordered (.directory entries) (.directory others)
  | inside {before after : List (String × FileTree)} {name : String} {entry other : FileTree}
      (reordered : Reordered entry other) :
      Reordered (.directory (before ++ (name, entry) :: after))
        (.directory (before ++ (name, other) :: after))
  | trans {first second third : FileTree} (left : Reordered first second)
      (right : Reordered second third) : Reordered first third

variable {tree other entry below : FileTree} {entries : List (String × FileTree)}
  {names : Names} {name : String}

/-! ## Children -/

theorem mem_of_lookup (found : entries.lookup name = some entry) : (name, entry) ∈ entries := by
  induction entries with
  | nil => cases found
  | cons first rest ih =>
      obtain ⟨key, value⟩ := first
      rw [List.lookup_cons] at found
      by_cases same : name = key
      · subst same
        rw [beq_self_eq_true, Option.some.injEq] at found
        exact found ▸ List.mem_cons_self
      · rw [beq_false_of_ne same] at found
        exact List.mem_cons_of_mem _ (ih found)

theorem lookup_of_mem (distinct : (entries.map Prod.fst).Nodup) (member : (name, entry) ∈ entries) :
    entries.lookup name = some entry := by
  induction entries with
  | nil => cases member
  | cons first rest ih =>
      obtain ⟨key, value⟩ := first
      rw [List.map_cons, List.nodup_cons] at distinct
      rw [List.lookup_cons]
      rcases List.mem_cons.mp member with same | later
      · cases same
        rw [beq_self_eq_true]
      · have different : name ≠ key := by
          rintro rfl
          exact distinct.1 (List.mem_map.mpr ⟨(name, entry), later, rfl⟩)
        rw [beq_false_of_ne different]
        exact ih distinct.2 later

theorem child?_directory_iff (distinct : (entries.map Prod.fst).Nodup) :
    (directory entries).child? name = some entry ↔ (name, entry) ∈ entries :=
  ⟨mem_of_lookup, lookup_of_mem distinct⟩

@[simp] theorem walk?_nil (tree : FileTree) : tree.walk? [] = some tree := rfl

theorem walk?_cons (tree : FileTree) (name : String) (names : Names) :
    tree.walk? (name :: names) = (tree.child? name).bind fun child => child.walk? names := rfl

theorem walk?_cons_of_child (found : tree.child? name = some below) :
    tree.walk? (name :: names) = below.walk? names := by
  rw [walk?_cons, found, Option.bind_some]

theorem walk?_singleton (tree : FileTree) (name : String) :
    tree.walk? [name] = tree.child? name := by
  simp [walk?_cons]

/-! ## Proper trees -/

theorem isProper_file (content : ByteArray) : (file content).IsProper := by
  intro names entries reached
  cases names with
  | nil => cases reached
  | cons name names => cases reached

theorem IsProper.distinct (proper : (directory entries).IsProper) :
    (entries.map Prod.fst).Nodup :=
  proper [] entries rfl

theorem IsProper.child (proper : tree.IsProper) (found : tree.child? name = some below) :
    below.IsProper := by
  intro names entries reached
  exact proper (name :: names) entries ((walk?_cons_of_child found).trans reached)

theorem isProper_directory_iff : (directory entries).IsProper ↔
    (entries.map Prod.fst).Nodup ∧ ∀ entry ∈ entries, entry.2.IsProper := by
  constructor
  · intro proper
    exact ⟨proper.distinct, fun (name, entry) member =>
      proper.child ((child?_directory_iff proper.distinct).mpr member)⟩
  · rintro ⟨distinct, inner⟩ names listed reached
    cases names with
    | nil =>
        cases reached
        exact distinct
    | cons name names =>
        rw [walk?_cons] at reached
        obtain ⟨entry, found, deeper⟩ := Option.bind_eq_some_iff.mp reached
        exact inner (name, entry) (mem_of_lookup found) names listed deeper

/-! ## All entries under a directory -/

theorem mem_descendantsOf_iff : (names, entry) ∈ descendantsOf entries ↔
    ∃ name below, (name, below) ∈ entries ∧ ∃ rest, names = name :: rest ∧
      (rest = [] ∧ entry = below ∨ (rest, entry) ∈ below.descendants) := by
  induction entries with
  | nil => simp [descendantsOf]
  | cons first others ih =>
      obtain ⟨key, value⟩ := first
      rw [descendantsOf, List.mem_append, ih, List.mem_cons, List.mem_map]
      constructor
      · rintro ((same | ⟨⟨rest, found⟩, member, same⟩) | ⟨name, below, member, later⟩)
        · cases same
          exact ⟨_, _, List.mem_cons_self, [], rfl, .inl ⟨rfl, rfl⟩⟩
        · cases same
          exact ⟨_, _, List.mem_cons_self, rest, rfl, .inr member⟩
        · exact ⟨name, below, List.mem_cons_of_mem _ member, later⟩
      · rintro ⟨name, below, member, rest, rfl, here | deeper⟩ <;>
          rcases List.mem_cons.mp member with same | later
        · cases same
          obtain ⟨rfl, rfl⟩ := here
          exact .inl (.inl rfl)
        · exact .inr ⟨name, below, later, rest, rfl, .inl here⟩
        · cases same
          exact .inl (.inr ⟨(rest, entry), deeper, rfl⟩)
        · exact .inr ⟨name, below, later, rest, rfl, .inr deeper⟩

theorem mem_descendants_iff (proper : tree.IsProper) :
    (names, entry) ∈ tree.descendants ↔ names ≠ [] ∧ tree.walk? names = some entry := by
  induction names generalizing tree with
  | nil =>
      cases tree with
      | file content => simp [descendants]
      | directory entries => simp [descendants, mem_descendantsOf_iff]
  | cons name names ih =>
      cases tree with
      | file content => simp [descendants, walk?_cons, child?]
      | directory entries =>
          have child (below : FileTree) : (directory entries).child? name = some below ↔
              (name, below) ∈ entries := child?_directory_iff proper.distinct
          rw [descendants, mem_descendantsOf_iff, walk?_cons, Option.bind_eq_some_iff]
          constructor
          · rintro ⟨_, below, member, _, same, here | deeper⟩ <;> cases same
            · obtain ⟨rfl, rfl⟩ := here
              exact ⟨List.cons_ne_nil _ _, entry, (child entry).mpr member, rfl⟩
            · have found := (child below).mpr member
              exact ⟨List.cons_ne_nil _ _, below, found, ((ih (proper.child found)).mp deeper).2⟩
          · rintro ⟨_, below, found, reached⟩
            refine ⟨name, below, (child below).mp found, names, rfl, ?_⟩
            cases names with
            | nil => exact .inl ⟨rfl, (Option.some.inj reached).symm⟩
            | cons next names =>
                exact .inr ((ih (proper.child found)).mpr ⟨List.cons_ne_nil _ _, reached⟩)

theorem ne_nil_of_mem_descendants (member : names ∈ tree.descendants.map Prod.fst) :
    names ≠ [] := by
  obtain ⟨⟨names, entry⟩, listed, rfl⟩ := List.mem_map.mp member
  cases tree with
  | file content => cases listed
  | directory entries =>
      obtain ⟨_, _, _, _, rfl, _⟩ := mem_descendantsOf_iff.mp listed
      exact List.cons_ne_nil _ _

mutual

theorem nodup_descendants : (tree : FileTree) → tree.IsProper →
    (tree.descendants.map Prod.fst).Nodup
  | .file _, _ => List.nodup_nil
  | .directory entries, proper =>
    nodup_descendantsOf entries (isProper_directory_iff.mp proper).1
      (isProper_directory_iff.mp proper).2

theorem nodup_descendantsOf : (entries : List (String × FileTree)) →
    (entries.map Prod.fst).Nodup → (∀ entry ∈ entries, entry.2.IsProper) →
    ((descendantsOf entries).map Prod.fst).Nodup
  | [], _, _ => List.nodup_nil
  | (name, entry) :: entries, distinct, proper => by
    obtain ⟨fresh, distinct⟩ := List.nodup_cons.mp distinct
    obtain ⟨own, others⟩ := List.forall_mem_cons.mp proper
    have inner := nodup_descendants entry own
    have behind := nodup_descendantsOf entries distinct others
    have whole : (descendantsOf ((name, entry) :: entries)).map Prod.fst =
        ([name] :: (entry.descendants.map Prod.fst).map (name :: ·)) ++
          (descendantsOf entries).map Prod.fst := by
      simp [descendantsOf, Function.comp_def]
    rw [whole, List.nodup_append]
    refine ⟨List.nodup_cons.mpr ⟨?_, inner.map fun _ _ => List.tail_eq_of_cons_eq⟩, behind, ?_⟩
    · intro member
      obtain ⟨rest, listed, same⟩ := List.mem_map.mp member
      exact ne_nil_of_mem_descendants listed (List.tail_eq_of_cons_eq same)
    · -- What lies under this entry begins with its name, and no other entry has that name.
      intro left under right member same
      obtain ⟨⟨_, found⟩, listed, rfl⟩ := List.mem_map.mp member
      obtain ⟨other, below, sibling, rest, rfl, _⟩ := mem_descendantsOf_iff.mp listed
      have first : left.head? = some name := by
        rcases List.mem_cons.mp under with rfl | deeper
        · rfl
        · obtain ⟨_, _, rfl⟩ := List.mem_map.mp deeper
          rfl
      rw [same] at first
      cases first
      exact fresh (List.mem_map.mpr ⟨(name, below), sibling, rfl⟩)

end

theorem mem_reachable_iff (proper : tree.IsProper) {recurse : Bool} :
    (names, entry) ∈ tree.reachable recurse ↔
      names ≠ [] ∧ (recurse = true ∨ names.length = 1) ∧ tree.walk? names = some entry := by
  cases recurse with
  | true => simp [reachable, mem_descendants_iff proper]
  | false =>
      simp only [reachable, Bool.false_eq_true, if_false, false_or, List.mem_map]
      constructor
      · rintro ⟨⟨name, below⟩, member, same⟩
        cases same
        refine ⟨List.cons_ne_nil _ _, rfl, ?_⟩
        cases tree with
        | file content => cases member
        | directory entries =>
            rw [walk?_singleton]
            exact (child?_directory_iff proper.distinct).mpr member
      · rintro ⟨_, single, reached⟩
        obtain ⟨name, rfl⟩ := List.length_eq_one_iff.mp single
        rw [walk?_singleton] at reached
        cases tree with
        | file content => cases reached
        | directory entries => exact ⟨(name, entry), mem_of_lookup reached, rfl⟩

theorem nodup_reachable (proper : tree.IsProper) (recurse : Bool) :
    ((tree.reachable recurse).map Prod.fst).Nodup := by
  cases recurse with
  | true => exact nodup_descendants tree proper
  | false =>
      have single : (tree.reachable false).map Prod.fst =
          (tree.entries.map Prod.fst).map fun name => [name] := by
        simp [reachable, Function.comp_def]
      rw [single]
      refine List.Nodup.map (fun _ _ => List.head_eq_of_cons_eq) ?_
      cases tree with
      | file content => exact List.nodup_nil
      | directory entries => exact proper.distinct

/-! ## Trees that differ in the order of their entries -/

/-- Proper trees in which everything lies at the same places. -/
structure AreSame (tree other : FileTree) : Prop where
  left : tree.IsProper
  right : other.IsProper
  alike : tree.Alike other

theorem AreSame.refl (proper : tree.IsProper) : AreSame tree tree :=
  ⟨proper, proper, fun _ => rfl⟩

theorem AreSame.content?_eq (same : AreSame tree other) : tree.content? = other.content? :=
  Option.some.inj (same.alike [])

/-- At the same name lies the same, or nothing in both trees. -/
theorem AreSame.child? (same : AreSame tree other) (name : String) :
    Option.Rel AreSame (tree.child? name) (other.child? name) := by
  have here := same.alike [name]
  rw [walk?_singleton, walk?_singleton] at here
  cases found : tree.child? name with
  | none =>
      rw [found, Option.map_none, eq_comm, Option.map_eq_none_iff] at here
      rw [here]
      exact .none
  | some below =>
      rw [found, Option.map_some, eq_comm, Option.map_eq_some_iff] at here
      obtain ⟨beside, found', _⟩ := here
      rw [found']
      refine .some ⟨same.left.child found, same.right.child found', fun names => ?_⟩
      have deeper := same.alike (name :: names)
      rwa [walk?_cons_of_child found, walk?_cons_of_child found'] at deeper

/-- Directories are the same if at every name lies the same. -/
theorem areSame_directory {others : List (String × FileTree)}
    (left : (directory entries).IsProper) (right : (directory others).IsProper)
    (children : ∀ name, Option.Rel AreSame ((directory entries).child? name)
      ((directory others).child? name)) : AreSame (directory entries) (directory others) := by
  refine ⟨left, right, fun names => ?_⟩
  cases names with
  | nil => rfl
  | cons name names =>
      have child := children name
      rw [walk?_cons, walk?_cons]
      generalize (directory entries).child? name = left at child ⊢
      generalize (directory others).child? name = right at child ⊢
      cases child with
      | none => rfl
      | some same => exact same.alike names

theorem child?_same_of_eq (proper : tree.IsProper)
    (equal : tree.child? name = other.child? name) :
    Option.Rel AreSame (tree.child? name) (other.child? name) := by
  rw [← equal]
  cases found : tree.child? name with
  | none => exact .none
  | some below => exact .some (.refl (proper.child found))

theorem isProper_shuffled {others : List (String × FileTree)} (perm : entries.Perm others)
    (proper : (directory entries).IsProper) : (directory others).IsProper := by
  rw [isProper_directory_iff] at proper ⊢
  exact ⟨(perm.map Prod.fst).nodup_iff.mp proper.1,
    fun entry member => proper.2 entry (perm.mem_iff.mpr member)⟩

theorem Reordered.areSame (reordered : Reordered tree other) (proper : tree.IsProper) :
    AreSame tree other := by
  induction reordered with
  | refl tree => exact .refl proper
  | @shuffled entries others perm =>
      have kept := isProper_shuffled perm proper
      refine areSame_directory proper kept fun name => child?_same_of_eq proper ?_
      refine Option.ext fun below => ?_
      rw [child?_directory_iff proper.distinct, child?_directory_iff kept.distinct, perm.mem_iff]
  | @inside before after name entry other reordered ih =>
      obtain ⟨distinct, each⟩ := isProper_directory_iff.mp proper
      have same := ih (each (name, entry) (by simp))
      have kept : (directory (before ++ (name, other) :: after)).IsProper := by
        refine isProper_directory_iff.mpr ⟨by simpa using distinct, fun found member => ?_⟩
        rcases List.mem_append.mp member with left | right
        · exact each found (List.mem_append_left _ left)
        · rcases List.mem_cons.mp right with rfl | right
          · exact same.right
          · exact each found (List.mem_append_right _ (List.mem_cons_of_mem _ right))
      refine areSame_directory proper kept fun key => ?_
      by_cases here : key = name
      · subst here
        have old : (directory (before ++ (key, entry) :: after)).child? key = some entry :=
          (child?_directory_iff distinct).mpr (by simp)
        have new : (directory (before ++ (key, other) :: after)).child? key = some other :=
          (child?_directory_iff kept.distinct).mpr (by simp)
        rw [old, new]
        exact .some same
      · refine child?_same_of_eq proper ?_
        simp [FileTree.child?, List.lookup_append, List.lookup_cons, beq_false_of_ne here]
  | trans left right ihLeft ihRight =>
      have first := ihLeft proper
      have second := ihRight first.right
      exact ⟨proper, second.right, fun names => (first.alike names).trans (second.alike names)⟩

theorem follow?_same {above others : List FileTree} {place there : FileTree}
    (around : List.Forall₂ AreSame above others) (here : AreSame place there) (names : Names) :
    Option.Rel AreSame (follow? above place names) (follow? others there names) := by
  induction names generalizing above others place there with
  | nil => exact .some here
  | cons name names ih =>
      by_cases up : name = ".."
      · subst up
        have kind := here.content?_eq
        cases place <;> cases there <;> cases kind
        · exact .none
        · cases around with
          | nil => exact .none
          | cons parent around => exact ih around parent
      · have child := here.child? name
        rw [follow?, follow?]
        · generalize place.child? name = left at child ⊢
          generalize there.child? name = right at child ⊢
          cases child with
          | none => exact .none
          | some below => exact ih (.cons here around) below
        · exact up
        · exact up

theorem find?_same (same : AreSame tree other) (path : Path) :
    Option.Rel AreSame (tree.find? path) (other.find? path) := by
  rw [find?, find?]
  split
  · exact .none
  · exact follow?_same .nil same path.names

theorem IsProper.find? {path : Path} (proper : tree.IsProper)
    (found : tree.find? path = some entry) : entry.IsProper := by
  have same := find?_same (.refl proper) path
  rw [found] at same
  cases same with
  | some here => exact here.left

/-! ## Trees that are built -/

theorem isProper_directory_nil : (directory []).IsProper :=
  isProper_directory_iff.mpr ⟨List.nodup_nil, nofun⟩

theorem isProper_directory_entries (proper : tree.IsProper) :
    (directory tree.entries).IsProper := by
  cases tree with
  | file content => exact isProper_directory_nil
  | directory entries => exact proper

theorem isProper_put (own : entry.IsProper) (proper : (directory entries).IsProper)
    (names : Names) : (directory (put entry names entries)).IsProper := by
  induction names generalizing entries with
  | nil => exact proper
  | cons name names ih =>
      obtain ⟨distinct, each⟩ := isProper_directory_iff.mp proper
      have below : ((entries.lookup name).getD (.directory [])).IsProper := by
        cases found : entries.lookup name with
        | none => exact isProper_directory_nil
        | some old => exact each (name, old) (mem_of_lookup found)
      rw [put, isProper_directory_iff, List.map_cons, List.nodup_cons, List.forall_mem_cons]
      refine ⟨⟨by simp, ?_⟩, ?_, fun other member => each other (List.mem_filter.mp member).1⟩
      · exact distinct.sublist ((List.filter_sublist).map Prod.fst)
      · dsimp only
        split
        · split
          · exact below
          · exact own
        · exact ih (isProper_directory_entries below)

/-- A tree that is built entry by entry is proper, whatever places are written twice. -/
theorem isProper_ofEntries {entries : List (Names × FileTree)}
    (each : ∀ entry ∈ entries, entry.2.IsProper) : (ofEntries entries).IsProper := by
  suffices folded : ∀ listed, (directory listed).IsProper → (directory
      (entries.foldl (fun tree entry => put entry.2 entry.1 tree) listed)).IsProper from
    folded [] isProper_directory_nil
  induction entries with
  | nil => exact fun _ proper => proper
  | cons entry rest ih =>
      obtain ⟨own, others⟩ := List.forall_mem_cons.mp each
      exact fun listed proper => ih others _ (isProper_put own proper entry.1)

end Stowage.FileTree
