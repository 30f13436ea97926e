import Mathlib.Data.List.Flatten
import Mathlib.Data.List.Lex
import Stowage.Proofs.Collection
import Stowage.Proofs.FileTree
import Stowage.Scan

/-! # Scanning file by file

A scan loads the declaration files under a directory one after the other, each of them once, in the
order of their places (`isListing_files`).  It gives what all of them declare, or stops at the first
that cannot be loaded or read; in which order directories list their entries does not matter
(`runWith_gathers`).
-/

namespace Stowage.Logged

variable {ε α β : Type} {step : α → Logged ε β}

/-- What comes of some of the items comes of all items in the same order. -/
theorem sublist_of_collect {items others : List α} (part : items.Sublist others)
    {values more : List β} (collected : (collect step items).result = .ok values)
    (all : (collect step others).result = .ok more) : values.Sublist more := by
  induction part generalizing values more with
  | slnil =>
      cases collected
      exact List.nil_sublist more
  | cons item part ih =>
      obtain ⟨value, rest, _, behind, rfl⟩ := result_collect_cons_eq_ok.mp all
      exact (ih collected behind).cons value
  | cons_cons item part ih =>
      obtain ⟨value, rest, here, behind, rfl⟩ := result_collect_cons_eq_ok.mp collected
      obtain ⟨value', rest', here', behind', rfl⟩ := result_collect_cons_eq_ok.mp all
      cases here.symm.trans here'
      exact (ih behind behind').cons_cons value

theorem map_ok (f : α → β) (events : List Event) (value : α) :
    f <$> (⟨events, .ok value⟩ : Logged ε α) = ⟨events, .ok (f value)⟩ :=
  congrArg (Logged.mk · _) (List.append_nil events)

end Stowage.Logged

namespace Stowage.Scan

open FileTree (AreSame content? find?_same mem_reachable_iff nodup_reachable)

/-! ## The order of places -/

/-- Places are compared name by name, and names by code points. -/
def Precedes (first second : Names) : Prop :=
  List.Lex (fun name other : String => name < other) first second

variable {first second third : Names}

theorem not_precedes_self (names : Names) : ¬Precedes names names :=
  List.lex_irrefl String.lt_irrefl names

theorem Precedes.trans (left : Precedes first second) (right : Precedes second third) :
    Precedes first third :=
  List.lex_trans String.lt_trans left right

instance : Std.Trichotomous Precedes :=
  inferInstanceAs (Std.Trichotomous (List.Lex fun name other : String => name < other))

instance : Decidable (Precedes first second) :=
  decidable_of_iff (first.lex second (fun name other => decide (name < other)) = true)
    (by simp [Precedes])

theorem before_iff {left right : Names × FileTree} :
    before left right = true ↔ ¬Precedes right.1 left.1 := by
  simp [before, Precedes]

theorem before_trans (left middle right : Names × FileTree)
    (first : before left middle = true) (second : before middle right = true) :
    before left right = true := by
  rw [before_iff] at first second ⊢
  intro under
  -- The place in the middle comes before neither of the others, so it is both of them.
  by_cases between : Precedes middle.1 left.1
  · exact first between
  · by_cases later : Precedes left.1 middle.1
    · exact second (under.trans later)
    · have same : left.1 = middle.1 := Std.Trichotomous.trichotomous _ _ later between
      exact second (same ▸ under)

theorem before_total (left right : Names × FileTree) :
    (before left right || before right left) = true := by
  rw [Bool.or_eq_true, before_iff, before_iff, ← not_and_or]
  rintro ⟨first, second⟩
  exact not_precedes_self _ (first.trans second)

/-- There is one way only to put given places in their order. -/
theorem eq_of_sorted {α : Type} {left right : List (Names × α)}
    (sortedLeft : left.Pairwise fun item next => Precedes item.1 next.1)
    (sortedRight : right.Pairwise fun item next => Precedes item.1 next.1)
    (same : ∀ item, item ∈ left ↔ item ∈ right) : left = right := by
  have distinct {items : List (Names × α)}
      (sorted : items.Pairwise fun item next => Precedes item.1 next.1) : items.Nodup := by
    refine sorted.imp ?_
    rintro item _ less rfl
    exact not_precedes_self item.1 less
  refine List.Perm.eq_of_pairwise (fun item next _ _ less greater => ?_) sortedLeft sortedRight
    ((List.perm_ext_iff_of_nodup (distinct sortedLeft) (distinct sortedRight)).mpr same)
  exact absurd (less.trans greater) (not_precedes_self item.1)

/-! ## Listings -/

/-- The declaration files under a directory, at any depth or directly in it, in their order.  What
lies at a place of such a name is listed, be it a file or a directory. -/
structure IsListing (directory : FileTree) (recurse : Bool)
    (files : List (Names × FileTree)) : Prop where
  mem_iff {names : Names} {entry : FileTree} : (names, entry) ∈ files ↔
    ∃ above name, names = above ++ [name] ∧ ".hcl".toList <:+ name.toList ∧
      (recurse = true ∨ above = []) ∧ directory.walk? names = some entry
  sorted : files.Pairwise fun file next => Precedes file.1 next.1

theorem isDeclarationFile_iff {names : Names} : isDeclarationFile names = true ↔
    ∃ above name, names = above ++ [name] ∧ ".hcl".toList <:+ name.toList := by
  rw [isDeclarationFile]
  cases last : names.getLast? with
  | none =>
      obtain rfl := List.getLast?_eq_none_iff.mp last
      simp
  | some name =>
      obtain ⟨above, rfl⟩ := List.getLast?_eq_some_iff.mp last
      simp [Text.endsIn, ending]

variable {directory other : FileTree} {recurse : Bool}

theorem mem_files_iff {names : Names} {entry : FileTree} :
    (names, entry) ∈ files directory recurse ↔
      isDeclarationFile names = true ∧ (names, entry) ∈ directory.reachable recurse := by
  rw [files, List.mem_mergeSort, List.mem_filter, and_comm]

theorem isListing_files (proper : directory.IsProper) (recurse : Bool) :
    IsListing directory recurse (files directory recurse) where
  mem_iff := by
    intro names entry
    rw [mem_files_iff, isDeclarationFile_iff, mem_reachable_iff proper]
    constructor
    · rintro ⟨⟨above, name, rfl, named⟩, _, depth, reached⟩
      exact ⟨above, name, rfl, named, by simpa using depth, reached⟩
    · rintro ⟨above, name, rfl, named, depth, reached⟩
      exact ⟨⟨above, name, rfl, named⟩, by simp, by simpa using depth, reached⟩
  sorted := by
    have ordered : (files directory recurse).Pairwise fun file next => before file next = true :=
      List.pairwise_mergeSort before_trans before_total _
    have distinct : ((files directory recurse).map Prod.fst).Nodup := by
      refine ((List.mergeSort_perm _ _).map Prod.fst).nodup_iff.mpr ?_
      exact (nodup_reachable proper recurse).sublist (List.filter_sublist.map Prod.fst)
    refine (ordered.and (List.pairwise_map.mp distinct)).imp fun {file next} ⟨kept, differ⟩ => ?_
    exact Classical.byContradiction fun unordered =>
      differ (Std.Trichotomous.trichotomous _ _ unordered (before_iff.mp kept))

/-- There is one listing only. -/
theorem IsListing.eq_files {listed : List (Names × FileTree)}
    (listing : IsListing directory recurse listed) (proper : directory.IsProper) :
    listed = files directory recurse :=
  eq_of_sorted listing.sorted (isListing_files proper recurse).sorted fun _ =>
    listing.mem_iff.trans (isListing_files proper recurse).mem_iff.symm

theorem files_eq_of_perm {listed : List (Names × FileTree)} (proper : directory.IsProper)
    (sorted : listed.Pairwise fun file next => Precedes file.1 next.1)
    (perm :
      ((directory.reachable recurse).filter fun file => isDeclarationFile file.1).Perm listed) :
    files directory recurse = listed :=
  eq_of_sorted (isListing_files proper recurse).sorted sorted fun _ =>
    ((List.mergeSort_perm _ _).trans perm).mem_iff

/-- The files directly in a directory come in the same order when all files under it are listed. -/
theorem files_sublist (proper : directory.IsProper) :
    (files directory false).Sublist (files directory true) := by
  have direct := isListing_files proper false
  have all := isListing_files proper true
  have same : files directory false =
      (files directory true).filter fun file => file.1.length == 1 := by
    refine eq_of_sorted direct.sorted (all.sorted.sublist List.filter_sublist)
      fun (names, entry) => ?_
    rw [List.mem_filter, direct.mem_iff, all.mem_iff]
    constructor
    · rintro ⟨above, name, rfl, named, depth, reached⟩
      exact ⟨⟨above, name, rfl, named, .inl rfl, reached⟩, by simpa using depth⟩
    · rintro ⟨⟨above, name, rfl, named, _, reached⟩, single⟩
      exact ⟨above, name, rfl, named, by simpa using single, reached⟩
  rw [same]
  exact List.filter_sublist

/-- A file as it is loaded: of a directory nothing counts but that it is one. -/
def bare : FileTree → FileTree
  | .file content => .file content
  | .directory _ => .directory []

theorem bare_eq_iff {tree other : FileTree} :
    bare tree = bare other ↔ tree.content? = other.content? := by
  cases tree <;> cases other <;> simp [bare, content?]

/-- In trees where the same lies at each place the same files are listed. -/
theorem files_same (same : AreSame directory other) (recurse : Bool) :
    (files directory recurse).map (Prod.map id bare) =
      (files other recurse).map (Prod.map id bare) := by
  have left := isListing_files same.left recurse
  have right := isListing_files same.right recurse
  have places (names : Names) :
      (directory.walk? names).map bare = (other.walk? names).map bare := by
    have here := same.alike names
    cases found : directory.walk? names <;> cases found' : other.walk? names <;>
      simp_all [bare_eq_iff]
  refine eq_of_sorted (List.pairwise_map.mpr left.sorted) (List.pairwise_map.mpr right.sorted) ?_
  rintro ⟨names, entry⟩
  have listed {tree : FileTree} {files : List (Names × FileTree)}
      (listing : IsListing tree recurse files) : (names, entry) ∈ files.map (Prod.map id bare) ↔
        ∃ above name, names = above ++ [name] ∧ ".hcl".toList <:+ name.toList ∧
          (recurse = true ∨ above = []) ∧ (tree.walk? names).map bare = some entry := by
    rw [List.mem_map]
    constructor
    · rintro ⟨⟨_, found⟩, member, pair⟩
      cases pair
      obtain ⟨above, name, whole, named, depth, reached⟩ := listing.mem_iff.mp member
      exact ⟨above, name, whole, named, depth, Option.map_eq_some_iff.mpr ⟨found, reached, rfl⟩⟩
    · rintro ⟨above, name, whole, named, depth, reached⟩
      obtain ⟨found, here, rfl⟩ := Option.map_eq_some_iff.mp reached
      exact ⟨(names, found), listing.mem_iff.mpr ⟨above, name, whole, named, depth, here⟩, rfl⟩
  rw [listed left, listed right, places]

/-! ## Carrying out a scan -/

section

variable {φ ρ : Type} (loader : Loader φ) (kinds : List (Kind ρ)) (surroundings : Surroundings)
  (context : Document.Fields) (path : Path) (file : Names × FileTree)

/-- What a listed file declares, or why it stops a scan. -/
def declared : Except (Stop φ) (List (Declaration ρ)) :=
  match loader.load context file.2 with
  | .error fault => .error (.file (path.under file.1).text fault)
  | .ok document =>
    (Declaration.ofDocument kinds surroundings document).result.mapError .declaration

/-- What is reported about a listed file: that it is loaded, and what reading it reports. -/
def reports : List Event :=
  .loading (path.under file.1).text ::
    match loader.load context file.2 with
    | .error _ => []
    | .ok document => (Declaration.ofDocument kinds surroundings document).events

/-- Loading and reading a listed file. -/
def readListed : Logged (Stop φ) (List (Declaration ρ)) :=
  read loader kinds surroundings context (path.under file.1).text file.2

theorem readListed_eq : readListed loader kinds surroundings context path file =
    ⟨reports loader kinds surroundings context path file,
      declared loader kinds surroundings context path file⟩ := by
  rw [readListed, read, reports, declared]
  cases loader.load context file.2 <;> rfl

theorem readListed_bare :
    readListed loader kinds surroundings context path (Prod.map id bare file) =
      readListed loader kinds surroundings context path file := by
  obtain ⟨names, entry⟩ := file
  cases entry <;> rfl

theorem collect_files_same {directory other : FileTree} (same : AreSame directory other)
    (recurse : Bool) :
    Logged.collect (readListed loader kinds surroundings context path) (files other recurse) =
      Logged.collect (readListed loader kinds surroundings context path)
        (files directory recurse) := by
  have stripped (listed : List (Names × FileTree)) :
      Logged.collect (readListed loader kinds surroundings context path)
          (listed.map (Prod.map id bare)) =
        Logged.collect (readListed loader kinds surroundings context path) listed := by
    rw [Logged.collect_map]
    exact Logged.collect_congr fun file _ =>
      readListed_bare loader kinds surroundings context path file
  rw [← stripped, ← files_same same, stripped]

variable {path} {tree : FileTree}

/-- A scan does not see in which order directories list their entries. -/
theorem runWith_same {other : FileTree} (same : AreSame tree other) (recurse : Bool) :
    runWith loader kinds surroundings context other path recurse =
      runWith loader kinds surroundings context tree path recurse := by
  have place := find?_same same path
  rw [runWith, runWith]
  generalize tree.find? path = left at place ⊢
  generalize other.find? path = right at place ⊢
  cases place with
  | none => rfl
  | @some here there found =>
      have kind := found.content?_eq
      cases here <;> cases there <;> cases kind
      · rfl
      · exact congrArg (List.flatten <$> ·)
          (collect_files_same loader kinds surroundings context path found recurse)

theorem runWith_of_directory {entries : List (String × FileTree)}
    (found : tree.find? path = some (.directory entries)) (recurse : Bool) :
    runWith loader kinds surroundings context tree path recurse =
      List.flatten <$> Logged.collect (readListed loader kinds surroundings context path)
        (files (.directory entries) recurse) := by
  rw [runWith, found]
  rfl

theorem runWith_of_no_directory
    (missing : ∀ entries, tree.find? path ≠ some (.directory entries)) (recurse : Bool) :
    runWith loader kinds surroundings context tree path recurse =
      ⟨[.noDirectory path.text], .ok []⟩ := by
  rw [runWith]
  split
  · next entries found => exact absurd found (missing entries)
  · rfl

/-- A directory is scanned file by file.  If every listed file declares something, a scan gives all
their declarations, file after file; if not, it stops at the first that does not, and nothing is
reported of those behind it.  The declarations of the files directly in a directory come in the same
order when all files under it are scanned.  Where there is no directory there are no declarations.
None of this depends on the order in which directories list their entries. -/
theorem runWith_gathers (proper : tree.IsProper) :
    (∀ path entries, tree.find? path = some (.directory entries) →
      (∀ recurse, ∃ files, IsListing (.directory entries) recurse files ∧
        ((∀ file ∈ files, ∃ found,
            declared loader kinds surroundings context path file = .ok found) →
          ∃ lists, List.Forall₂ (fun file found =>
              declared loader kinds surroundings context path file = .ok found) files lists ∧
            runWith loader kinds surroundings context tree path recurse =
              ⟨files.flatMap (reports loader kinds surroundings context path),
                .ok lists.flatten⟩) ∧
        (∀ before file after stop, files = before ++ file :: after →
          (∀ earlier ∈ before, ∃ found,
            declared loader kinds surroundings context path earlier = .ok found) →
          declared loader kinds surroundings context path file = .error stop →
          runWith loader kinds surroundings context tree path recurse =
            ⟨before.flatMap (reports loader kinds surroundings context path) ++
              reports loader kinds surroundings context path file, .error stop⟩) ∧
        ((∀ file ∈ files, ∃ found,
            declared loader kinds surroundings context path file = .ok found) ∨
          ∃ before file after stop, files = before ++ file :: after ∧
            (∀ earlier ∈ before, ∃ found,
              declared loader kinds surroundings context path earlier = .ok found) ∧
            declared loader kinds surroundings context path file = .error stop)) ∧
      ∀ shallow deep,
        (runWith loader kinds surroundings context tree path false).result = .ok shallow →
        (runWith loader kinds surroundings context tree path true).result = .ok deep →
        shallow.Sublist deep) ∧
    (∀ path recurse, (∀ entries, tree.find? path ≠ some (.directory entries)) →
      runWith loader kinds surroundings context tree path recurse =
        ⟨[.noDirectory path.text], .ok []⟩) ∧
    ∀ other, tree.Reordered other → ∀ path recurse,
      runWith loader kinds surroundings context other path recurse =
        runWith loader kinds surroundings context tree path recurse := by
  refine ⟨fun path entries found => ?_, fun path recurse missing =>
    runWith_of_no_directory loader kinds surroundings context missing recurse,
    fun other reordered path recurse =>
      runWith_same loader kinds surroundings context (reordered.areSame proper) recurse⟩
  have inner : (FileTree.directory entries).IsProper := proper.find? found
  have each (file : Names × FileTree) : declared loader kinds surroundings context path file =
      (readListed loader kinds surroundings context path file).result := by rw [readListed_eq]
  have told : reports loader kinds surroundings context path =
      fun file => (readListed loader kinds surroundings context path file).events :=
    funext fun file => by rw [readListed_eq]
  simp only [each, told, runWith_of_directory loader kinds surroundings context found]
  refine ⟨fun recurse => ⟨_, isListing_files inner recurse, fun passed => ?_,
    fun before file after stop split passed failed => ?_, Logged.forall_ok_or_first_error _ _⟩,
    fun shallow deep some all => ?_⟩
  · obtain ⟨lists, found, collected⟩ := Logged.collect_of_ok passed
    exact ⟨lists, found, by rw [collected, Logged.map_ok]⟩
  · rw [split, Logged.collect_of_error passed failed]
    rfl
  · obtain ⟨lists, collected, rfl⟩ := Logged.result_map_eq_ok.mp some
    obtain ⟨others, collected', rfl⟩ := Logged.result_map_eq_ok.mp all
    exact (Logged.sublist_of_collect (files_sublist inner) collected collected').flatten

end

/-- The file below `a` is loaded before `a-b.hcl`, whose text is no text: by places, and not by the
characters of whole paths. -/
theorem runWith_gathers_nested :
    let loader : Loader DeclarationFile.Fault :=
      ⟨fun _ content => if content.isEmpty then .ok (.object []) else .error .notText, .isDirectory⟩
    let tree : FileTree := .directory [("a-b.hcl", .file ⟨#[0xff]⟩), ("title", .file ⟨#[]⟩),
      ("a", .directory [("b.hcl", .file ⟨#[]⟩)])]
    tree.IsProper ∧
      runWith loader ([] : List (Kind Config)) {} [] tree (.ofText ".") true =
        ⟨[.loading "a/b.hcl", .loading "a-b.hcl"], .error (.file "a-b.hcl" .notText)⟩ := by
  intro loader tree
  have proper : tree.IsProper := by
    simp [tree, FileTree.isProper_directory_iff, FileTree.isProper_file]
  obtain ⟨scanned, _⟩ := runWith_gathers loader ([] : List (Kind Config)) {} [] proper
  obtain ⟨files, listing, _, stops, _⟩ := (scanned (.ofText ".") _ rfl).1 true
  have listed : files = [(["a", "b.hcl"], .file ⟨#[]⟩), (["a-b.hcl"], .file ⟨#[0xff]⟩)] :=
    (listing.eq_files proper).trans
      (files_eq_of_perm proper (by decide) (List.Perm.swap _ _ _))
  exact ⟨proper, stops [(["a", "b.hcl"], .file ⟨#[]⟩)] (["a-b.hcl"], .file ⟨#[0xff]⟩) [] _ listed
    (List.forall_mem_singleton.mpr ⟨[], rfl⟩) rfl⟩

end Stowage.Scan
