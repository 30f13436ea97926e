import Stowage.Interpolation
import Stowage.Text.Cut

/-! # Interpolation as one substitution

No two references of a text overlap (`StandsAt.disjoint`).  So each place of a text belongs to one
reference at most, and the text becomes what its places become (`expand_substitutes`): where a
reference begins there is what it stands for, within a reference there is nothing more, and every
other character stays.  Which places these are is decided by the text alone, never by what is put in.
-/

namespace Stowage

open Text

namespace Reference

def name : Reference → String
  | .variable name | .plain name => name

/-- The name of a reference is one or more word characters. -/
def IsWellFormed (reference : Reference) : Prop :=
  reference.name.toList ≠ [] ∧ ∀ c ∈ reference.name.toList, isWordChar c = true

/-- A reference begins at a place of a text. -/
def StandsAt (reference : Reference) (text : List Char) (place : Nat) : Prop :=
  reference.IsWellFormed ∧ reference.text <+: text.drop place

/-- A place of a text is one of those of a reference that begins at `start`. -/
def Covers (reference : Reference) (text : List Char) (start place : Nat) : Prop :=
  reference.StandsAt text start ∧ start ≤ place ∧ place < start + reference.text.length

/-- What a reference stands for, and what is reported about it. -/
inductive Means (surroundings : Surroundings) : Reference → List Char → List Event → Prop where
  | set {name value : String} (given : surroundings.environment.lookup name = some value) :
      Means surroundings (.variable name) value.toList []
  | unset {name : String} (absent : surroundings.environment.lookup name = none) :
      Means surroundings (.variable name) [] [.unsetVariable name]
  | directory : Means surroundings (.plain "CWD") surroundings.directory.toList []
  | unknown {name : String} (other : name ≠ "CWD") :
      Means surroundings (.plain name) (text (.plain name)) [.unknownVariable name]

variable {surroundings : Surroundings} {reference first second : Reference}
  {chars rest : List Char} {place start next : Nat}

theorem means_iff {value : List Char} {warnings : List Event} :
    reference.Means surroundings value warnings ↔
      (Piece.reference reference).expand surroundings = (value, warnings) := by
  constructor
  · rintro (given | absent | _ | other)
    · simp [Piece.expand, expand, given]
    · simp [Piece.expand, expand, absent]
    · rfl
    · simp [Piece.expand, expand]
  · intro expanded
    rcases reference with name | name
    · cases found : surroundings.environment.lookup name with
      | none =>
          simp [Piece.expand, expand, found] at expanded
          obtain ⟨rfl, rfl⟩ := expanded
          exact .unset found
      | some value =>
          simp [Piece.expand, expand, found] at expanded
          obtain ⟨rfl, rfl⟩ := expanded
          exact .set found
    · by_cases known : name = "CWD"
      · subst known
        cases expanded
        exact .directory
      · simp [Piece.expand, expand] at expanded
        obtain ⟨rfl, rfl⟩ := expanded
        exact .unknown known

section Reading

theorem text_variable (name : String) : text (.variable name) =
    '$' :: '\x7b' :: (['e', 'n', 'v', '.'] ++ (name.toList ++ ['\x7d'])) := rfl

theorem text_plain (name : String) :
    text (.plain name) = '$' :: '\x7b' :: (name.toList ++ ['\x7d']) := rfl

theorem closedName?_eq_some_iff {name : List Char} : closedName? chars = some (name, rest) ↔
    (name ≠ [] ∧ ∀ c ∈ name, isWordChar c = true) ∧ chars = name ++ '\x7d' :: rest := by
  constructor
  · intro found
    unfold closedName? at found
    split at found
    · next tail closed =>
        dsimp only at found
        split at found
        · cases found
        · next filled =>
            cases found
            refine ⟨⟨by simpa using filled, ?_⟩, ?_⟩
            · exact fun c member => List.all_eq_true.mp List.all_takeWhile c member
            · rw [← closed, List.takeWhile_append_dropWhile]
    · cases found
  · rintro ⟨⟨filled, word⟩, rfl⟩
    have stop : ∀ c ∈ ('\x7d' :: rest).head?, isWordChar c = false := by
      rintro c ⟨⟩
      decide
    have taken := takeWhile_append_stop word stop
    have dropped : (name ++ '\x7d' :: rest).dropWhile isWordChar = '\x7d' :: rest :=
      List.append_cancel_left (taken ▸ List.takeWhile_append_dropWhile)
    simp [closedName?, taken, dropped, filled]

theorem afterEnv?_eq_some_iff :
    afterEnv? chars = some rest ↔ chars = ['e', 'n', 'v', '.'] ++ rest := by
  constructor
  · intro found
    unfold afterEnv? at found
    split at found
    · cases found
      rfl
    · cases found
  · rintro rfl
    rfl

/-- A name has no full stop, so that no plain reference is taken for one to a variable. -/
theorem afterEnv?_plain {name : List Char} (word : ∀ c ∈ name, isWordChar c = true) :
    afterEnv? (name ++ '\x7d' :: rest) = none := by
  refine Option.eq_none_iff_forall_ne_some.mpr fun tail found => ?_
  have split := afterEnv?_eq_some_iff.mp found
  have short : name.length < 4 ∨ '.' ∈ name := by
    refine (Nat.lt_or_ge name.length 4).imp_right fun long => ?_
    have stop : (name ++ '\x7d' :: rest)[3]? = some '.' := by rw [split]; rfl
    rw [List.getElem?_append_left long] at stop
    exact List.mem_of_getElem? stop
  rcases short with short | stop
  · have closed : (name ++ '\x7d' :: rest)[name.length]? = some '\x7d' := by simp
    rw [split, List.getElem?_append_left short] at closed
    exact absurd (List.mem_of_getElem? closed) (by decide)
  · cases word '.' stop

theorem atHead?_eq_some_iff : atHead? chars = some (reference, rest) ↔
    reference.IsWellFormed ∧ chars = reference.text ++ rest := by
  constructor
  · intro found
    unfold atHead? at found
    split at found
    · next body =>
        split at found
        · next inner entered =>
            obtain ⟨⟨name, tail⟩, closed, same⟩ := Option.map_eq_some_iff.mp found
            cases same
            obtain ⟨wellFormed, rfl⟩ := closedName?_eq_some_iff.mp closed
            rw [afterEnv?_eq_some_iff.mp entered, text_variable]
            refine ⟨by simpa [IsWellFormed, Reference.name] using wellFormed, ?_⟩
            simp
        · obtain ⟨⟨name, tail⟩, closed, same⟩ := Option.map_eq_some_iff.mp found
          cases same
          obtain ⟨wellFormed, rfl⟩ := closedName?_eq_some_iff.mp closed
          rw [text_plain]
          refine ⟨by simpa [IsWellFormed, Reference.name] using wellFormed, ?_⟩
          simp
    · cases found
  · rintro ⟨wellFormed, rfl⟩
    rcases reference with name | name
    · have closed : closedName? (name.toList ++ '\x7d' :: rest) = some (name.toList, rest) :=
        closedName?_eq_some_iff.mpr ⟨wellFormed, rfl⟩
      have read : atHead? ('$' :: '\x7b' ::
            (['e', 'n', 'v', '.'] ++ (name.toList ++ '\x7d' :: rest))) =
          (closedName? (name.toList ++ '\x7d' :: rest)).map
            fun found => (.variable (String.ofList found.1), found.2) := rfl
      simpa [text_variable, closed] using read
    · have closed : closedName? (name.toList ++ '\x7d' :: rest) = some (name.toList, rest) :=
        closedName?_eq_some_iff.mpr ⟨wellFormed, rfl⟩
      have bare : afterEnv? (name.toList ++ '\x7d' :: rest) = none :=
        afterEnv?_plain wellFormed.2
      simp [text_plain, atHead?, bare, closed]

end Reading

section Places

theorem standsAt_iff :
    reference.StandsAt chars place ↔ ∃ rest, atHead? (chars.drop place) = some (reference, rest) := by
  simp only [atHead?_eq_some_iff, exists_and_left]
  exact and_congr_right fun _ => exists_congr fun _ => eq_comm

theorem StandsAt.unique (stands : first.StandsAt chars place)
    (other : second.StandsAt chars place) : first = second := by
  obtain ⟨_, found⟩ := standsAt_iff.mp stands
  obtain ⟨_, found'⟩ := standsAt_iff.mp other
  exact congrArg Prod.fst (Option.some.inj (found.symm.trans found'))

theorem StandsAt.getElem? {index : Nat} (stands : reference.StandsAt chars place)
    (within : index < reference.text.length) : chars[place + index]? = reference.text[index]? := by
  obtain ⟨rest, split⟩ := stands.2
  rw [← List.getElem?_drop, ← split, List.getElem?_append_left within]

/-- The sign that begins a reference stands at no other place of it. -/
theorem IsWellFormed.opens_once (wellFormed : reference.IsWellFormed) {index : Nat}
    (opens : reference.text[index]? = some '$') : index = 0 := by
  have named : '$' ∉ reference.name.toList := fun member => nomatch wellFormed.2 '$' member
  have once : ∃ tail, reference.text = '$' :: tail ∧ '$' ∉ tail := by
    rcases reference with name | name
    · exact ⟨_, text_variable name, by simpa [Reference.name] using named⟩
    · exact ⟨_, text_plain name, by simpa [Reference.name] using named⟩
  obtain ⟨tail, split, free⟩ := once
  cases index with
  | zero => rfl
  | succ index =>
      rw [split, List.getElem?_cons_succ] at opens
      exact absurd (List.mem_of_getElem? opens) free

theorem text_pos (reference : Reference) : 0 < reference.text.length := by
  rcases reference with name | name
  · simp [text_variable]
  · simp [text_plain]

theorem head_text (reference : Reference) : reference.text[0]? = some '$' := by
  cases reference <;> rfl

/-- Two references of a text have no place in common. -/
theorem StandsAt.disjoint (stands : first.StandsAt chars start)
    (other : second.StandsAt chars next) (before : start < next) :
    start + first.text.length ≤ next := by
  refine Nat.le_of_not_lt fun within => ?_
  -- Otherwise the sign that opens the second reference is one of the characters of the first.
  have opens := (other.getElem? second.text_pos).trans second.head_text
  have inside := stands.getElem? (by omega : next - start < first.text.length)
  rw [Nat.add_sub_cancel' (Nat.le_of_lt before), ← Nat.add_zero next, opens] at inside
  have first := stands.1.opens_once inside.symm
  omega

end Places

end Reference

namespace Piece

open Reference

theorem ofChars_nil : ofChars [] = [] := by
  rw [ofChars]
  rfl

variable {c : Char} {chars rest : List Char} {head : Reference}

theorem ofChars_reference (found : atHead? chars = some (head, rest)) :
    ofChars chars = .reference head :: ofChars rest := by
  rw [ofChars]
  split
  · next found' =>
      cases found.symm.trans found'
      rfl
  · next unread => cases unread.symm.trans found

theorem ofChars_char (unread : atHead? (c :: rest) = none) :
    ofChars (c :: rest) = .char c :: ofChars rest := by
  rw [ofChars]
  split
  · next found => cases unread.symm.trans found
  · rfl

end Piece

namespace Interpolation

open Reference

variable {α : Type} {chars : List Char} {surroundings : Surroundings}

/-- What stands at each place of a text when references and characters are replaced one by one. -/
structure Places (chars : List Char) (replace : Piece → List α) (part : Nat → List α) : Prop where
  reference {place : Nat} {reference : Reference} (stands : reference.StandsAt chars place) :
    part place = replace (.reference reference)
  within {start place : Nat} {reference : Reference} (stands : reference.StandsAt chars start)
    (after : start < place) (before : place < start + reference.text.length) : part place = []
  other {place : Nat} {c : Char} (here : chars[place]? = some c)
    (free : ∀ (reference : Reference) (start : Nat), ¬reference.Covers chars start place) :
    part place = replace (.char c)

theorem exists_places (chars : List Char) (replace : Piece → List α) :
    ∃ part, Places chars replace part := by
  classical
  refine ⟨fun place =>
    if begins : ∃ reference : Reference, reference.StandsAt chars place then
      replace (.reference begins.choose)
    else if ∃ (reference : Reference) (start : Nat), reference.Covers chars start place then []
    else (chars[place]?.toList).flatMap fun c => replace (.char c), ?_, ?_, ?_⟩
  · intro place reference stands
    have begins : ∃ reference : Reference, reference.StandsAt chars place := ⟨reference, stands⟩
    rw [dif_pos begins, begins.choose_spec.unique stands]
  · intro start place reference stands after before
    have inner : ¬∃ other : Reference, other.StandsAt chars place := by
      rintro ⟨other, begins⟩
      exact absurd (stands.disjoint begins after) (Nat.not_le.mpr before)
    rw [dif_neg inner, if_pos ⟨reference, start, stands, Nat.le_of_lt after, before⟩]
  · intro place c here free
    have unbegun : ¬∃ reference : Reference, reference.StandsAt chars place := by
      rintro ⟨reference, stands⟩
      exact free reference place ⟨stands, Nat.le_refl _, Nat.lt_add_of_pos_right reference.text_pos⟩
    have uncovered : ¬∃ (reference : Reference) (start : Nat), reference.Covers chars start place :=
      fun ⟨reference, start, covers⟩ => free reference start covers
    rw [dif_neg unbegun, if_neg uncovered, here]
    simp

variable {replace : Piece → List α} {part : Nat → List α}

theorem Places.flatMap_reference (places : Places chars replace part) {place : Nat}
    {reference : Reference} (stands : reference.StandsAt chars place) :
    (List.range' place reference.text.length).flatMap part = replace (.reference reference) := by
  obtain ⟨count, length⟩ : ∃ count, reference.text.length = count + 1 :=
    Nat.exists_eq_add_of_lt reference.text_pos |>.imp fun _ same => by omega
  have nothing : (List.range' (place + 1) count).flatMap part = [] := by
    refine List.flatMap_eq_nil_iff.mpr fun inner member => ?_
    have bounds := List.mem_range'_1.mp member
    exact places.within stands (by omega) (by omega)
  rw [length, List.range'_succ, List.flatMap_cons, nothing, places.reference stands,
    List.append_nil]

/-- From a place on that lies within no reference, the pieces of a text are those places. -/
theorem Places.flatMap_eq (places : Places chars replace part) {place count : Nat}
    (upTo : place + count = chars.length)
    (settled : ∀ {reference : Reference} {start : Nat}, reference.StandsAt chars start →
      start < place → start + reference.text.length ≤ place) :
    (List.range' place count).flatMap part = (Piece.ofChars (chars.drop place)).flatMap replace := by
  -- By induction on how much of the text is left: what `settled` says of the next place follows
  -- from `StandsAt.disjoint` behind a reference, and from `settled` itself behind a character.
  induction count using Nat.strongRecOn generalizing place with
  | ind count ih =>
      cases found : atHead? (chars.drop place) with
      | some piece =>
          obtain ⟨head, rest⟩ := piece
          have stands : head.StandsAt chars place := standsAt_iff.mpr ⟨rest, found⟩
          have split := (atHead?_eq_some_iff.mp found).2
          have length : chars.length - place = head.text.length + rest.length := by
            rw [← List.length_drop, split, List.length_append]
          have behind : chars.drop (place + head.text.length) = rest := by
            rw [← List.drop_drop, split, List.drop_left]
          have positive := head.text_pos
          obtain rfl : count = head.text.length + rest.length := by omega
          have upToEnd : place + head.text.length + rest.length = chars.length := by omega
          rw [← List.range'_append_1, List.flatMap_append, places.flatMap_reference stands,
            Piece.ofChars_reference found, List.flatMap_cons]
          refine congrArg (replace (.reference head) ++ ·) ?_
          refine behind ▸ ih rest.length (by omega) upToEnd fun {reference start} earlier before => ?_
          rcases Nat.lt_trichotomy start place with less | rfl | greater
          · exact Nat.le_trans (settled earlier less) (Nat.le_add_right ..)
          · exact Nat.le_of_eq (by rw [earlier.unique stands])
          · exact absurd (stands.disjoint earlier greater) (Nat.not_le.mpr before)
      | none =>
          have unbegun (reference : Reference) : ¬reference.StandsAt chars place := fun stands => by
            obtain ⟨rest, read⟩ := standsAt_iff.mp stands
            cases found.symm.trans read
          cases count with
          | zero =>
              rw [List.drop_eq_nil_of_le (by omega), Piece.ofChars_nil]
              rfl
          | succ count =>
              have inside : place < chars.length := by omega
              have free (reference : Reference) (start : Nat) :
                  ¬reference.Covers chars start place := by
                rintro ⟨stands, least, most⟩
                rcases Nat.lt_or_eq_of_le least with less | rfl
                · exact absurd (settled stands less) (Nat.not_le.mpr most)
                · exact unbegun reference stands
              rw [List.drop_eq_getElem_cons inside] at found ⊢
              rw [Piece.ofChars_char found, List.range'_succ, List.flatMap_cons, List.flatMap_cons,
                places.other (List.getElem?_eq_getElem inside) free]
              refine congrArg (replace (.char chars[place]) ++ ·) ?_
              refine ih count (by omega) (by omega) fun {reference start} stands before => ?_
              rcases Nat.lt_or_eq_of_le (Nat.le_of_lt_succ before) with less | rfl
              · exact Nat.le_succ_of_le (settled stands less)
              · exact absurd stands (unbegun reference)

/-- What a text becomes, place by place, and what is reported about each place. -/
structure Substitution (surroundings : Surroundings) (chars : List Char)
    (value : Nat → List Char) (warnings : Nat → List Event) : Prop where
  reference {place : Nat} {reference : Reference} (stands : reference.StandsAt chars place) :
    reference.Means surroundings (value place) (warnings place)
  within {start place : Nat} {reference : Reference} (stands : reference.StandsAt chars start)
    (after : start < place) (before : place < start + reference.text.length) :
    value place = [] ∧ warnings place = []
  other {place : Nat} {c : Char} (here : chars[place]? = some c)
    (free : ∀ (reference : Reference) (start : Nat), ¬reference.Covers chars start place) :
    value place = [c] ∧ warnings place = []

theorem substitution_iff {value : Nat → List Char} {warnings : Nat → List Event} :
    Substitution surroundings chars value warnings ↔
      Places chars (fun piece => (piece.expand surroundings).1) value ∧
      Places chars (fun piece => (piece.expand surroundings).2) warnings := by
  constructor
  · rintro ⟨reference, within, other⟩
    refine ⟨⟨fun stands => ?_, fun stands after before => (within stands after before).1,
      fun here free => (other here free).1⟩, ⟨fun stands => ?_, fun stands after before =>
      (within stands after before).2, fun here free => (other here free).2⟩⟩
    · rw [means_iff.mp (reference stands)]
    · rw [means_iff.mp (reference stands)]
  · rintro ⟨values, reports⟩
    refine ⟨fun stands => means_iff.mpr ?_, fun stands after before =>
      ⟨values.within stands after before, reports.within stands after before⟩,
      fun here free => ⟨values.other here free, reports.other here free⟩⟩
    rw [values.reference stands, reports.reference stands]

/-- The events that a text gives rise to. -/
def warnings (surroundings : Surroundings) (text : String) : List Event :=
  (Piece.ofChars text.toList).flatMap fun piece => (piece.expand surroundings).2

/-- The text that a text becomes. -/
def substitute (surroundings : Surroundings) (text : String) : String :=
  String.ofList ((Piece.ofChars text.toList).flatMap fun piece => (piece.expand surroundings).1)

theorem expandText_eq {ε : Type} (surroundings : Surroundings) (text : String) :
    expandText surroundings text =
      (⟨warnings surroundings text, .ok (substitute surroundings text)⟩ : Logged ε String) := by
  simp only [expandText, warnings, substitute, List.flatMap_map]

theorem opensReference_iff : opensReference chars = true ↔ ['$', '\x7b'] <:+: chars := by
  induction chars using opensReference.induct with
  | case1 rest => exact iff_of_true rfl ⟨[], rest, rfl⟩
  | case2 c rest unopened ih =>
      have moved : opensReference (c :: rest) = opensReference rest := by
        rw [opensReference]
        exact unopened
      rw [moved, ih, List.infix_cons_iff]
      refine ⟨.inr, fun either => either.resolve_left ?_⟩
      rintro ⟨behind, same⟩
      obtain ⟨rfl, rfl⟩ := List.cons.inj same
      exact unopened behind rfl rfl
  | case3 => simp [opensReference]

theorem atHead?_of_unopened (unopened : opensReference chars = false) : atHead? chars = none := by
  refine Option.eq_none_iff_forall_ne_some.mpr fun (reference, rest) found => ?_
  obtain ⟨_, rfl⟩ := atHead?_eq_some_iff.mp found
  cases reference <;> cases unopened

theorem ofChars_of_unopened (unopened : opensReference chars = false) :
    Piece.ofChars chars = chars.map .char := by
  induction chars with
  | nil => exact Piece.ofChars_nil
  | cons c rest ih =>
      have behind : opensReference rest = false := by
        refine Bool.eq_false_iff.mpr fun opened => Bool.eq_false_iff.mp unopened ?_
        exact opensReference_iff.mpr ((opensReference_iff.mp opened).trans
          (List.suffix_cons c rest).isInfix)
      rw [Piece.ofChars_char (atHead?_of_unopened unopened), ih behind, List.map_cons]

theorem warnings_of_unopened {text : String} (unopened : opensReference text.toList = false) :
    warnings surroundings text = [] := by
  rw [warnings, ofChars_of_unopened unopened, List.flatMap_map]
  exact List.flatMap_eq_nil_iff.mpr fun _ _ => rfl

theorem substitute_of_unopened {text : String} (unopened : opensReference text.toList = false) :
    substitute surroundings text = text := by
  have same : text.toList.flatMap (fun c => ((Piece.char c).expand surroundings).1) = text.toList :=
    List.flatMap_singleton' _
  rw [substitute, ofChars_of_unopened unopened, List.flatMap_map, same, String.ofList_toList]

/-- Whether a text is cut or not makes no difference. -/
theorem expand_text {ε : Type} (surroundings : Surroundings) (text : String) :
    expand surroundings (.text text) = (⟨warnings surroundings text,
      .ok (.text (substitute surroundings text))⟩ : Logged ε Document) := by
  rw [expand]
  by_cases opened : opensReference text.toList = true
  · rw [if_pos opened, expandText_eq]
    change (⟨_ ++ [], _⟩ : Logged ε Document) = _
    rw [List.append_nil]
    rfl
  · have unopened := Bool.eq_false_iff.mpr opened
    rw [if_neg opened, warnings_of_unopened unopened, substitute_of_unopened unopened]
    rfl

/-- What a value becomes: texts are interpolated, and nothing else changes. -/
def expanded (surroundings : Surroundings) : Document → Document
  | .text text => .text (substitute surroundings text)
  | other => other

/-- The events that a value gives rise to. -/
def reports (surroundings : Surroundings) : Document → List Event
  | .text text => warnings surroundings text
  | _ => []

theorem expanded_of_unopened {text : String} (unopened : opensReference text.toList = false) :
    expanded surroundings (.text text) = .text text :=
  congrArg Document.text (substitute_of_unopened unopened)

theorem expand_eq {ε : Type} (surroundings : Surroundings) (value : Document) :
    expand surroundings value =
      (⟨reports surroundings value, .ok (expanded surroundings value)⟩ : Logged ε Document) := by
  cases value with
  | text text => exact expand_text surroundings text
  | _ => rfl

/-- References never overlap, and a text becomes what they stand for in their places, with all
other characters kept.  What is reported is reported about one place after the other. -/
theorem expand_substitutes {ε : Type} (surroundings : Surroundings) (text : String) :
    (∀ (first second : Reference) (start next : Nat),
      first.StandsAt text.toList start → second.StandsAt text.toList next →
      first = second ∧ start = next ∨ start + first.text.length ≤ next ∨
        next + second.text.length ≤ start) ∧
    (∃ value warnings, Substitution surroundings text.toList value warnings) ∧
    (∀ value warnings, Substitution surroundings text.toList value warnings →
      expand surroundings (.text text) =
        (⟨(List.range text.toList.length).flatMap warnings,
          .ok (.text (String.ofList ((List.range text.toList.length).flatMap value)))⟩ :
          Logged ε Document)) ∧
    (¬['$', '\x7b'] <:+: text.toList →
      expand surroundings (.text text) = (⟨[], .ok (.text text)⟩ : Logged ε Document)) := by
  refine ⟨fun first second start next stands other => ?_, ?_, fun value reports whole => ?_,
    fun unopened => ?_⟩
  · rcases Nat.lt_trichotomy start next with before | rfl | after
    · exact .inr (.inl (stands.disjoint other before))
    · exact .inl ⟨stands.unique other, rfl⟩
    · exact .inr (.inr (other.disjoint stands after))
  · obtain ⟨value, values⟩ :=
      exists_places text.toList fun piece => (piece.expand surroundings).1
    obtain ⟨reports, reported⟩ :=
      exists_places text.toList fun piece => (piece.expand surroundings).2
    exact ⟨value, reports, substitution_iff.mpr ⟨values, reported⟩⟩
  · -- No reference begins before the first place, so that nothing has to be settled there.
    obtain ⟨values, reported⟩ := substitution_iff.mp whole
    rw [expand_text, warnings, substitute, List.range_eq_range',
      values.flatMap_eq (Nat.zero_add _) fun _ before => absurd before (Nat.not_lt_zero _),
      reported.flatMap_eq (Nat.zero_add _) fun _ before => absurd before (Nat.not_lt_zero _)]
    rfl
  · have unread := Bool.eq_false_iff.mpr (mt opensReference_iff.mp unopened)
    rw [expand_text, warnings_of_unopened unread, substitute_of_unopened unread]

end Interpolation

end Stowage
