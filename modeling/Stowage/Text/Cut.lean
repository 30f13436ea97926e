/-! # Cutting texts

The pieces of a text around one character are made of `takeWhile` and `dropWhile`.  A mark that is
not in the first piece cuts it off whole (`before_append_mark`, `after_append_mark`), and a piece
never holds its mark (`not_mem_before`, `not_mem_afterLast`).  Around a mark that is there the pieces
make up the text again (`before_append_after`, `exists_append_afterLast`).  A text can also be cut at
the first place where another text stands; `cut?_eq` says that nothing is lost.
-/

namespace Stowage.Text

/-- The text before the first `mark`; all of it where there is none. -/
def before (mark : Char) (text : List Char) : List Char :=
  text.takeWhile (· != mark)

/-- The text after the first `mark`; nothing where there is none. -/
def after (mark : Char) (text : List Char) : List Char :=
  (text.dropWhile (· != mark)).drop 1

theorem length_after_le (mark : Char) (text : List Char) : (after mark text).length ≤ text.length :=
  ((List.drop_sublist 1 _).trans (List.dropWhile_sublist _)).length_le

/-- The text after the last `mark`; all of it where there is none. -/
def afterLast (mark : Char) (text : List Char) : List Char :=
  (before mark text.reverse).reverse

section

variable {mark c : Char} {left right text : List Char}

theorem ne_of_not_mem (free : mark ∉ text) : ∀ c ∈ text, (c != mark) = true := by
  intro c member
  exact bne_iff_ne.mpr fun same => free (same ▸ member)

theorem before_append_mark (free : mark ∉ left) : before mark (left ++ mark :: right) = left := by
  rw [before, List.takeWhile_append_of_pos (ne_of_not_mem free)]
  simp

theorem before_of_not_mem (free : mark ∉ text) : before mark text = text := by
  have whole : (text ++ []).takeWhile (· != mark) = text ++ [] := by
    rw [List.takeWhile_append_of_pos (ne_of_not_mem free), List.takeWhile_nil]
  simpa [before] using whole

theorem after_append_mark (free : mark ∉ left) : after mark (left ++ mark :: right) = right := by
  rw [after, List.dropWhile_append_of_pos (ne_of_not_mem free)]
  simp

theorem after_of_not_mem (free : mark ∉ text) : after mark text = [] := by
  have whole : (text ++ []).dropWhile (· != mark) = [] := by
    rw [List.dropWhile_append_of_pos (ne_of_not_mem free), List.dropWhile_nil]
  simpa [after] using congrArg (List.drop 1) whole

theorem not_mem_before : mark ∉ before mark text := by
  intro member
  have kept := List.all_eq_true.mp List.all_takeWhile mark member
  simp at kept

theorem mem_of_mem_before (member : c ∈ before mark text) : c ∈ text :=
  (List.takeWhile_sublist _).subset member

theorem mem_of_mem_after (member : c ∈ after mark text) : c ∈ text :=
  ((List.drop_sublist 1 _).trans (List.dropWhile_sublist _)).subset member

theorem afterLast_of_not_mem (free : mark ∉ text) : afterLast mark text = text := by
  rw [afterLast, before_of_not_mem (by simpa using free), List.reverse_reverse]

theorem not_mem_afterLast : mark ∉ afterLast mark text := by
  simpa [afterLast] using not_mem_before

theorem mem_of_mem_afterLast (member : c ∈ afterLast mark text) : c ∈ text := by
  have reversed : c ∈ before mark text.reverse := by simpa [afterLast] using member
  simpa using mem_of_mem_before reversed

theorem before_append_after (member : mark ∈ text) :
    before mark text ++ mark :: after mark text = text := by
  obtain ⟨left, right, rfl, free⟩ := List.eq_append_cons_of_mem member
  rw [before_append_mark free, after_append_mark free]

theorem afterLast_append_mark (free : mark ∉ right) :
    afterLast mark (left ++ mark :: right) = right := by
  have reversed : (left ++ mark :: right).reverse = right.reverse ++ mark :: left.reverse := by simp
  rw [afterLast, reversed, before_append_mark (by simpa using free), List.reverse_reverse]

theorem exists_append_afterLast (member : mark ∈ text) :
    ∃ start, text = start ++ mark :: afterLast mark text := by
  refine ⟨(after mark text.reverse).reverse, ?_⟩
  have reversed := before_append_after (List.mem_reverse.mpr member)
  have whole := congrArg List.reverse reversed
  simpa [afterLast] using whole.symm

/-- What is taken while a condition holds goes up to where it fails first. -/
theorem takeWhile_append_stop {p : Char → Bool} (kept : ∀ c ∈ left, p c = true)
    (stop : ∀ c ∈ right.head?, p c = false) : (left ++ right).takeWhile p = left := by
  rw [List.takeWhile_append_of_pos kept]
  cases right with
  | nil => simp
  | cons head rest => simp [stop head rfl]

theorem stop_dropWhile {p : Char → Bool} : ∀ c ∈ (text.dropWhile p).head?, p c = false := by
  intro c member
  have stop := List.head?_dropWhile_not p text
  rwa [member] at stop

end

def endsIn (text ending : List Char) : Bool :=
  ending.isSuffixOf text

/-- The text before and the text after the first place where `mark` stands. -/
def cut? (mark : List Char) : List Char → Option (List Char × List Char)
  | [] => if mark.isEmpty then some ([], []) else none
  | c :: rest =>
    if mark.isPrefixOf (c :: rest) then some ([], (c :: rest).drop mark.length)
    else (cut? mark rest).map fun (before, after) => (c :: before, after)

theorem cut?_eq {mark text left right : List Char} (found : cut? mark text = some (left, right)) :
    text = left ++ (mark ++ right) := by
  induction text generalizing left with
  | nil =>
      simp only [cut?, Option.ite_none_right_eq_some, Option.some.injEq, Prod.mk.injEq,
        List.isEmpty_iff] at found
      obtain ⟨rfl, rfl, rfl⟩ := found
      rfl
  | cons c rest ih =>
      unfold cut? at found
      split at found
      · next here =>
          obtain ⟨tail, whole⟩ := List.isPrefixOf_iff_prefix.mp here
          simp only [Option.some.injEq, Prod.mk.injEq] at found
          rw [← found.1, ← found.2, ← whole]
          simp
      · obtain ⟨⟨left', right'⟩, later, same⟩ := Option.map_eq_some_iff.mp found
        simp only [Prod.mk.injEq] at same
        obtain ⟨rfl, rfl⟩ := same
        rw [ih later]
        rfl

end Stowage.Text
