/-! # Reading from the front of a list

A reader takes a value from the front of a list and leaves a shorter list.  The proof that it is
shorter travels with the value, so that readers may call each other and still end.
-/

namespace Stowage

/-- A value read from the front of `source`, and the shorter list behind it. -/
structure Taken {σ : Type} (source : List σ) (α : Type) where
  value : α
  rest : List σ
  shorter : rest.length < source.length

namespace Taken

variable {σ α β : Type} {source : List σ}

def map (f : α → β) (taken : Taken source α) : Taken source β :=
  ⟨f taken.value, taken.rest, taken.shorter⟩

/-- A value read from the front of a part, as one read from the whole. -/
def within {part : List σ} (taken : Taken part α) (bound : part.length ≤ source.length) :
    Taken source α :=
  ⟨taken.value, taken.rest, Nat.lt_of_lt_of_le taken.shorter bound⟩

def one {first : σ} {rest : List σ} (value : α) : Taken (first :: rest) α :=
  ⟨value, rest, Nat.lt_succ_self _⟩

def two {first second : σ} {rest : List σ} (value : α) : Taken (first :: second :: rest) α :=
  ⟨value, rest, Nat.lt_succ_of_lt (Nat.lt_succ_self _)⟩

def behind {first : σ} (taken : Taken source α) : Taken (first :: source) α :=
  taken.within (Nat.le_succ _)

def upTo {first : σ} (value : α) (rest : List σ) (bound : rest.length ≤ source.length) :
    Taken (first :: source) α :=
  ⟨value, rest, Nat.lt_succ_of_le bound⟩

/-- Leaves out the front of what follows. -/
def skipping (taken : Taken source α) (skip : List σ → List σ)
    (bound : ∀ rest, (skip rest).length ≤ rest.length) : Taken source α :=
  ⟨taken.value, skip taken.rest, Nat.lt_of_le_of_lt (bound taken.rest) taken.shorter⟩

def pop (taken : Taken source α) : Option (Taken source (α × σ)) :=
  match equation : taken.rest with
  | [] => none
  | next :: rest => some ⟨(taken.value, next), rest, by
      have bound := taken.shorter
      rw [equation, List.length_cons] at bound
      omega⟩

def followedBy [DecidableEq σ] (taken : Taken source α) (expected : σ) :
    Option (Taken source α) :=
  match taken.pop with
  | some ⟨(value, next), rest, shorter⟩ =>
    if next = expected then some ⟨value, rest, shorter⟩ else none
  | none => none

end Taken

end Stowage
