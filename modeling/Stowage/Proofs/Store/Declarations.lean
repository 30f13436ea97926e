import Stowage.Declaration
import Stowage.Proofs.Store.Contents

/-! # Declarations as changes of a store

A declaration that is met changes nothing, and one that is not met is met afterwards.  As long as no
declarations contradict each other, all of them are met after they were carried out once, whatever
their order and however often they repeat each other.
-/

namespace Stowage

namespace Declaration

variable (declaration : Declaration Config)

def wants : Bool :=
  declaration.strategy != .absent

def Names (account name : String) : Prop :=
  account = declaration.resource.account ∧ name = declaration.resource.name

/-- The store holds the declared container if and only if it is wanted. -/
def IsMet (store : Store) : Prop :=
  store.holds declaration.resource.account declaration.resource.name = declaration.wants

instance (store : Store) : Decidable (declaration.IsMet store) :=
  inferInstanceAs (Decidable (_ = _))

end Declaration

namespace Store

variable (store : Store) (declaration : Declaration Config)

def carryOut : Store :=
  if declaration.IsMet store then store
  else if declaration.wants then store.declare declaration.resource
  else store.dropContainer declaration.resource.account declaration.resource.name

theorem carryOut_of_isMet (met : declaration.IsMet store) : store.carryOut declaration = store :=
  if_pos met

theorem carryOut_of_wanted (absent : ¬declaration.IsMet store) (wanted : declaration.wants = true) :
    store.carryOut declaration = store.declare declaration.resource := by
  rw [carryOut, if_neg absent, if_pos wanted]

theorem carryOut_of_unwanted (present : ¬declaration.IsMet store)
    (unwanted : declaration.wants = false) :
    store.carryOut declaration =
      store.dropContainer declaration.resource.account declaration.resource.name := by
  rw [carryOut, if_neg present, if_neg (ne_true_of_eq_false unwanted)]

theorem carryOut_cases :
    store.carryOut declaration = store ∨
      store.carryOut declaration = store.declare declaration.resource ∨
      store.carryOut declaration =
        store.dropContainer declaration.resource.account declaration.resource.name := by
  unfold carryOut
  split
  · exact .inl rfl
  · split
    · exact .inr (.inl rfl)
    · exact .inr (.inr rfl)

@[simp] theorem groups_carryOut : (store.carryOut declaration).groups = store.groups := by
  rcases store.carryOut_cases declaration with same | same | same <;> simp [same]

@[simp] theorem accounts_carryOut : (store.carryOut declaration).accounts = store.accounts := by
  rcases store.carryOut_cases declaration with same | same | same <;> simp [same]

theorem IsNamed.carryOut {store : Store} (named : store.IsNamed) :
    (store.carryOut declaration).IsNamed := by
  rcases store.carryOut_cases declaration with same | same | same <;> rw [same]
  · exact named
  · exact named.declare _
  · exact named.dropContainer _ _

variable {store declaration}

/-- A declaration is met once it was carried out. -/
theorem isMet_carryOut
    (reachable : declaration.wants = true → store.knows declaration.resource.account = true) :
    declaration.IsMet (store.carryOut declaration) := by
  unfold carryOut
  split
  · next met => exact met
  · next unmet =>
    split
    · next wanted =>
      exact (store.holds_declare_self _ (reachable wanted)).trans wanted.symm
    · next unwanted =>
      exact (store.holds_dropContainer_self _ _).trans (eq_false_of_ne_true unwanted).symm

section Frame

variable {account name : String} (other : ¬declaration.Names account name)

include other

theorem holds_carryOut_of_ne :
    (store.carryOut declaration).holds account name = store.holds account name := by
  rcases store.carryOut_cases declaration with same | same | same <;> rw [same]
  · exact store.holds_declare_of_ne account name _ other
  · exact store.holds_dropContainer_of_ne _ _ account name other

theorem container?_carryOut_of_ne :
    (store.carryOut declaration).container? account name = store.container? account name := by
  rcases store.carryOut_cases declaration with same | same | same <;> rw [same]
  · exact (store.container?_declare account name _).trans (if_neg other)
  · exact (store.container?_dropContainer _ _ account name).trans (if_neg other)

theorem policy?_carryOut_of_ne :
    (store.carryOut declaration).policy? account name = store.policy? account name := by
  rcases store.carryOut_cases declaration with same | same | same <;> rw [same]
  · exact (store.policy?_declare account name _).trans (if_neg other)
  · exact store.policy?_dropContainer _ _ account name

end Frame

/-- A declaration that is met stays so as long as the others that name its container agree with
it. -/
theorem isMet_carryOut_of_isMet {earlier : Declaration Config} (met : earlier.IsMet store)
    (reachable : declaration.wants = true → store.knows declaration.resource.account = true)
    (agreed : declaration.Names earlier.resource.account earlier.resource.name →
      declaration.wants = earlier.wants) :
    earlier.IsMet (store.carryOut declaration) := by
  unfold Declaration.IsMet at met ⊢
  by_cases named : declaration.Names earlier.resource.account earlier.resource.name
  · have done : declaration.IsMet (store.carryOut declaration) := isMet_carryOut reachable
    rw [named.1, named.2, ← agreed named]
    exact done
  · rw [holds_carryOut_of_ne named]
    exact met

variable (store) (declarations : List (Declaration Config))

def carryOutAll : Store :=
  declarations.foldl carryOut store

@[simp] theorem groups_carryOutAll : (store.carryOutAll declarations).groups = store.groups := by
  induction declarations generalizing store with
  | nil => rfl
  | cons declaration rest ih => exact (ih _).trans (store.groups_carryOut declaration)

@[simp] theorem accounts_carryOutAll :
    (store.carryOutAll declarations).accounts = store.accounts := by
  induction declarations generalizing store with
  | nil => rfl
  | cons declaration rest ih => exact (ih _).trans (store.accounts_carryOut declaration)

variable {declarations}

theorem container?_carryOutAll_of_ne {account name : String}
    (others : ∀ declaration ∈ declarations, ¬declaration.Names account name) :
    (store.carryOutAll declarations).container? account name = store.container? account name := by
  induction declarations generalizing store with
  | nil => rfl
  | cons declaration rest ih =>
      obtain ⟨other, others⟩ := List.forall_mem_cons.mp others
      exact (ih _ others).trans (container?_carryOut_of_ne other)

theorem policy?_carryOutAll_of_ne {account name : String}
    (others : ∀ declaration ∈ declarations, ¬declaration.Names account name) :
    (store.carryOutAll declarations).policy? account name = store.policy? account name := by
  induction declarations generalizing store with
  | nil => rfl
  | cons declaration rest ih =>
      obtain ⟨other, others⟩ := List.forall_mem_cons.mp others
      exact (ih _ others).trans (policy?_carryOut_of_ne other)

/-- What was met before or is among the declarations is met after all of them, if they agree. -/
theorem isMet_carryOutAll {goal : Declaration Config}
    (reachable : ∀ declaration ∈ declarations, declaration.wants = true →
      store.knows declaration.resource.account = true)
    (agreed : ∀ declaration ∈ declarations,
      declaration.Names goal.resource.account goal.resource.name →
        declaration.wants = goal.wants)
    (met : goal.IsMet store ∨ goal ∈ declarations) :
    goal.IsMet (store.carryOutAll declarations) := by
  induction declarations generalizing store with
  | nil => exact met.resolve_right List.not_mem_nil
  | cons declaration rest ih =>
      obtain ⟨reachableFirst, reachableRest⟩ := List.forall_mem_cons.mp reachable
      obtain ⟨agreedFirst, agreedRest⟩ := List.forall_mem_cons.mp agreed
      -- After the first one the goal is met or still to come, and the accounts are the same.
      refine ih (store.carryOut declaration) (fun other member wanted => ?_) agreedRest ?_
      · rw [store.knows_congr _ (store.groups_carryOut declaration)
          (store.accounts_carryOut declaration)]
        exact reachableRest other member wanted
      · rcases met with met | member
        · exact .inl (isMet_carryOut_of_isMet met reachableFirst agreedFirst)
        · rcases List.mem_cons.mp member with rfl | member
          · exact .inl (isMet_carryOut reachableFirst)
          · exact .inr member

end Store

end Stowage
