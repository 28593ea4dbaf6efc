import Concord.Json.ReadError
import Mathlib.Data.List.Forall2

/-!
# Computations that may fail

A chain of computations gives a result exactly when each of them does, and a traversal of a list
gives a list exactly when it reads every item.
-/

namespace Concord

variable {ε α β : Type}

/-- A chain succeeds when its first part does and the rest succeeds with the result. -/
theorem bind_eq_ok {x : Except ε α} {f : α → Except ε β} {b : β} :
    x >>= f = .ok b ↔ ∃ a, x = .ok a ∧ f a = .ok b := by
  cases x <;> simp [bind, Except.bind]

/-- A returned result is the result. -/
theorem pure_eq_ok {a b : α} : (pure a : Except ε α) = .ok b ↔ a = b := by
  simp [pure, Except.pure]

/-- Changing a result keeps whether there is one. -/
theorem map_eq_ok {x : Except ε α} {f : α → β} {b : β} :
    x.map f = .ok b ↔ ∃ a, x = .ok a ∧ f a = b := by
  cases x <;> simp [Except.map]

/-- Changing a failure keeps the result. -/
theorem mapError_eq_ok {ε' : Type} {x : Except ε α} {f : ε → ε'} {a : α} :
    x.mapError f = .ok a ↔ x = .ok a := by
  cases x <;> simp [Except.mapError]

/-- What a computation gives, its failure forgotten. -/
theorem toOption_eq_some {x : Except ε α} {a : α} : x.toOption = some a ↔ x = .ok a := by
  cases x <;> simp [Except.toOption]

/-- A computation fails when it gives no result. -/
theorem exists_error_iff {x : Except ε α} : (∃ e, x = .error e) ↔ ¬ ∃ a, x = .ok a := by
  cases x <;> simp

/-- A traversal succeeds when it reads every item, and gives what it read. -/
theorem mapM_eq_ok {f : α → Except ε β} {xs : List α} {ys : List β} :
    xs.mapM f = .ok ys ↔ List.Forall₂ (fun x y => f x = .ok y) xs ys := by
  induction xs generalizing ys with
  | nil =>
    rw [List.mapM_nil, pure_eq_ok, List.forall₂_nil_left_iff]
    exact eq_comm
  | cons x rest ih =>
    rw [List.mapM_cons, bind_eq_ok, List.forall₂_cons_left_iff]
    simp only [bind_eq_ok, pure_eq_ok, ih]
    constructor
    · rintro ⟨y, read, others, all, rfl⟩
      exact ⟨y, others, read, all, rfl⟩
    · rintro ⟨y, others, read, all, rfl⟩
      exact ⟨y, read, others, all, rfl⟩

/-- Of two lists that are related item by item, what stands in the second is related to an item of
the first. -/
theorem exists_related_of_mem {related : α → β → Prop} {xs : List α} {ys : List β} {y : β}
    (all : List.Forall₂ related xs ys) (there : y ∈ ys) : ∃ x ∈ xs, related x y := by
  induction all with
  | nil => contradiction
  | cons first _ ih =>
    rcases List.mem_cons.mp there with rfl | later
    · exact ⟨_, List.mem_cons_self, first⟩
    · obtain ⟨x, inside, same⟩ := ih later
      exact ⟨x, List.mem_cons_of_mem _ inside, same⟩

end Concord
