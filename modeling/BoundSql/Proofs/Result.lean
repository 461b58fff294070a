import Mathlib.Data.List.Forall2

/-!
# Results taken apart

A result is a value or a refusal. A chain of steps has a result when each step
has one, which is what a proof needs to look at the steps one by one.
-/

namespace BoundSql.Result

variable {ε ε' α β : Type}

/-- A chain of two steps has a value when the first step has one from which the second
gives it. -/
theorem bind_eq_ok_iff {x : Except ε α} {f : α → Except ε β} {b : β} :
    (x >>= f) = .ok b ↔ ∃ a, x = .ok a ∧ f a = .ok b := by
  cases x <;> simp [bind, Except.bind]

/-- A mapped result has a value when the result has one that is mapped to it. -/
theorem map_eq_ok_iff {x : Except ε α} {f : α → β} {b : β} :
    x.map f = .ok b ↔ ∃ a, x = .ok a ∧ f a = b := by
  cases x <;> simp [Except.map]

/-- Renaming refusals changes no value. -/
theorem mapError_eq_ok_iff {x : Except ε α} {f : ε → ε'} {a : α} :
    x.mapError f = .ok a ↔ x = .ok a := by
  cases x with
  | error refusal =>
    change Except.error (f refusal) = .ok a ↔ Except.error refusal = .ok a
    constructor <;> intro h <;> cases h
  | ok b =>
    change (Except.ok b : Except ε' α) = .ok a ↔ Except.ok b = .ok a
    rw [Except.ok.injEq, Except.ok.injEq]

/-- Items that all have a result have the results in order. -/
theorem forall₂_of_mapM_eq_ok {f : α → Except ε β} {list : List α} {results : List β}
    (h : list.mapM f = .ok results) : List.Forall₂ (fun a b => f a = .ok b) list results := by
  induction list generalizing results with
  | nil =>
    cases h
    exact .nil
  | cons a rest ih =>
    rw [List.mapM_cons] at h
    obtain ⟨b, hb, h⟩ := bind_eq_ok_iff.1 h
    obtain ⟨others, hothers, h⟩ := bind_eq_ok_iff.1 h
    cases h
    exact .cons hb (ih hothers)

end BoundSql.Result
