import Mathlib.Data.List.Forall2

/-!
# Results that agree

Two results agree when both are values that are related, or when both are refusals and
the refusals are the same. A chain of steps agrees with another one when each step does.
-/

namespace BoundSql.Result

variable {ε ε' α β γ δ : Type}

/-- Results with related values or the same refusal. -/
inductive Agree (R : α → β → Prop) : Except ε α → Except ε β → Prop where
  /-- Both are values, and they are related. -/
  | ok {a : α} {b : β} (h : R a b) : Agree R (.ok a) (.ok b)
  /-- Both are the same refusal. -/
  | error (e : ε) : Agree R (.error e) (.error e)

/-- A result agrees with itself when each value is related to itself. -/
theorem Agree.refl {R : α → α → Prop} (h : ∀ a, R a a) (x : Except ε α) : Agree R x x := by
  cases x with
  | ok a => exact .ok (h a)
  | error e => exact .error e

/-- Chains of steps agree when their steps do. -/
theorem Agree.bind {R : α → β → Prop} {S : γ → δ → Prop} {x : Except ε α} {y : Except ε β}
    (h : Agree R x y) {f : α → Except ε γ} {g : β → Except ε δ}
    (hsteps : ∀ a b, R a b → Agree S (f a) (g b)) : Agree S (x >>= f) (y >>= g) := by
  cases h with
  | ok hvalues => exact hsteps _ _ hvalues
  | error e => exact .error e

/-- Chains with the same first step agree when they do behind its value. -/
theorem Agree.bind_same {S : γ → δ → Prop} {x : Except ε α} {f : α → Except ε γ}
    {g : α → Except ε δ} (hsteps : ∀ a, Agree S (f a) (g a)) : Agree S (x >>= f) (x >>= g) := by
  cases x with
  | ok a => exact hsteps a
  | error e => exact .error e

/-- Mapped results agree when their values are mapped to related ones. -/
theorem Agree.map {R : α → β → Prop} {S : γ → δ → Prop} {x : Except ε α} {y : Except ε β}
    (h : Agree R x y) {f : α → γ} {g : β → δ} (hvalues : ∀ a b, R a b → S (f a) (g b)) :
    Agree S (x.map f) (y.map g) := by
  cases h with
  | ok hrelated => exact .ok (hvalues _ _ hrelated)
  | error e => exact .error e

/-- Two mappings of one result agree when they map its value to related ones. -/
theorem Agree.map_same {S : γ → δ → Prop} {x : Except ε α} {f : α → γ} {g : α → δ}
    (hvalues : ∀ a, S (f a) (g a)) : Agree S (x.map f) (x.map g) := by
  cases x with
  | ok a => exact .ok (hvalues a)
  | error e => exact .error e

/-- Results that agree still do when their refusals are renamed. -/
theorem Agree.mapError {R : α → β → Prop} {x : Except ε α} {y : Except ε β} (h : Agree R x y)
    (f : ε → ε') : Agree R (x.mapError f) (y.mapError f) := by
  cases h with
  | ok hrelated => exact .ok hrelated
  | error e => exact .error (f e)

/-- The results of two related lists agree when those of related items do. -/
theorem Agree.mapM {R : α → β → Prop} {S : γ → δ → Prop} {list : List α} {others : List β}
    (h : List.Forall₂ R list others) {f : α → Except ε γ} {g : β → Except ε δ}
    (hitems : ∀ a b, R a b → Agree S (f a) (g b)) :
    Agree (List.Forall₂ S) (list.mapM f) (others.mapM g) := by
  induction h with
  | nil => exact .ok .nil
  | cons hfirst _ ih =>
    rw [List.mapM_cons, List.mapM_cons]
    apply (hitems _ _ hfirst).bind
    intro c d hcd
    apply ih.bind
    intro cs ds hrest
    exact .ok (.cons hcd hrest)

end BoundSql.Result
