import Mathlib

/-!
# Calls that may panic

A call ends with a value, with an error that its caller can handle, or with a panic, which
nothing above it handles. A sequence of calls panics exactly when one of them does after all
the ones before it have returned.
-/

/-- How a call ends. -/
inductive Ends (α : Type*) where
  | ok (a : α)
  | err
  | panicked
  deriving DecidableEq, Repr

namespace Ends

variable {α β : Type}

instance : Monad Ends where
  pure := .ok
  bind x f := match x with
    | .ok a => f a
    | .err => .err
    | .panicked => .panicked

/-- A call with an error as its only result. -/
def check (succeeds : Prop) [Decidable succeeds] : Ends Unit := if succeeds then .ok () else .err

/-- A call with a value or an error. -/
def ofOption : Option α → Ends α
  | some a => .ok a
  | none => .err

/-- The use of a pointer that may be nil. -/
def deref : Option α → Ends α
  | some a => .ok a
  | none => .panicked

theorem bind_eq_ok {x : Ends α} {f : α → Ends β} {b : β} :
    (x >>= f) = .ok b ↔ ∃ a, x = .ok a ∧ f a = .ok b := by
  cases x <;> simp [bind]

theorem bind_eq_panicked {x : Ends α} {f : α → Ends β} :
    (x >>= f) = .panicked ↔ x = .panicked ∨ ∃ a, x = .ok a ∧ f a = .panicked := by
  cases x <;> simp [bind]

@[simp] theorem pure_ne_panicked (a : α) : (pure a : Ends α) ≠ .panicked := by simp [pure]

@[simp] theorem check_ne_panicked (succeeds : Prop) [Decidable succeeds] :
    check succeeds ≠ .panicked := by
  unfold check
  split <;> simp

@[simp] theorem check_eq_ok {succeeds : Prop} [Decidable succeeds] {u : Unit} :
    check succeeds = .ok u ↔ succeeds := by
  unfold check
  split <;> simp_all

theorem ofOption_eq_ok {o : Option α} {a : α} : ofOption o = .ok a ↔ o = some a := by
  cases o <;> simp [ofOption]

@[simp] theorem ofOption_ne_panicked (o : Option α) : ofOption o ≠ .panicked := by
  cases o <;> simp [ofOption]

@[simp] theorem deref_eq_ok {o : Option α} {a : α} : deref o = .ok a ↔ o = some a := by
  cases o <;> simp [deref]

/-- Calls that do not panic in a row do not panic. -/
theorem bind_ne_panicked {x : Ends α} {f : α → Ends β} (first : x ≠ .panicked)
    (next : ∀ a, x = .ok a → f a ≠ .panicked) : (x >>= f) ≠ .panicked := by
  rw [Ne, bind_eq_panicked]
  rintro (h | ⟨a, ha, h⟩)
  · exact first h
  · exact next a ha h

end Ends
