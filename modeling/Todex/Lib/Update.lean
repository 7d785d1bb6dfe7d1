import Mathlib.Logic.Function.Basic

/-!
# Functions with one changed value
-/

namespace Function

variable {α β : Type} [DecidableEq α] {f : α → β} {a b : α} {v w : β}

/-- A value of the changed function is the new one, or one that was there before. -/
lemma of_update_eq (h : update f a v b = w) : b = a ∧ v = w ∨ b ≠ a ∧ f b = w := by
  by_cases hb : b = a
  · subst hb
    rw [update_self] at h
    exact .inl ⟨rfl, h⟩
  · rw [update_of_ne hb] at h
    exact .inr ⟨hb, h⟩

/-- What holds of the new value and of the others holds of each. -/
lemma update_cases {p : β → Prop} (hself : b = a → p v) (ho : b ≠ a → p (f b)) : p (update f a v b) := by
  by_cases hb : b = a
  · subst hb
    rw [update_self]
    exact hself rfl
  · rw [update_of_ne hb]
    exact ho hb

end Function
