import Mathlib

/-!
# Fields between separators

A field in which the separator does not occur ends where the separator first occurs. A field behind
which no separator occurs ends where it occurs last.
-/

namespace Separated

variable {α : Type} {sep : α}

/-- The first separator ends the first field. -/
lemma eq_of_first (ha : sep ∉ a) (ha' : sep ∉ a') (h : a ++ sep :: b = a' ++ sep :: b') : a = a' ∧ b = b' := by
  induction a generalizing a' with
  | nil =>
    cases a' with
    | nil => exact ⟨rfl, (List.cons.inj h).2⟩
    | cons x a' =>
      rw [List.nil_append, List.cons_append, List.cons.injEq] at h
      exact absurd (h.1 ▸ List.mem_cons_self) ha'
  | cons y a ih =>
    cases a' with
    | nil =>
      rw [List.nil_append, List.cons_append, List.cons.injEq] at h
      exact absurd (h.1 ▸ List.mem_cons_self) ha
    | cons x a' =>
      rw [List.cons_append, List.cons_append, List.cons.injEq] at h
      obtain ⟨rfl, h⟩ := h
      obtain ⟨rfl, rfl⟩ := ih (List.not_mem_of_not_mem_cons ha) (List.not_mem_of_not_mem_cons ha') h
      exact ⟨rfl, rfl⟩

/-- The last separator begins the last field. -/
lemma eq_of_last (hb : sep ∉ b) (hb' : sep ∉ b') (h : a ++ sep :: b = a' ++ sep :: b') : a = a' ∧ b = b' := by
  have hr := congrArg List.reverse h
  simp only [List.reverse_append, List.reverse_cons, List.append_assoc, List.singleton_append]
    at hr
  obtain ⟨hlast, hf⟩ := eq_of_first (by rwa [List.mem_reverse]) (by rwa [List.mem_reverse])
    hr
  exact ⟨List.reverse_injective hf, List.reverse_injective hlast⟩

lemma mem_of_mem_intercalate (h : x ∈ [sep].intercalate fields) : x = sep ∨ ∃ field ∈ fields, x ∈ field := by
  induction fields with
  | nil => cases h
  | cons field fields ih =>
    cases fields with
    | nil => exact .inr ⟨field, List.mem_cons_self, by simpa using h⟩
    | cons next fields =>
      rw [List.intercalate_cons_cons, List.mem_append, List.mem_append, List.mem_singleton] at h
      rcases h with (h | h) | h
      · exact .inr ⟨field, List.mem_cons_self, h⟩
      · exact .inl h
      · exact (ih h).imp_right fun ⟨other, ho, hx⟩ => ⟨other, List.mem_cons_of_mem _ ho, hx⟩

variable [DecidableEq α]

/-- Fields that are not empty are found again between their separators. -/
lemma eq_of_intercalate (h : ∀ field ∈ fields, sep ∉ field ∧ field ≠ [])
    (h' : ∀ field ∈ fields', sep ∉ field ∧ field ≠ [])
    (heq : [sep].intercalate fields = [sep].intercalate fields') : fields = fields' := by
  have hnil {l : List (List α)} (hl : ∀ field ∈ l, sep ∉ field ∧ field ≠ [])
      (he : [sep].intercalate l = []) : l = [] := by
    by_contra hne
    have hs := List.splitOn_intercalate sep (fun field hf => (hl field hf).1) hne
    rw [he, List.splitOn_nil] at hs
    exact (hl [] (hs ▸ List.mem_singleton_self _)).2 rfl
  by_cases he : fields = []
  · subst he
    exact (hnil h' heq.symm).symm
  · by_cases he' : fields' = []
    · subst he'
      exact hnil h heq
    · rw [← List.splitOn_intercalate sep (fun field hf => (h field hf).1) he, heq,
        List.splitOn_intercalate sep (fun field hf => (h' field hf).1) he']

end Separated
