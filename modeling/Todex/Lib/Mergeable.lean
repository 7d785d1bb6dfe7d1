import Mathlib

/-!
# Mergeable summaries

A summary of a list that is extended one element at a time (`apply`) and whose instances for
adjacent ranges can be joined (`merge`). If joining commutes with extending the later range, the
summary of a list is the join of the summaries of any partition of it, however the joins are
bracketed.
-/

/-- The operations of a summary `σ` of lists over `ε`. -/
structure Mergeable (ε σ : Type*) where
  /-- The summary of the empty list. -/
  empty : σ
  /-- Extend the summarised list by one element. -/
  apply : σ → ε → σ
  /-- Join with the summary of the list that follows. -/
  merge : σ → σ → σ

namespace Mergeable

variable {ε σ : Type*} (M : Mergeable ε σ)

/-- The summary of a whole list. -/
def fold (l : List ε) : σ := l.foldl M.apply M.empty

@[simp] lemma fold_nil : M.fold [] = M.empty := rfl

lemma fold_concat (l : List ε) (e : ε) : M.fold (l ++ [e]) = M.apply (M.fold l) e := by
  simp [fold]

/-- The laws of a mergeable summary, for lists over the elements `P` accepts; `I` holds of every
summary of such a list. -/
structure Lawful (P : ε → Prop) (I : σ → Prop) : Prop where
  empty_mem : I M.empty
  apply_mem : ∀ {s e}, I s → P e → I (M.apply s e)
  merge_empty : ∀ s, M.merge s M.empty = s
  merge_apply : ∀ s {t e}, I t → P e → M.merge s (M.apply t e) = M.apply (M.merge s t) e

variable {M}

lemma Lawful.fold_mem (hM : M.Lawful P I) (hl : ∀ e ∈ l, P e) : I (M.fold l) := by
  induction l using List.reverseRecOn with
  | nil => exact hM.empty_mem
  | append_singleton l e ih =>
    rw [fold_concat]
    exact hM.apply_mem (ih fun e he => hl e (by simp [he])) (hl e (by simp))

/-- The summary is a homomorphism from concatenation to `merge`. -/
lemma Lawful.fold_append (hM : M.Lawful P I) (l : List ε) (hl' : ∀ e ∈ l', P e) :
    M.fold (l ++ l') = M.merge (M.fold l) (M.fold l') := by
  induction l' using List.reverseRecOn with
  | nil => simp [hM.merge_empty]
  | append_singleton l' e ih =>
    have hl : ∀ e ∈ l', P e := fun e he => hl' e (by simp [he])
    rw [← List.append_assoc, fold_concat, fold_concat, ih hl,
      hM.merge_apply _ (hM.fold_mem hl) (hl' e (by simp))]

end Mergeable

/-- A partition of a list into consecutive ranges together with a bracketing of their joins. -/
inductive Bracketing (ε : Type*)
  | range (l : List ε)
  | join (a b : Bracketing ε)

namespace Bracketing

variable {ε σ : Type*}

/-- The partitioned list. -/
def flatten : Bracketing ε → List ε
  | range l => l
  | join a b => a.flatten ++ b.flatten

/-- Summarise every range and join the summaries as bracketed. -/
def merged (M : Mergeable ε σ) : Bracketing ε → σ
  | range l => M.fold l
  | join a b => M.merge (a.merged M) (b.merged M)

/-- However a list is partitioned and the joins are bracketed, the result is its summary. -/
lemma merged_eq_fold (hM : M.Lawful P I)
    (t : Bracketing ε) (ht : ∀ e ∈ t.flatten, P e) : t.merged M = M.fold t.flatten := by
  induction t with
  | range l => rfl
  | join a b iha ihb =>
    have hb : ∀ e ∈ b.flatten, P e := fun e he => ht e (by simp [flatten, he])
    rw [merged, flatten, iha fun e he => ht e (by simp [flatten, he]), ihb hb,
      hM.fold_append _ hb]

end Bracketing
