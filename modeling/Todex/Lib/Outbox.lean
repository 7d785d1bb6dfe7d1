import Mathlib

/-!
# Delivery in order, at least once

Items are accepted, wait, and are written in the order in which they wait, each at its place under its
label. A write that fails may be done again, so a label may be written more than once. What counts is
where it stands first.
-/

namespace Outbox

variable {α β δ : Type} [DecidableEq β]

/-- The first time that a label is written, another has been written before. -/
def Precedes (labels : List β) (a b : β) : Prop :=
  b ∈ labels → a ∈ labels ∧ labels.idxOf a < labels.idxOf b

lemma Precedes.append {labels : List β} (h : Precedes labels a b)
    (hc : b = c → b ∈ labels ∨ a ∈ labels) : Precedes (labels ++ [c]) a b := by
  intro hb
  by_cases hmem : b ∈ labels
  · obtain ⟨ha, hlt⟩ := h hmem
    refine ⟨List.mem_append_left _ ha, ?_⟩
    rwa [List.idxOf_append_of_mem ha, List.idxOf_append_of_mem hmem]
  · have hbc : b = c := by simpa [hmem] using hb
    have ha := (hc hbc).resolve_left hmem
    refine ⟨List.mem_append_left _ ha, ?_⟩
    rw [List.idxOf_append_of_mem ha, List.idxOf_append_of_notMem hmem]
    exact (List.idxOf_lt_length_of_mem ha).trans_le (Nat.le_add_right _ _)

variable (place : α → δ) (label : α → β)

/-- The items that were accepted are written or wait, and are written in order. -/
structure InOrder (accepted waiting : List α) (written : δ → List β) : Prop where
  nodup : accepted.Nodup
  distinct : ∀ a ∈ accepted, ∀ b ∈ accepted, place a = place b → label a = label b → a = b
  waits : waiting.Sublist accepted
  kept : ∀ a ∈ accepted, label a ∈ written (place a) ∨ a ∈ waiting
  ordered : accepted.Pairwise fun a b => place a = place b → Precedes (written (place b)) (label a) (label b)

variable {place label}

/-- A new item waits behind the others. -/
lemma InOrder.accept (h : InOrder place label accepted waiting written)
    (hnew : ∀ a ∈ accepted, place a = place b → label a ≠ label b) (hf : label b ∉ written (place b)) :
    InOrder place label (accepted ++ [b]) (waiting ++ [b]) written where
  nodup := by
    refine h.nodup.append (List.nodup_singleton b) ?_
    rintro a ha hb
    rw [List.mem_singleton.1 hb] at ha
    exact hnew b ha rfl rfl
  distinct := by
    intro a ha c hc hp hl
    rw [List.mem_append, List.mem_singleton] at ha hc
    rcases ha with ha | rfl <;> rcases hc with hc | rfl
    · exact h.distinct a ha c hc hp hl
    · exact absurd hl (hnew a ha hp)
    · exact absurd hl.symm (hnew c hc hp.symm)
    · rfl
  waits := h.waits.append (List.Sublist.refl _)
  kept := by
    intro a ha
    rcases List.mem_append.1 ha with ha | ha
    · exact (h.kept a ha).imp_right (List.mem_append_left _)
    · exact .inr (List.mem_append_right _ ha)
  ordered := by
    rw [List.pairwise_append]
    refine ⟨h.ordered, List.pairwise_singleton _ _, fun a _ c hc _ hw => ?_⟩
    rw [List.mem_singleton.1 hc] at hw
    exact absurd hw hf

/-- What was accepted before the first item that waits has been written. -/
lemma InOrder.before_first (h : InOrder place label accepted (q :: rest) written) :
    accepted.Pairwise fun a b => b = q → label a ∈ written (place a) := by
  obtain ⟨front, behind, hac, hq, hrest⟩ := List.cons_sublist_iff.1 h.waits
  obtain ⟨before, after, rfl⟩ := List.append_of_mem hq
  have hn := h.nodup
  rw [hac, List.append_assoc, List.cons_append, List.nodup_middle, List.nodup_cons] at hn
  obtain ⟨hnot, hrn⟩ := hn
  rw [hac, List.append_assoc, List.cons_append, List.pairwise_append]
  refine ⟨?_, ?_, ?_⟩
  · refine List.pairwise_of_forall_mem_list fun a _ b hb heq => absurd ?_ hnot
    rw [← heq]
    exact List.mem_append_left _ hb
  · refine List.pairwise_cons.2 ⟨fun b hb heq => absurd ?_ hnot, ?_⟩
    · rw [← heq]
      exact List.mem_append_right _ hb
    · refine List.pairwise_of_forall_mem_list fun a _ b hb heq => absurd ?_ hnot
      rw [← heq]
      exact List.mem_append_right _ hb
  · intro a ha b _ _
    refine (h.kept a ?_).resolve_right ?_
    · rw [hac]
      simp [ha]
    · rintro (_ | ⟨_, hmem⟩)
      · exact hnot (List.mem_append_left _ ha)
      · refine (List.nodup_append.1 hrn).2.2 a ha a ?_ rfl
        exact List.mem_append_right _ (hrest.subset hmem)

/-- The first item that waits is written. It may wait on. -/
lemma InOrder.write [DecidableEq δ] {q : α} (h : InOrder place label accepted (q :: rest) written)
    (hw : waiting' = q :: rest ∨ waiting' = rest) : InOrder place label accepted waiting'
      (Function.update written (place q) (written (place q) ++ [label q])) := by
  have hq : q ∈ accepted := h.waits.subset List.mem_cons_self
  have hmono : ∀ d l, l ∈ written d → l ∈ Function.update written (place q) (written (place q) ++ [label q]) d := by
    intro d l hl
    by_cases hd : d = place q
    · subst hd
      rw [Function.update_self]
      exact List.mem_append_left _ hl
    · rwa [Function.update_of_ne hd]
  constructor
  · exact h.nodup
  · exact h.distinct
  · rcases hw with rfl | rfl
    · exact h.waits
    · exact (List.sublist_cons_self q waiting').trans h.waits
  · intro a ha
    rcases h.kept a ha with hmem | hmem
    · exact .inl (hmono _ _ hmem)
    · rcases List.mem_cons.1 hmem with rfl | hmem
      · left
        rw [Function.update_self]
        exact List.mem_append_right _ (List.mem_singleton_self _)
      · right
        rcases hw with rfl | rfl
        · exact List.mem_cons_of_mem q hmem
        · exact hmem
  · refine (h.ordered.and h.before_first).imp_of_mem ?_
    rintro a b ha hb ⟨ho, hf⟩ hp
    by_cases hd : place b = place q
    · rw [hd, Function.update_self]
      rw [hd] at ho
      refine (ho (hp.trans hd)).append fun hla => .inr ?_
      have hbq : b = q := h.distinct b hb q hq hd hla
      rw [← hd, ← hp]
      exact hf hbq
    · rw [Function.update_of_ne hd]
      exact ho hp

/-- An item is given up. -/
lemma InOrder.erase [DecidableEq α] (h : InOrder place label accepted waiting written) (b : α) :
    InOrder place label (accepted.erase b) (waiting.erase b) written where
  nodup := h.nodup.erase b
  distinct a ha c hc := h.distinct a (List.mem_of_mem_erase ha) c (List.mem_of_mem_erase hc)
  waits := h.waits.erase b
  kept := by
    intro a ha
    have hne : a ≠ b := by
      rintro rfl
      exact h.nodup.not_mem_erase ha
    exact (h.kept a (List.mem_of_mem_erase ha)).imp_right fun hmem => (List.mem_erase_of_ne hne).2 hmem
  ordered := h.ordered.sublist List.erase_sublist

/-- More items wait again. -/
lemma InOrder.requeue (h : InOrder place label accepted waiting written)
    (hw : waiting'.Sublist accepted) (hsub : ∀ a ∈ waiting, a ∈ waiting') :
    InOrder place label accepted waiting' written :=
  { h with waits := hw, kept := fun a ha => (h.kept a ha).imp_right (hsub a) }

end Outbox
