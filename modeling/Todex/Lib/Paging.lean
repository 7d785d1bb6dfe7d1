import Mathlib

/-!
# Taking what fits

A page takes items from the front of a list as long as each is admitted. Whether an item is admitted
depends on what was taken before.
-/

namespace Paging

variable {α σ : Type} (admits : σ → α → Option σ)

/-- From state `s`, the items `taken` are taken off the front of a list, which leads to the final
state. The flag tells whether the whole list was taken. -/
inductive Taken : σ → List α → List α → σ → Bool → Prop
  | nil (s : σ) : Taken s [] [] s true
  | stop {s : σ} {a : α} (l : List α) : admits s a = none → Taken s (a :: l) [] s false
  | cons {s next final : σ} {a : α} {l taken : List α} {complete : Bool} :
      admits s a = some next → Taken next l taken final complete →
      Taken s (a :: l) (a :: taken) final complete

variable {admits}

lemma Taken.isPrefix (h : Taken admits s l taken t complete) : taken <+: l := by
  induction h with
  | nil s => exact List.prefix_rfl
  | stop l _ => exact List.nil_prefix
  | cons _ _ ih => exact List.cons_prefix_cons.mpr ⟨rfl, ih⟩

/-- The first item is taken if it is admitted. -/
lemma Taken.ne_nil (h : Taken admits s l taken t complete) (hl : l ≠ [])
    (hf : ∀ a, admits s a ≠ none) : taken ≠ [] := by
  cases h with
  | nil => exact absurd rfl hl
  | stop l hstop => exact absurd hstop (hf _)
  | cons ha _ => exact List.cons_ne_nil _ _

/-- A list that was taken whole is followed by the next one. -/
lemma Taken.append (h : Taken admits s l taken t true) (h' : Taken admits t l' taken' u complete) :
    Taken admits s (l ++ l') (taken ++ taken') u complete := by
  generalize hflag : true = flag at h
  induction h with
  | nil s => exact h'
  | stop l _ => cases hflag
  | cons ha _ ih => exact .cons ha (ih h' hflag)

/-- Nothing behind an item that was left is looked at. -/
lemma Taken.append_of_stop (h : Taken admits s l taken t false) (l' : List α) :
    Taken admits s (l ++ l') taken t false := by
  generalize hflag : false = flag at h
  induction h with
  | nil s => cases hflag
  | stop l hstop => exact .stop _ hstop
  | cons ha _ ih => exact .cons ha (ih hflag)

end Paging
