import Mathlib

/-!
# What a computation that may fail ensures

`x.Ensures ok Q` says that `Q` holds of the result of `x`, and that `x` does not fail if `ok` holds.
With `ok` false this is partial correctness, with `ok` true it is total correctness.
-/

namespace Except

variable {ε α β : Type} {ok : Prop} {S : β → Prop} {x : Except ε α}

lemma bind_eq_ok : (x >>= f) = .ok b ↔ ∃ a, x = .ok a ∧ f a = .ok b := by
  cases x with
  | error e =>
    constructor
    · nofun
    · rintro ⟨a, h, -⟩
      cases h
  | ok a =>
    constructor
    · intro h
      exact ⟨a, rfl, h⟩
    · rintro ⟨a, h, hf⟩
      cases h
      exact hf

lemma eq_ok_of_toOption (h : x.toOption = some a) : x = .ok a := by
  cases x with
  | error e => cases h
  | ok b =>
    cases h
    rfl

/-- Fail unless a condition holds. -/
def require (p : Prop) [Decidable p] (e : ε) : Except ε Unit := if p then .ok () else .error e

@[simp] lemma require_eq_ok [Decidable p] : require p e = .ok u ↔ p := by
  rw [require]
  split
  case isTrue h => exact ⟨fun _ => h, fun _ => rfl⟩
  case isFalse h => exact ⟨nofun, fun hp => absurd hp h⟩

lemma require_bind_eq_ok [Decidable p] : (require p e >>= f) = .ok b ↔ p ∧ f () = .ok b := by
  simp only [bind_eq_ok, require_eq_ok]
  exact ⟨fun ⟨_, h⟩ => h, fun h => ⟨(), h⟩⟩

/-- What the results of a list of computations have in common with the list. -/
lemma map_eq_of_mapM {γ : Type} {f : α → Except ε β} {g : β → γ} {h : α → γ} {l : List α}
    {results : List β} (hf : ∀ a ∈ l, ∀ b, f a = .ok b → g b = h a)
    (hr : l.mapM f = .ok results) : results.map g = l.map h := by
  induction l generalizing results with
  | nil =>
    cases hr
    rfl
  | cons a l ih =>
    rw [List.mapM_cons] at hr
    obtain ⟨b, hb, hr⟩ := bind_eq_ok.mp hr
    obtain ⟨rest, hrest, hr⟩ := bind_eq_ok.mp hr
    cases hr
    rw [List.map_cons, List.map_cons, hf a List.mem_cons_self b hb,
      ih (fun a ha => hf a (List.mem_cons_of_mem _ ha)) hrest]

/-- What holds of each of a list of computations. -/
lemma forall_mem_of_mapM {f : α → Except ε β} {l : List α} {results : List β}
    (hf : ∀ a ∈ l, ∀ b, f a = .ok b → S b) (hr : l.mapM f = .ok results) : ∀ b ∈ results, S b := by
  induction l generalizing results with
  | nil =>
    cases hr
    nofun
  | cons a l ih =>
    rw [List.mapM_cons] at hr
    obtain ⟨b, hb, hr⟩ := bind_eq_ok.mp hr
    obtain ⟨rest, hrest, hr⟩ := bind_eq_ok.mp hr
    cases hr
    rintro c (_ | ⟨_, hc⟩)
    · exact hf a List.mem_cons_self b hb
    · exact ih (fun a ha => hf a (List.mem_cons_of_mem _ ha)) hrest c hc

/-- Each of a list of checks passed. -/
lemma forall_mem_of_forM {f : α → Except ε Unit} {l : List α} (h : l.forM f = .ok ()) : ∀ a ∈ l, f a = .ok () := by
  induction l with
  | nil => nofun
  | cons a l ih =>
    obtain ⟨_, ha, hl⟩ := bind_eq_ok.mp h
    exact List.forall_mem_cons.mpr ⟨ha, ih hl⟩

end Except
