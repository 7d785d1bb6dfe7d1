import Mathlib.Data.List.Forall2
import Mathlib.Tactic.SplitIfs
import Mathlib.Tactic.Set

/-!
# Patterns with wildcards

A pattern is a list of symbols. It matches a text that can be cut into pieces, one for each symbol.
-/

namespace Glob

/-- A symbol of a pattern. -/
inductive Symbol (α : Type*)
  /-- A character stands for itself. -/
  | one (a : α)
  | anyOne
  /-- Any run of characters, also none. -/
  | anyRun
deriving DecidableEq

variable {α : Type*}

/-- The symbol stands for the piece of text. -/
def Symbol.Stands : Symbol α → List α → Prop
  | one a, piece => piece = [a]
  | anyOne, piece => piece.length = 1
  | anyRun, _ => True

/-- The text can be cut into pieces for which the symbols stand, in order. -/
def Matches (pattern : List (Symbol α)) (text : List α) : Prop :=
  ∃ pieces : List (List α), pieces.flatten = text ∧ List.Forall₂ Symbol.Stands pattern pieces

@[simp] lemma matches_nil : Matches ([] : List (Symbol α)) text ↔ text = [] := by
  constructor
  · rintro ⟨pieces, rfl, hp⟩
    cases hp
    rfl
  · rintro rfl
    exact ⟨[], rfl, .nil⟩

lemma matches_cons :
    Matches (symbol :: pattern) text ↔
      ∃ piece rest, text = piece ++ rest ∧ symbol.Stands piece ∧ Matches pattern rest := by
  constructor
  · rintro ⟨_, rfl, _ | ⟨hpi, hp⟩⟩
    exact ⟨_, _, rfl, hpi, _, rfl, hp⟩
  · rintro ⟨piece, _, rfl, hpi, pieces, rfl, hp⟩
    exact ⟨piece :: pieces, rfl, .cons hpi hp⟩

lemma matches_one : Matches (.one a :: pattern) text ↔ ∃ rest, text = a :: rest ∧ Matches pattern rest := by
  simp [matches_cons, Symbol.Stands]

lemma matches_anyOne : Matches (.anyOne :: pattern) text ↔ ∃ a rest, text = a :: rest ∧ Matches pattern rest := by
  simp only [matches_cons, Symbol.Stands, List.length_eq_one_iff]
  constructor
  · rintro ⟨_, rest, rfl, ⟨a, rfl⟩, h⟩
    exact ⟨a, rest, rfl, h⟩
  · rintro ⟨a, rest, rfl, h⟩
    exact ⟨[a], rest, rfl, ⟨a, rfl⟩, h⟩

lemma matches_anyRun : Matches (.anyRun :: pattern) text ↔ ∃ n, Matches pattern (text.drop n) := by
  simp only [matches_cons, Symbol.Stands, true_and]
  constructor
  · rintro ⟨piece, rest, rfl, h⟩
    refine ⟨piece.length, ?_⟩
    rwa [List.drop_left]
  · rintro ⟨n, h⟩
    exact ⟨text.take n, text.drop n, (List.take_append_drop n text).symm, h⟩

/-- A character of the text is met by a symbol for one character. -/
lemma matches_cons_cons (h : symbol ≠ .anyRun) :
    Matches (symbol :: pattern) (a :: text) ↔ (symbol = .anyOne ∨ symbol = .one a) ∧ Matches pattern text := by
  cases symbol with
  | one b =>
    simp only [matches_one, List.cons.injEq, reduceCtorEq, Symbol.one.injEq, false_or]
    constructor
    · rintro ⟨_, ⟨rfl, rfl⟩, h⟩
      exact ⟨rfl, h⟩
    · rintro ⟨rfl, h⟩
      exact ⟨_, ⟨rfl, rfl⟩, h⟩
  | anyOne => simp [matches_anyOne]
  | anyRun => exact absurd rfl h

end Glob
