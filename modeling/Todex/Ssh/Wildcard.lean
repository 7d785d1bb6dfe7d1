import Mathlib.Data.Nat.Basic
import Todex.Lib.Glob

/-!
# Patterns of `Include` lines

An `Include` of an ssh configuration may name its files by patterns. The matcher remembers one star, and
where the run of it has begun, and comes back there when a later character does not fit.
-/

namespace Todex

open Glob

/-- The loop of `wildcard_match`. -/
def wildcardLoop (pattern text : List Char) (p t : ℕ) (star : Option ℕ) (mark : ℕ) (hmark : mark ≤ t) :
    Bool :=
  if t < text.length then
    if p < pattern.length ∧ (pattern[p]? = some '?' ∨ pattern[p]? = text[t]?) then
      wildcardLoop pattern text (p + 1) (t + 1) star mark (Nat.le_succ_of_le hmark)
    else if p < pattern.length ∧ pattern[p]? = some '*' then
      wildcardLoop pattern text (p + 1) t (some p) t le_rfl
    else
      match star with
      | some star => wildcardLoop pattern text (star + 1) (mark + 1) (some star) (mark + 1) le_rfl
      | none => false
  else (pattern.drop p).all (· = '*')
termination_by (text.length - mark, pattern.length - p)
decreasing_by
  · exact Prod.Lex.right _ (by omega)
  · rcases Nat.eq_or_lt_of_le hmark with rfl | hlt
    · exact Prod.Lex.right _ (by omega)
    · exact Prod.Lex.left _ _ (by omega)
  · exact Prod.Lex.left _ _ (by omega)

/-- `wildcard_match`. -/
def wildcardMatch (pattern text : String) : Bool :=
  wildcardLoop pattern.toList text.toList 0 0 none 0 le_rfl

/-! ### What a pattern means -/

/-- What a character of a pattern stands for. -/
def globSymbol : Char → Symbol Char
  | '?' => .anyOne
  | '*' => .anyRun
  | c => .one c

/-- The texts of a pattern. -/
def GlobMatches (pattern text : String) : Prop :=
  Matches (pattern.toList.map globSymbol) text.toList

/-- The text can be cut into pieces for the pattern such that a star of the pattern which begins at a star of the
text stands for that one character. -/
inductive Cuts : List Char → List Char → Prop
  | nil : Cuts [] []
  | char {c a : Char} {pattern text : List Char} (hstar : c ≠ '*') (hmeet : c = '?' ∨ c = a) (h : Cuts pattern text) :
      Cuts (c :: pattern) (a :: text)
  | star {pattern text : List Char} (h : Cuts pattern text) : Cuts ('*' :: pattern) ('*' :: text)
  | run {pattern text : List Char} (n : ℕ) (hstar : text.head? ≠ some '*') (h : Cuts pattern (text.drop n)) :
      Cuts ('*' :: pattern) text

variable {c : Char} {pattern text : List Char}

lemma globSymbol_eq_anyRun : globSymbol c = .anyRun ↔ c = '*' := by
  unfold globSymbol
  split <;> simp_all

lemma globSymbol_stands (h : c ≠ '*') : (globSymbol c = .anyOne ∨ globSymbol c = .one a) ↔ c = '?' ∨ c = a := by
  unfold globSymbol
  split <;> simp_all

lemma globSymbol_ne_anyRun (h : c ≠ '*') : globSymbol c ≠ .anyRun := fun heq => h (globSymbol_eq_anyRun.1 heq)

lemma Cuts.matches (h : Cuts pattern text) : Matches (pattern.map globSymbol) text := by
  induction h with
  | nil => exact matches_nil.2 rfl
  | char hstar hmeet _ ih =>
    exact (matches_cons_cons (globSymbol_ne_anyRun hstar)).2 ⟨(globSymbol_stands hstar).2 hmeet, ih⟩
  | star _ ih => exact matches_anyRun.2 ⟨1, ih⟩
  | run n _ _ ih => exact matches_anyRun.2 ⟨n, ih⟩

/-! ### The rest of a pattern -/

/-- The rest of a text can be cut for the rest of a pattern. -/
def RestCuts (pattern text : List Char) (p t : ℕ) : Prop := Cuts (pattern.drop p) (text.drop t)

variable {p t : ℕ}

lemma drop_eq_cons {list : List Char} (h : list[p]? = some c) : list.drop p = c :: list.drop (p + 1) := by
  obtain ⟨hp, rfl⟩ := List.getElem?_eq_some_iff.1 h
  exact List.drop_eq_getElem_cons hp

/-- A character that is no star meets the next character of the text. -/
lemma restCuts_char (hc : pattern[p]? = some c) (hstar : c ≠ '*') : RestCuts pattern text p t ↔
      ∃ a, text[t]? = some a ∧ (c = '?' ∨ c = a) ∧ RestCuts pattern text (p + 1) (t + 1) := by
  rw [RestCuts, drop_eq_cons hc]
  constructor
  · intro h
    cases htext : text[t]? with
    | none =>
      rw [List.drop_eq_nil_of_le (List.getElem?_eq_none_iff.1 htext)] at h
      cases h
      exact absurd rfl hstar
    | some a =>
      rw [drop_eq_cons htext] at h
      cases h with
      | char _ hmeet hrest => exact ⟨a, rfl, hmeet, hrest⟩
      | star | run => exact absurd rfl hstar
  · rintro ⟨a, ha, hmeet, hrest⟩
    rw [drop_eq_cons ha]
    exact .char hstar hmeet hrest

lemma restCuts_met (hc : pattern[p]? = some '*') (ht : text[t]? = some '*') :
    RestCuts pattern text p t ↔ RestCuts pattern text (p + 1) (t + 1) := by
  rw [RestCuts, drop_eq_cons hc, drop_eq_cons ht]
  constructor
  · intro h
    cases h with
    | char hstar => exact absurd rfl hstar
    | star hrest => exact hrest
    | run _ hstar => exact absurd rfl hstar
  · exact .star

lemma restCuts_star (hc : pattern[p]? = some '*') (ht : text[t]? ≠ some '*') :
    RestCuts pattern text p t ↔ ∃ m ≥ t, RestCuts pattern text (p + 1) m := by
  have hhead : (text.drop t).head? = text[t]? := by rw [List.head?_drop]
  rw [RestCuts, drop_eq_cons hc]
  constructor
  · intro h
    generalize hrest : text.drop t = rest at h
    cases h with
    | char hstar => exact absurd rfl hstar
    | star =>
      rw [← hhead, hrest] at ht
      exact absurd rfl ht
    | run n _ h =>
      subst hrest
      refine ⟨t + n, Nat.le_add_right t n, ?_⟩
      rwa [RestCuts, ← List.drop_drop (i := n)]
  · rintro ⟨m, hm, h⟩
    refine .run (m - t) (by rwa [hhead]) ?_
    rwa [List.drop_drop, Nat.add_sub_cancel' hm]

/-- At the end of the text only stars are left. -/
lemma restCuts_nil (ht : ¬ t < text.length) : RestCuts pattern text p t ↔ (pattern.drop p).all (· = '*') := by
  rw [RestCuts, List.drop_eq_nil_of_le (Nat.le_of_not_lt ht)]
  generalize pattern.drop p = rest
  induction rest with
  | nil => exact ⟨fun _ => rfl, fun _ => .nil⟩
  | cons c rest ih =>
    rw [List.all_cons, Bool.and_eq_true, decide_eq_true_eq, ← ih]
    constructor
    · intro h
      generalize hnil : ([] : List Char) = text at h
      cases h with
      | char | star => cases hnil
      | run n _ h =>
        subst hnil
        exact ⟨rfl, by simpa using h⟩
    · rintro ⟨rfl, h⟩
      exact .run 0 nofun h

/-- A star that begins at no star of the text may begin earlier. -/
lemma RestCuts.of_le (hc : pattern[p]? = some '*') (ht : text[t]? ≠ some '*') (hle : t ≤ m)
    (h : RestCuts pattern text p m) : RestCuts pattern text p t := by
  rw [restCuts_star hc ht]
  by_cases hm : text[m]? = some '*'
  · exact ⟨m + 1, Nat.le_succ_of_le hle, (restCuts_met hc hm).1 h⟩
  · obtain ⟨n, hn, h⟩ := (restCuts_star hc hm).1 h
    exact ⟨n, Nat.le_trans hle hn, h⟩

/-! ### The loop -/

/-- The rest of the pattern fits, or it does from the remembered star on with a longer run. -/
def Possible (pattern text : List Char) (p t : ℕ) (star : Option ℕ) (mark : ℕ) : Prop :=
  RestCuts pattern text p t ∨ ∃ s ∈ star, ∃ m > mark, RestCuts pattern text (s + 1) m

variable {mark s : ℕ}

lemma possible_backtrack : Possible pattern text (s + 1) (mark + 1) (some s) (mark + 1) ↔
      ∃ m > mark, RestCuts pattern text (s + 1) m := by
  simp only [Possible, Option.mem_def, Option.some.injEq, exists_eq_left']
  constructor
  · rintro (h | ⟨m, hm, h⟩)
    · exact ⟨mark + 1, Nat.lt_succ_self mark, h⟩
    · exact ⟨m, Nat.lt_of_succ_lt hm, h⟩
  · rintro ⟨m, hm, h⟩
    rcases Nat.eq_or_lt_of_le (Nat.succ_le_of_lt hm) with rfl | hlt
    · exact .inl h
    · exact .inr ⟨m, hlt, h⟩

lemma possible_star (hc : pattern[p]? = some '*') (ht : text[t]? ≠ some '*') :
    Possible pattern text (p + 1) t (some p) t ↔ RestCuts pattern text p t := by
  rw [restCuts_star hc ht]
  simp only [Possible, Option.mem_def, Option.some.injEq, exists_eq_left']
  constructor
  · rintro (h | ⟨m, hm, h⟩)
    · exact ⟨t, le_rfl, h⟩
    · exact ⟨m, Nat.le_of_lt hm, h⟩
  · rintro ⟨m, hm, h⟩
    rcases Nat.eq_or_lt_of_le hm with rfl | hlt
    · exact .inl h
    · exact .inr ⟨m, hlt, h⟩

/-- The character of the pattern is used up by the one of the text. -/
abbrev MeetsAt (pattern text : List Char) (p t : ℕ) : Prop :=
  p < pattern.length ∧ (pattern[p]? = some '?' ∨ pattern[p]? = text[t]?)

lemma MeetsAt.restCuts (h : MeetsAt pattern text p t) (ht : t < text.length) :
    RestCuts pattern text p t ↔ RestCuts pattern text (p + 1) (t + 1) := by
  have hc := List.getElem?_eq_getElem h.1
  have ha := List.getElem?_eq_getElem ht
  by_cases hstar : pattern[p] = '*'
  · rw [hstar] at hc
    exact restCuts_met hc ((h.2.resolve_left (by simp [hc])).symm.trans hc)
  · have hmeet : pattern[p] = '?' ∨ pattern[p] = text[t] := by simpa [hc, ha] using h.2
    rw [restCuts_char hc hstar]
    constructor
    · rintro ⟨_, -, -, hrest⟩
      exact hrest
    · exact fun hrest => ⟨_, ha, hmeet, hrest⟩

/-- Where the loop remembers a star, it does not stand at a star of the text. -/
lemma ne_star_of_not_meetsAt (hp : p < pattern.length) (h : ¬ MeetsAt pattern text p t) (hc : pattern[p]? = some '*') :
    text[t]? ≠ some '*' :=
  fun ht => h ⟨hp, .inr (hc.trans ht.symm)⟩

/-- Where the loop goes back, the rest of the pattern does not fit. -/
lemma not_restCuts (ht : t < text.length) (hm : ¬ MeetsAt pattern text p t)
    (hs : ¬ (p < pattern.length ∧ pattern[p]? = some '*')) : ¬ RestCuts pattern text p t := by
  intro h
  by_cases hp : p < pattern.length
  · have hc := List.getElem?_eq_getElem hp
    have hne : pattern[p] ≠ '*' := fun heq => hs ⟨hp, by rw [hc, heq]⟩
    obtain ⟨a, ha, hmeet, -⟩ := (restCuts_char hc hne).1 h
    exact hm ⟨hp, by simpa [hc, ha] using hmeet⟩
  · rw [RestCuts, List.drop_eq_nil_of_le (Nat.le_of_not_lt hp), List.drop_eq_getElem_cons ht] at h
    cases h

/-- Since the remembered star, each character of the pattern has been used up by one of the text. -/
structure Aligned (pattern text : List Char) (p t : ℕ) (s mark : ℕ) : Prop where
  lt : s < p
  le : p ≤ pattern.length
  sub : t = mark + (p - (s + 1))
  stars : ∀ i < p - (s + 1), pattern[s + 1 + i]? = some '*' → text[mark + i]? = some '*'

/-- A longer run of the remembered star leaves no more text for the rest of the pattern. -/
lemma Aligned.restCuts (h : Aligned pattern text p t s mark) (hm : mark < m)
    (hr : RestCuts pattern text (s + 1) m) : ∃ n ≥ t, RestCuts pattern text p n := by
  -- the characters since the star are gone through one by one
  have hstep : ∀ i ≤ p - (s + 1), ∃ n ≥ mark + i, RestCuts pattern text (s + 1 + i) n := by
    intro i hi
    induction i with
    | zero => exact ⟨m, Nat.le_of_lt hm, hr⟩
    | succ i ih =>
      obtain ⟨n, hn, hrest⟩ := ih (Nat.le_of_succ_le hi)
      have hlt : s + 1 + i < pattern.length := by have := h.le; omega
      have hc := List.getElem?_eq_getElem hlt
      by_cases hstar : pattern[s + 1 + i] = '*'
      · rw [hstar] at hc
        by_cases ht : text[n]? = some '*'
        · exact ⟨n + 1, by omega, (restCuts_met hc ht).1 hrest⟩
        · have hne : n ≠ mark + i := fun heq => ht (heq ▸ h.stars i hi hc)
          obtain ⟨k, hk, hrest⟩ := (restCuts_star hc ht).1 hrest
          exact ⟨k, by omega, hrest⟩
      · obtain ⟨a, -, -, hrest⟩ := (restCuts_char hc hstar).1 hrest
        exact ⟨n + 1, by omega, hrest⟩
  obtain ⟨n, hn, hrest⟩ := hstep (p - (s + 1)) le_rfl
  refine ⟨n, h.sub ▸ hn, ?_⟩
  rwa [Nat.add_sub_cancel' h.lt] at hrest

lemma Aligned.start (hp : p < pattern.length) : Aligned pattern text (p + 1) t p t where
  lt := Nat.lt_succ_self p
  le := hp
  sub := by simp
  stars := by simp

lemma Aligned.succ (h : Aligned pattern text p t s mark) (hm : MeetsAt pattern text p t) :
    Aligned pattern text (p + 1) (t + 1) s mark where
  lt := Nat.lt_succ_of_lt h.lt
  le := hm.1
  sub := by
    have := h.sub
    have := h.lt
    omega
  stars i hi hc := by
    have hlt := h.lt
    rcases Nat.lt_or_ge i (p - (s + 1)) with hi | hi
    · exact h.stars i hi hc
    · have heq : s + 1 + i = p := by omega
      have ht : mark + i = t := by rw [h.sub]; omega
      rw [heq] at hc
      rw [ht, ← hc]
      exact (hm.2.resolve_left (by simp [hc])).symm

/-- The loop finds a fit if there is one. -/
lemma wildcardLoop_iff {star : Option ℕ} (ha : ∀ s ∈ star, Aligned pattern text p t s mark) :
    wildcardLoop pattern text p t star mark hmark ↔ Possible pattern text p t star mark := by
  fun_induction wildcardLoop pattern text p t star mark hmark with
  | case1 p t star mark hmark ht hmeet ih =>
    rw [ih fun s hs => (ha s hs).succ hmeet, Possible, Possible, MeetsAt.restCuts hmeet ht]
  | case2 p t star mark hmark ht hmeet hstar ih =>
    have hne := ne_star_of_not_meetsAt hstar.1 hmeet hstar.2
    rw [ih (by rintro _ ⟨⟩; exact .start hstar.1), possible_star hstar.2 hne]
    -- what a longer run of the star before gives, the new star gives too
    refine ⟨.inl, ?_⟩
    rintro (hr | ⟨s, hs, m, hm, hr⟩)
    · exact hr
    · obtain ⟨n, hn, hr⟩ := (ha s hs).restCuts hm hr
      exact hr.of_le hstar.2 hne hn
  | case3 p t mark hmark ht hmeet hstar s ih =>
    have hs := ha s rfl
    rw [ih (by rintro _ ⟨⟩; exact .start (Nat.lt_of_lt_of_le hs.lt hs.le)), possible_backtrack, Possible,
      or_iff_right (not_restCuts ht hmeet hstar)]
    simp
  | case4 p t mark hmark ht hmeet hstar =>
    simp [Possible, not_restCuts ht hmeet hstar]
  | case5 p t star mark hmark ht =>
    rw [← restCuts_nil ht]
    refine ⟨.inl, ?_⟩
    rintro (hr | ⟨s, hs, m, hm, hr⟩)
    · exact hr
    · obtain ⟨n, hn, hr⟩ := (ha s hs).restCuts hm hr
      rwa [restCuts_nil fun hlt => ht (Nat.lt_of_le_of_lt hn hlt), ← restCuts_nil ht] at hr

/-! ### What the matcher answers -/

lemma wildcardMatch_iff_cuts {pattern text : String} :
    wildcardMatch pattern text ↔ Cuts pattern.toList text.toList := by
  rw [wildcardMatch, wildcardLoop_iff (by simp)]
  simp [Possible, RestCuts]

/-- What the matcher accepts is a text of the pattern. -/
theorem globMatches_of_wildcardMatch {pattern text : String} (h : wildcardMatch pattern text) :
    GlobMatches pattern text :=
  (wildcardMatch_iff_cuts.1 h).matches

/-- The matcher answers right exactly when a text of the pattern can also be cut such that each star which begins at a
star of the text stands for that one character. -/
theorem wildcardMatch_iff_globMatches (pattern text : String) :
    (wildcardMatch pattern text ↔ GlobMatches pattern text) ↔
      (GlobMatches pattern text → Cuts pattern.toList text.toList) := by
  rw [← wildcardMatch_iff_cuts]
  exact ⟨fun h => h.2, fun h => ⟨globMatches_of_wildcardMatch, h⟩⟩

/-- A star of the pattern that meets one of the text is taken for that character only. -/
theorem wildcardMatch_star_text : wildcardMatch "*" "*a" = false ∧ GlobMatches "*" "*a" := by
  constructor
  · simp [wildcardMatch, wildcardLoop]
  · exact ⟨["*a".toList], rfl, .cons trivial .nil⟩

end Todex
