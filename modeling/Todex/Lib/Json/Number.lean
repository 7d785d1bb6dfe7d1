import Mathlib

/-!
# JSON number tokens

A JSON number is represented by its token, the text a serializer writes for it. The scanner takes
the longest prefix of its input that is a number and refuses what JSON refuses: a leading zero, a
point or an exponent without digits.
-/

namespace Json

/-- The integer part of a number; a leading `0` stands alone. -/
def scanInt : List Char → Option (List Char × List Char)
  | [] => none
  | c :: l =>
    if c = '0' then
      if l.head?.any Char.isDigit then none else some (['0'], l)
    else if c.isDigit then some (c :: l.takeWhile Char.isDigit, l.dropWhile Char.isDigit)
    else none

/-- At least one digit after `lead`. -/
def scanDigits (lead l : List Char) : Option (List Char × List Char) :=
  if l.head?.any Char.isDigit then
    some (lead ++ l.takeWhile Char.isDigit, l.dropWhile Char.isDigit)
  else none

/-- The optional fraction. -/
def scanFrac : List Char → Option (List Char × List Char)
  | [] => some ([], [])
  | c :: l => if c = '.' then scanDigits ['.'] l else some ([], c :: l)

/-- The exponent after its `e`: an optional sign, then digits. -/
def scanExpSign (e : Char) : List Char → Option (List Char × List Char)
  | [] => none
  | c :: l => if c = '+' ∨ c = '-' then scanDigits [e, c] l else scanDigits [e] (c :: l)

/-- The optional exponent. -/
def scanExp : List Char → Option (List Char × List Char)
  | [] => some ([], [])
  | c :: l => if c = 'e' ∨ c = 'E' then scanExpSign c l else some ([], c :: l)

/-- An unsigned number. -/
def scanUnsigned (l : List Char) : Option (List Char × List Char) := do
  let (int, l) ← scanInt l
  let (frac, l) ← scanFrac l
  let (exp, l) ← scanExp l
  return (int ++ frac ++ exp, l)

/-- Split the input into the number it starts with and the rest. -/
def scanNumber : List Char → Option (List Char × List Char)
  | [] => none
  | c :: l =>
    if c = '-' then (scanUnsigned l).map fun (t, rest) => ('-' :: t, rest)
    else scanUnsigned (c :: l)

/-- No number can be continued by this text. -/
def EndsNumber (l : List Char) : Prop :=
  ∀ c ∈ l.head?, c.isDigit = false ∧ c ≠ '.' ∧ c ≠ 'e' ∧ c ≠ 'E'

instance (l : List Char) : Decidable (EndsNumber l) := by
  unfold EndsNumber; infer_instance

/-! ### A scanner does not look beyond the token -/

/-- The scanner's result does not depend on what follows the text it left over, provided that
what follows cannot continue a number. -/
def Extends (scan : List Char → Option (List Char × List Char)) : Prop :=
  ∀ {l t rest more}, scan l = some (t, rest) → (rest ≠ [] ∨ EndsNumber more) →
    scan (l ++ more) = some (t, rest ++ more)

private lemma takeWhile_digits_append (h : l.dropWhile Char.isDigit ≠ [] ∨ EndsNumber more) :
    (l ++ more).takeWhile Char.isDigit = l.takeWhile Char.isDigit ∧
      (l ++ more).dropWhile Char.isDigit = l.dropWhile Char.isDigit ++ more := by
  induction l with
  | nil =>
    have hm : EndsNumber more := by simpa using h
    cases more with
    | nil => simp
    | cons c more => simp [(hm c (by simp)).1]
  | cons c l ih =>
    by_cases hc : c.isDigit
    · simpa [hc] using ih (by simpa [hc] using h)
    · simp [hc]

lemma scanDigits_extends (lead : List Char) : Extends (scanDigits lead) := by
  intro l t rest more h hm
  simp only [scanDigits, Option.ite_none_right_eq_some, Option.some.injEq, Prod.mk.injEq] at h ⊢
  obtain ⟨hh, rfl, rfl⟩ := h
  obtain ⟨ht, hd⟩ := takeWhile_digits_append hm
  refine ⟨?_, by rw [ht], hd⟩
  cases l with
  | nil => simp at hh
  | cons c l => simpa using hh

lemma EndsNumber.head (h : EndsNumber (c :: l)) : c.isDigit = false ∧ c ≠ '.' ∧ c ≠ 'e' ∧ c ≠ 'E' :=
  h c rfl

lemma scanInt_extends : Extends scanInt := by
  intro l t rest more h hm
  cases l with
  | nil => simp [scanInt] at h
  | cons c l =>
    simp only [scanInt, List.cons_append] at h ⊢
    by_cases h0 : c = '0'
    · simp only [h0, if_true, Option.ite_none_left_eq_some, Option.some.injEq, Prod.mk.injEq] at h ⊢
      obtain ⟨hl, rfl, rfl⟩ := h
      refine ⟨?_, rfl, rfl⟩
      -- a digit after the lone zero could only come from `more`
      match l, more with
      | d :: l, _ => simpa using hl
      | [], [] => simp
      | [], d :: more =>
        have hm : EndsNumber (d :: more) := by simpa using hm
        simp [hm.head.1]
    · simp only [h0, if_false, Option.ite_none_right_eq_some, Option.some.injEq, Prod.mk.injEq] at h ⊢
      obtain ⟨hc, rfl, rfl⟩ := h
      obtain ⟨ht, hd⟩ := takeWhile_digits_append hm
      exact ⟨hc, by rw [ht], hd⟩

lemma scanFrac_extends : Extends scanFrac := by
  intro l t rest more h hm
  match l, more with
  | [], [] => simpa [scanFrac] using h
  | [], c :: more =>
    obtain ⟨rfl, rfl⟩ : t = [] ∧ rest = [] := by simpa [scanFrac, eq_comm] using h
    have hm : EndsNumber (c :: more) := by simpa using hm
    simp [scanFrac, hm.head.2.1]
  | c :: l, more =>
    simp only [scanFrac, List.cons_append] at h ⊢
    split_ifs at h ⊢ with hc
    · exact scanDigits_extends _ h hm
    · obtain ⟨rfl, rfl⟩ : t = [] ∧ c :: l = rest := by simpa [eq_comm] using h
      rfl

lemma scanExpSign_extends (e : Char) : Extends (scanExpSign e) := by
  intro l t rest more h hm
  cases l with
  | nil => simp [scanExpSign] at h
  | cons c l =>
    simp only [scanExpSign, List.cons_append] at h ⊢
    split_ifs at h ⊢ with hc
    · exact scanDigits_extends _ h hm
    · exact scanDigits_extends _ h hm

lemma scanExp_extends : Extends scanExp := by
  intro l t rest more h hm
  match l, more with
  | [], [] => simpa [scanExp] using h
  | [], c :: more =>
    obtain ⟨rfl, rfl⟩ : t = [] ∧ rest = [] := by simpa [scanExp, eq_comm] using h
    have hm : EndsNumber (c :: more) := by simpa using hm
    simp [scanExp, hm.head.2.2]
  | c :: l, more =>
    simp only [scanExp, List.cons_append] at h ⊢
    split_ifs at h ⊢ with hc
    · exact scanExpSign_extends _ h hm
    · obtain ⟨rfl, rfl⟩ : t = [] ∧ c :: l = rest := by simpa [eq_comm] using h
      rfl

/-- Scanners that leave nothing over may be followed by one that reads nothing of `more`. -/
private lemma rest_or {scan : List Char → Option (List Char × List Char)} (hn : scan [] = some ([], []) )
    (h : scan rest = some (t, rest')) (hm : rest' ≠ [] ∨ EndsNumber more) : rest ≠ [] ∨ EndsNumber more := by
  rcases eq_or_ne rest [] with rfl | hne
  · obtain ⟨rfl, rfl⟩ : [] = t ∧ [] = rest' := by simpa [hn] using h
    exact hm
  · exact .inl hne

lemma scanUnsigned_extends : Extends scanUnsigned := by
  intro l t rest more h hm
  simp only [scanUnsigned, Option.bind_eq_bind, Option.bind_eq_some_iff, Prod.exists,
    Option.pure_def, Option.some.injEq, Prod.mk.injEq] at h ⊢
  obtain ⟨int, l₁, hi, frac, l₂, hf, exp, l₃, he, rfl, rfl⟩ := h
  have h₂ := rest_or rfl he hm
  have h₁ := rest_or rfl hf h₂
  exact ⟨int, _, scanInt_extends hi h₁, frac, _, scanFrac_extends hf h₂, exp, _, scanExp_extends he hm, rfl, rfl⟩

lemma scanNumber_extends : Extends scanNumber := by
  intro l t rest more h hm
  cases l with
  | nil => simp [scanNumber] at h
  | cons c l =>
    simp only [scanNumber, List.cons_append] at h ⊢
    split_ifs at h ⊢ with hc
    · obtain ⟨⟨t', rest'⟩, hu, he⟩ := Option.map_eq_some_iff.mp h
      obtain ⟨rfl, rfl⟩ : '-' :: t' = t ∧ rest' = rest := by simpa using he
      simp [scanUnsigned_extends hu hm]
    · exact scanUnsigned_extends h hm

/-! ### Numbers -/

/-- A JSON number: a token that the scanner takes whole. -/
structure Number where
  token : List Char
  valid : scanNumber token = some (token, [])
deriving DecidableEq

namespace Number

lemma scan_append (n : Number) (h : EndsNumber more) : scanNumber (n.token ++ more) = some (n.token, more) :=
  scanNumber_extends n.valid (.inr h)

/-- The value of a token of digits. -/
def digitsVal (ds : List Char) : Option Nat :=
  if ds.all Char.isDigit then some (Nat.ofDigitChars 10 ds 0) else none

/-- The number as an unsigned 64-bit integer. -/
def asU64 (n : Number) : Option Nat :=
  (digitsVal n.token).filter (· < 2 ^ 64)

/-- The number as a signed 64-bit integer. `-0` is a float. -/
def asI64 (n : Number) : Option Int :=
  if n.token.head? = some '-' then
    (digitsVal n.token.tail).bind fun v => if 0 < v ∧ v ≤ 2 ^ 63 then some (-(v : Int)) else none
  else (digitsVal n.token).bind fun v => if v < 2 ^ 63 then some (v : Int) else none

/-- A number as a parser with 64-bit integers reads it: `float` gives the number written for the
float it reads from any other token, and nothing when the token is out of its range. -/
def read (float : Number → Option Number) (n : Number) : Option Number :=
  if n.asU64.isSome ∨ n.asI64.isSome then some n else float n

/-! #### Integers -/

private lemma isDigit_digitChar (h : n < 10) : n.digitChar.isDigit = true := by
  interval_cases n <;> rfl

lemma all_isDigit_toDigits (n : Nat) : (Nat.toDigits 10 n).all Char.isDigit = true := by
  induction n using Nat.strong_induction_on with
  | _ n ih =>
    rw [Nat.toDigits_eq_if (by norm_num)]
    split_ifs with h
    · simp [isDigit_digitChar h]
    · rw [List.all_append, ih _ (by omega)]
      simp [isDigit_digitChar (Nat.mod_lt n (by norm_num))]

private lemma head_toDigits (hn : 0 < n) : (Nat.toDigits 10 n).head? ≠ some '0' := by
  induction n using Nat.strong_induction_on with
  | _ n ih =>
    rw [Nat.toDigits_eq_if (by norm_num)]
    split_ifs with h
    · simpa using fun h0 => hn.ne' (Nat.digitChar_eq_zero.mp h0)
    · rw [List.head?_append_of_ne_nil _ Nat.toDigits_ne_nil]
      exact ih _ (by omega) (by omega)

lemma scanInt_toDigits (n : Nat) : scanInt (Nat.toDigits 10 n) = some (Nat.toDigits 10 n, []) := by
  rcases Nat.eq_zero_or_pos n with rfl | hn
  · rfl
  · have ha := all_isDigit_toDigits n
    have hh := head_toDigits hn
    rcases hd : Nat.toDigits 10 n with _ | ⟨c, ds⟩
    · exact absurd hd Nat.toDigits_ne_nil
    · simp only [hd, List.all_cons, Bool.and_eq_true, List.all_eq_true, List.head?_cons, ne_eq,
        Option.some.injEq] at ha hh
      simp [scanInt, hh, ha.1, List.takeWhile_eq_self_iff.mpr ha.2, List.dropWhile_eq_nil_iff.mpr ha.2]

lemma scanUnsigned_toDigits (n : Nat) : scanUnsigned (Nat.toDigits 10 n) = some (Nat.toDigits 10 n, []) := by
  simp [scanUnsigned, scanInt_toDigits, scanFrac, scanExp]

private lemma head_toDigits_ne_minus (n : Nat) : (Nat.toDigits 10 n).head? ≠ some '-' := by
  intro h
  have hm := List.mem_of_mem_head? (Option.mem_def.mpr h)
  exact absurd (List.all_eq_true.mp (all_isDigit_toDigits n) _ hm) (by decide)

/-- A natural number as it is written. -/
def ofNat (n : Nat) : Number where
  token := Nat.toDigits 10 n
  valid := by
    have hne := head_toDigits_ne_minus n
    rcases hd : Nat.toDigits 10 n with _ | ⟨c, ds⟩
    · exact absurd hd Nat.toDigits_ne_nil
    · have hc : c ≠ '-' := by simpa [hd] using hne
      rw [scanNumber, if_neg hc, ← hd, scanUnsigned_toDigits]

/-- An integer as it is written. -/
def ofInt : Int → Number
  | .ofNat n => ofNat n
  | .negSucc n => ⟨'-' :: Nat.toDigits 10 (n + 1), by simp [scanNumber, scanUnsigned_toDigits]⟩

lemma digitsVal_toDigits (n : Nat) : digitsVal (Nat.toDigits 10 n) = some n := by
  rw [digitsVal, if_pos (all_isDigit_toDigits n), Nat.ofDigitChars_ten_toDigits]

lemma asU64_ofNat (h : n < 2 ^ 64) : (ofNat n).asU64 = some n := by
  rw [asU64, ofNat, digitsVal_toDigits, Option.filter_some, if_pos (by simpa using h)]

lemma eq_of_asU64_ofNat (h : (ofNat n).asU64 = some m) : m = n := by
  rw [asU64, ofNat, digitsVal_toDigits, Option.filter_eq_some_iff] at h
  exact (Option.some.inj h.1).symm

lemma asI64_ofInt (h : -(2 ^ 63) ≤ i ∧ i < 2 ^ 63) : (ofInt i).asI64 = some i := by
  cases i with
  | ofNat n =>
    have hn : n < 2 ^ 63 := by simpa using h.2
    rw [asI64, ofInt, ofNat, if_neg (head_toDigits_ne_minus n), digitsVal_toDigits, Option.bind_some, if_pos hn]
    rfl
  | negSucc n =>
    have hn : 0 < n + 1 ∧ n + 1 ≤ 2 ^ 63 := by omega
    rw [asI64, ofInt, if_pos (by rfl), List.tail_cons, digitsVal_toDigits, Option.bind_some, if_pos hn]
    rfl

end Number

end Json
