import Todex.Lib.Codec
import Todex.Lib.Json.Text

/-!
# How long a JSON text is

Lengths are those of the UTF-8 encoding.
-/

namespace Json

/-- The length of the text of a value. -/
def bytes (v : Json) : Nat := (Bytes.ofChars (print v)).length

/-- The length of a member with its colon and a separator. -/
def memberBytes (e : String × Json) : Nat := (Bytes.ofChars (printString e.1)).length + e.2.bytes + 2

lemma length_ofChars_cons (h : c.utf8Size = 1) (l : List Char) :
    (Bytes.ofChars (c :: l)).length = (Bytes.ofChars l).length + 1 := by
  simp [Bytes.ofChars, h, Nat.add_comm]

lemma length_printMembers (m : List (String × Json)) :
    (Bytes.ofChars (printMembers m)).length = (m.map memberBytes).sum + 1 := by
  induction m with
  | nil =>
    rw [printMembers]
    rfl
  | cons e m ih =>
    obtain ⟨k, v⟩ := e
    rw [printMembers, length_ofChars_cons (by decide), Bytes.ofChars_append, List.length_append,
      length_ofChars_cons (by decide), Bytes.ofChars_append, List.length_append, ih, List.map_cons,
      List.sum_cons, memberBytes, bytes]
    dsimp only
    omega

lemma bytes_object (m : List (String × Json)) : bytes (object m) = max 2 ((m.map memberBytes).sum + 1) := by
  cases m with
  | nil =>
    rw [bytes, print]
    rfl
  | cons e m =>
    obtain ⟨k, v⟩ := e
    rw [bytes, print, length_ofChars_cons (by decide), Bytes.ofChars_append, List.length_append,
      length_ofChars_cons (by decide), Bytes.ofChars_append, List.length_append,
      length_printMembers, List.map_cons, List.sum_cons, memberBytes, bytes]
    dsimp only
    omega

lemma length_ofChars_le (l : List Char) : (Bytes.ofChars l).length ≤ 4 * l.length := by
  induction l with
  | nil => simp
  | cons c l ih =>
    have hc := c.utf8Size_le_four
    simp only [Bytes.ofChars, List.flatMap_cons, List.length_append, String.length_utf8EncodeChar,
      List.length_cons] at ih ⊢
    omega

/-- A character that stands for itself in a string, in one byte. -/
def PlainByte (c : Char) : Prop := 32 ≤ c.toNat ∧ c.toNat < 128 ∧ c ≠ '"' ∧ c ≠ '\\'

lemma escape_of_le (h : 32 ≤ c.toNat) (hq : c ≠ '"') (hs : c ≠ '\\') : escape c = [c] := by
  have hne : ∀ d : Char, d.toNat < 32 → c ≠ d := by
    rintro d hd rfl
    omega
  rw [escape, if_neg hq, if_neg hs, if_neg (hne _ (by decide)), if_neg (hne _ (by decide)),
    if_neg (hne _ (by decide)), if_neg (hne _ (by decide)), if_neg (hne _ (by decide)), if_neg (by omega)]

lemma bytes_string (s : String) : bytes (string s) = (Bytes.ofChars (s.toList.flatMap escape)).length + 2 := by
  rw [bytes, print, printString, length_ofChars_cons (by decide), printChars, Bytes.ofChars_append,
    List.length_append]
  rfl

/-- A text of plain characters has two bytes more than it has characters. -/
lemma bytes_string_of_plain (h : ∀ c ∈ s.toList, PlainByte c) : bytes (string s) = s.length + 2 := by
  have he : s.toList.flatMap escape = s.toList := by
    have hself : ∀ l : List Char, (∀ c ∈ l, PlainByte c) → l.flatMap escape = l := by
      intro l hl
      induction l with
      | nil => rfl
      | cons c l ih =>
        have hc := hl c List.mem_cons_self
        rw [List.flatMap_cons, escape_of_le hc.1 hc.2.2.1 hc.2.2.2, ih fun d hd => hl d (List.mem_cons_of_mem c hd)]
        rfl
    exact hself _ h
  rw [bytes_string, he, Bytes.length_ofChars_of_ascii fun c hc => (h c hc).2.1, String.length_toList]

lemma plainByte_base64 (n : ℕ) : PlainByte (Base64.digit n) := by
  have hle := Base64.digit_toNat n
  refine ⟨by omega, Base64.digit_lt n, ?_, ?_⟩
  · intro h
    rw [h] at hle
    exact absurd hle (by decide)
  · intro h
    by_cases hn : n < 64
    · have hv := Base64.value_digit hn
      rw [h, show Base64.value '\\' = none from rfl] at hv
      cases hv
    · rw [Base64.digit, if_neg (by omega), if_neg (by omega), if_neg (by omega), if_neg (by omega)] at h
      exact absurd h (by decide)

/-- A text without control characters has at most four bytes for each character. -/
lemma bytes_string_le (h : ∀ c ∈ s.toList, 32 ≤ c.toNat) : bytes (string s) ≤ 4 * s.length + 2 := by
  have he : ∀ l : List Char, (∀ c ∈ l, 32 ≤ c.toNat) →
      (Bytes.ofChars (l.flatMap escape)).length ≤ 4 * l.length := by
    intro l hl
    induction l with
    | nil => simp
    | cons c l ih =>
      have hrest := ih fun d hd => hl d (List.mem_cons_of_mem c hd)
      have hc : (Bytes.ofChars (escape c)).length ≤ 4 := by
        by_cases hq : c = '"'
        · rw [hq]
          decide
        · by_cases hs : c = '\\'
          · rw [hs]
            decide
          · rw [escape_of_le (hl c List.mem_cons_self) hq hs]
            exact length_ofChars_le [c]
      rw [List.flatMap_cons, Bytes.ofChars_append, List.length_append, List.length_cons]
      omega
  have hle := he _ h
  rw [String.length_toList] at hle
  rw [bytes_string]
  exact Nat.add_le_add_right hle 2

/-- The text of a number has one byte for each digit. -/
lemma bytes_nat (n : Nat) : bytes (nat n) = (Nat.toDigits 10 n).length := by
  rw [bytes, nat, print, Number.ofNat, Bytes.length_ofChars_of_ascii]
  intro c hc
  have hd := List.all_eq_true.1 (Number.all_isDigit_toDigits n) c hc
  simp only [Char.isDigit, UInt32.le_iff_toNat_le, Bool.and_eq_true, decide_eq_true_eq, ge_iff_le,
    Char.toNat_val] at hd
  exact lt_of_le_of_lt hd.2 (by decide)

end Json
