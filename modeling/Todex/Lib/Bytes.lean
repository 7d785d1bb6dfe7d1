import Mathlib

/-!
# Byte strings

Files are lists of bytes. Text is encoded in UTF-8, numbers in a fixed number of little- or
big-endian bytes.
-/

/-- The contents of a file or a buffer. -/
abbrev Bytes := List UInt8

namespace Bytes

/-! ### Text -/

/-- Text in UTF-8. -/
def ofChars (l : List Char) : Bytes := l.flatMap String.utf8EncodeChar

/-- The text of well-formed UTF-8. -/
def toChars? (b : Bytes) : Option (List Char) := b.toByteArray.utf8Decode?.map Array.toList

@[simp] lemma toChars?_ofChars (l : List Char) : toChars? (ofChars l) = some l := by
  have h : (ofChars l).toByteArray.utf8Decode? = some l.toArray := List.utf8Decode?_utf8Encode
  rw [toChars?, h, Option.map_some]

/-- The bytes of a string. -/
def ofString (s : String) : Bytes := ofChars s.toList

lemma ofString_injective : Function.Injective ofString := by
  intro s t h
  have hc : some s.toList = some t.toList := by
    rw [← toChars?_ofChars, ← toChars?_ofChars]
    exact congrArg toChars? h
  exact String.toList_injective (Option.some.inj hc)

@[simp] lemma ofChars_nil : ofChars [] = [] := rfl

lemma ofChars_append (l l' : List Char) : ofChars (l ++ l') = ofChars l ++ ofChars l' := by
  simp [ofChars]

/-- Text in ASCII has one byte for each character. -/
lemma length_ofChars_of_ascii (h : ∀ c ∈ l, c.toNat < 128) : (ofChars l).length = l.length := by
  induction l with
  | nil => rfl
  | cons c rest ih =>
    have hc : c.toNat ≤ 127 := Nat.le_of_lt_succ (h c List.mem_cons_self)
    have hbyte : (String.utf8EncodeChar c).length = 1 := by
      simp [String.utf8EncodeChar.eq_1, hc]
    rw [ofChars, List.flatMap_cons, List.length_append, hbyte, List.length_cons, ← ofChars,
      ih fun d hd => h d (List.mem_cons_of_mem _ hd), Nat.add_comm]

/-- The newline that separates the records of a file. -/
def newline : UInt8 := 10

/-- Text without control characters has no newline byte. -/
lemma newline_notMem_ofChars (h : ∀ c ∈ l, 32 ≤ c.toNat) : newline ∉ ofChars l := by
  simp only [ofChars, List.mem_flatMap, not_exists, not_and]
  intro c hc hmem
  have h32 := h c hc
  have hc : c.val.toNat < 0x110000 := by
    have := c.valid
    rcases this with h | ⟨-, h⟩
    · exact lt_trans h (by norm_num)
    · exact h
  change 32 ≤ c.val.toNat at h32
  rw [String.utf8EncodeChar.eq_1] at hmem
  -- every byte of an encoded character is the character itself or at least 128
  have hne {n : Nat} (h10 : n < 256) (hn : n ≠ 10) : newline ≠ UInt8.ofNat n := by
    intro heq
    have := congrArg UInt8.toNat heq
    rw [UInt8.toNat_ofNat_of_lt' h10] at this
    exact hn this.symm
  split_ifs at hmem <;> simp only [List.mem_cons, List.not_mem_nil, or_false] at hmem
  · exact hne (by omega) (by omega) hmem
  · rcases hmem with h | h
    · exact hne (by omega) (by omega) h
    · exact hne (by omega) (by omega) h
  · rcases hmem with h | h | h
    · exact hne (by omega) (by omega) h
    · exact hne (by omega) (by omega) h
    · exact hne (by omega) (by omega) h
  · rcases hmem with h | h | h | h
    · exact hne (by omega) (by omega) h
    · exact hne (by omega) (by omega) h
    · exact hne (by omega) (by omega) h
    · exact hne (by omega) (by omega) h

/-! ### Numbers -/

/-- `n` in `w` little-endian bytes. -/
def le (w n : Nat) : Bytes := (List.range w).map fun i => UInt8.ofNat (n / 256 ^ i)

/-- `n` in `w` big-endian bytes. -/
def be (w n : Nat) : Bytes := (le w n).reverse

/-- The number little-endian bytes stand for. -/
def leVal (b : Bytes) : Nat := b.foldr (fun d n => d.toNat + 256 * n) 0

@[simp] lemma length_le (w n : Nat) : (le w n).length = w := by simp [le]

@[simp] lemma length_be (w n : Nat) : (be w n).length = w := by simp [be]

lemma le_succ (w n : Nat) : le (w + 1) n = UInt8.ofNat n :: le w (n / 256) := by
  simp [le, List.range_succ_eq_map, Function.comp_def, pow_succ', Nat.div_div_eq_div_mul]

lemma leVal_le (h : n < 256 ^ w) : leVal (le w n) = n := by
  induction w generalizing n with
  | zero =>
    obtain rfl : n = 0 := by simpa using h
    rfl
  | succ w ih =>
    have hdiv : n / 256 < 256 ^ w := Nat.div_lt_of_lt_mul (by rwa [← pow_succ'])
    have hval := ih hdiv
    rw [le_succ]
    simp only [leVal, List.foldr_cons] at hval ⊢
    rw [hval, UInt8.toNat_ofNat']
    omega

lemma be_injective (hn : n < 256 ^ w) (hm : m < 256 ^ w) (h : be w n = be w m) : n = m := by
  have hle : le w n = le w m := List.reverse_injective h
  rw [← leVal_le hn, ← leVal_le hm, hle]

end Bytes
