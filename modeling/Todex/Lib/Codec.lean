import Todex.Lib.Bytes

/-!
# Base64, DEFLATE and CRC-32

URL-safe base64 without padding, the stored blocks of DEFLATE, and the CRC-32 checksum.
-/

namespace Base64

/-- The character of a six-bit digit. -/
def digit (n : Nat) : Char :=
  if n < 26 then Char.ofNat (n + 65)
  else if n < 52 then Char.ofNat (n + 71)
  else if n < 62 then Char.ofNat (n - 4)
  else if n = 62 then '-'
  else '_'

/-- The six-bit digit of a character. -/
def value (c : Char) : Option Nat :=
  if c.isUpper then some (c.toNat - 65)
  else if c.isLower then some (c.toNat - 71)
  else if c.isDigit then some (c.toNat + 4)
  else if c = '-' then some 62
  else if c = '_' then some 63
  else none

/-- Three bytes become four digits; a shorter rest becomes two or three. -/
def encode : Bytes → List Char
  | a :: b :: c :: rest =>
    let a := a.toNat
    let b := b.toNat
    let c := c.toNat
    digit (a / 4) :: digit (a % 4 * 16 + b / 16) :: digit (b % 16 * 4 + c / 64) :: digit (c % 64) ::
      encode rest
  | [a, b] =>
    let a := a.toNat
    let b := b.toNat
    [digit (a / 4), digit (a % 4 * 16 + b / 16), digit (b % 16 * 4)]
  | [a] =>
    let a := a.toNat
    [digit (a / 4), digit (a % 4 * 16)]
  | [] => []

/-- Bits of the last digit that belong to no byte must be zero. -/
def decode : List Char → Option Bytes
  | p :: q :: r :: s :: rest => do
    let p ← value p
    let q ← value q
    let r ← value r
    let s ← value s
    let rest ← decode rest
    return UInt8.ofNat (p * 4 + q / 16) :: UInt8.ofNat (q % 16 * 16 + r / 4) ::
      UInt8.ofNat (r % 4 * 64 + s) :: rest
  | [p, q, r] => do
    let p ← value p
    let q ← value q
    let r ← value r
    if r % 4 = 0 then
      return [UInt8.ofNat (p * 4 + q / 16), UInt8.ofNat (q % 16 * 16 + r / 4)]
    else none
  | [p, q] => do
    let p ← value p
    let q ← value q
    if q % 16 = 0 then return [UInt8.ofNat (p * 4 + q / 16)] else none
  | [_] => none
  | [] => some []

lemma value_digit (h : n < 64) : value (digit n) = some n := by
  interval_cases n <;> rfl

private lemma ofNat_eq (h : n = b.toNat) : UInt8.ofNat n = b := by
  rw [h, UInt8.ofNat_toNat]

/-- Encoded text consists of digits. -/
lemma mem_encode (h : c ∈ encode b) : ∃ n, c = digit n := by
  fun_induction encode b with
  | case1 x y z rest x' y' z' ih =>
    simp only [List.mem_cons] at h
    rcases h with h | h | h | h | h
    · exact ⟨_, h⟩
    · exact ⟨_, h⟩
    · exact ⟨_, h⟩
    · exact ⟨_, h⟩
    · exact ih h
  | case2 x y x' y' =>
    simp only [List.mem_cons, List.not_mem_nil, or_false] at h
    rcases h with h | h | h
    · exact ⟨_, h⟩
    · exact ⟨_, h⟩
    · exact ⟨_, h⟩
  | case3 x x' =>
    simp only [List.mem_cons, List.not_mem_nil, or_false] at h
    rcases h with h | h
    · exact ⟨_, h⟩
    · exact ⟨_, h⟩
  | case4 => cases h

lemma digit_toNat (n : Nat) : 45 ≤ (digit n).toNat := by
  rw [digit]
  split_ifs
  · rw [Char.toNat_ofNat, if_pos (.inl (by omega))]
    omega
  · rw [Char.toNat_ofNat, if_pos (.inl (by omega))]
    omega
  · rw [Char.toNat_ofNat, if_pos (.inl (by omega))]
    omega
  · decide
  · decide

lemma digit_lt (n : Nat) : (digit n).toNat < 128 := by
  rw [digit]
  split_ifs
  · rw [Char.toNat_ofNat, if_pos (.inl (by omega))]
    omega
  · rw [Char.toNat_ofNat, if_pos (.inl (by omega))]
    omega
  · rw [Char.toNat_ofNat, if_pos (.inl (by omega))]
    omega
  · decide
  · decide

lemma length_encode (b : Bytes) : (encode b).length = (4 * b.length + 2) / 3 := by
  induction b using encode.induct with
  | case1 a b c rest ih =>
    simp only [encode, List.length_cons, ih]
    omega
  | case2 a b => simp [encode]
  | case3 a => simp [encode]
  | case4 => rfl

lemma decode_encode (b : Bytes) : decode (encode b) = some b := by
  induction b using encode.induct with
  | case1 a b c rest ih =>
    have ha := a.toNat_lt
    have hb := b.toNat_lt
    have hc := c.toNat_lt
    simp only [encode, decode, value_digit (show a.toNat / 4 < 64 by omega),
      value_digit (show a.toNat % 4 * 16 + b.toNat / 16 < 64 by omega),
      value_digit (show b.toNat % 16 * 4 + c.toNat / 64 < 64 by omega),
      value_digit (show c.toNat % 64 < 64 by omega), ih, Option.bind_eq_bind, Option.bind_some,
      Option.pure_def, Option.some.injEq, List.cons.injEq, and_true]
    exact ⟨ofNat_eq (by omega), ofNat_eq (by omega), ofNat_eq (by omega)⟩
  | case2 a b =>
    have ha := a.toNat_lt
    have hb := b.toNat_lt
    simp only [encode, decode, value_digit (show a.toNat / 4 < 64 by omega),
      value_digit (show a.toNat % 4 * 16 + b.toNat / 16 < 64 by omega),
      value_digit (show b.toNat % 16 * 4 < 64 by omega), Option.bind_eq_bind, Option.bind_some]
    rw [if_pos (by omega)]
    simp only [Option.pure_def, Option.some.injEq, List.cons.injEq, and_true]
    exact ⟨ofNat_eq (by omega), ofNat_eq (by omega)⟩
  | case3 a =>
    have ha := a.toNat_lt
    simp only [encode, decode, value_digit (show a.toNat / 4 < 64 by omega),
      value_digit (show a.toNat % 4 * 16 < 64 by omega), Option.bind_eq_bind, Option.bind_some]
    rw [if_pos (by omega)]
    simp only [Option.pure_def, Option.some.injEq, List.cons.injEq, and_true]
    exact ofNat_eq (by omega)
  | case4 => rfl

end Base64

namespace Deflate

/-- The most bytes a stored block holds. -/
def blockBytes : Nat := 65535

/-- A stored block. -/
def storedBlock (final : UInt8) (data : Bytes) : Bytes :=
  final :: (Bytes.le 2 data.length ++ Bytes.le 2 (blockBytes - data.length) ++ data)

/-- Stored blocks for the bytes, the last one marked as final. -/
def encodeBlocks : Nat → Bytes → Bytes
  | 0, b => storedBlock 1 b
  | fuel + 1, b =>
    if b.length ≤ blockBytes then storedBlock 1 b
    else storedBlock 0 (b.take blockBytes) ++ encodeBlocks fuel (b.drop blockBytes)

def encode (b : Bytes) : Bytes := encodeBlocks b.length b

/-- Read stored blocks up to the final one. -/
def decodeBlocks : Nat → Bytes → Option Bytes
  | 0, _ => none
  | fuel + 1, b =>
    match b with
    | final :: l₀ :: l₁ :: n₀ :: n₁ :: rest =>
      let len := Bytes.leVal [l₀, l₁]
      if len + Bytes.leVal [n₀, n₁] ≠ blockBytes ∨ rest.length < len then none
      else if final = 1 then some (rest.take len)
      else if final = 0 then (decodeBlocks fuel (rest.drop len)).map (rest.take len ++ ·)
      else none
    | _ => none

def decode (b : Bytes) : Option Bytes := decodeBlocks b.length b

lemma decodeBlocks_storedBlock (final : UInt8) (hd : data.length ≤ blockBytes) (fuel : Nat) (rest : Bytes) :
    decodeBlocks (fuel + 1) (storedBlock final data ++ rest) = if final = 1 then some data
      else if final = 0 then (decodeBlocks fuel rest).map (data ++ ·) else none := by
  have hle (n : Nat) : Bytes.le 2 n = [UInt8.ofNat n, UInt8.ofNat (n / 256)] := by
    rw [Bytes.le_succ, Bytes.le_succ]
    rfl
  have hv {n : Nat} (hn : n ≤ blockBytes) :
      Bytes.leVal [UInt8.ofNat n, UInt8.ofNat (n / 256)] = n := by
    rw [← hle]
    exact Bytes.leVal_le (by simp only [blockBytes] at hn; omega)
  have hl := hv hd
  have hnl := hv (Nat.sub_le blockBytes data.length)
  simp only [storedBlock, hle, List.cons_append, List.nil_append, decodeBlocks, hl, hnl, List.take_left, List.drop_left]
  rw [if_neg (by simp only [List.length_append]; omega)]

lemma decodeBlocks_encodeBlocks (hn : b.length ≤ n)
    (hf : b.length < fuel) : decodeBlocks fuel (encodeBlocks n b) = some b := by
  have hb : 0 < blockBytes := by decide
  induction n generalizing b fuel with
  | zero =>
    obtain ⟨fuel, rfl⟩ := Nat.exists_eq_add_one_of_ne_zero (Nat.ne_zero_of_lt hf)
    have h := decodeBlocks_storedBlock 1 (show b.length ≤ blockBytes by omega) fuel []
    rw [List.append_nil] at h
    rw [encodeBlocks, h, if_pos rfl]
  | succ n ih =>
    obtain ⟨fuel, rfl⟩ := Nat.exists_eq_add_one_of_ne_zero (Nat.ne_zero_of_lt hf)
    rw [encodeBlocks]
    split_ifs with hl
    · have h := decodeBlocks_storedBlock 1 hl fuel []
      rw [List.append_nil] at h
      rw [h, if_pos rfl]
    · have ht : (b.take blockBytes).length ≤ blockBytes := by simp
      have hd : (b.drop blockBytes).length ≤ n ∧ (b.drop blockBytes).length < fuel := by
        simp only [List.length_drop]
        omega
      rw [decodeBlocks_storedBlock 0 ht, if_neg (by decide), if_pos rfl, ih hd.1 hd.2,
        Option.map_some, List.take_append_drop]

lemma length_encodeBlocks (n : Nat) (b : Bytes) :
    b.length < (encodeBlocks n b).length ∧ (encodeBlocks n b).length ≤ 2 * b.length + 5 := by
  induction n generalizing b with
  | zero =>
    simp only [encodeBlocks, storedBlock, List.length_cons, List.length_append, Bytes.length_le]
    omega
  | succ n ih =>
    have hr := ih (b.drop blockBytes)
    rw [encodeBlocks]
    split_ifs with hl
    · simp only [storedBlock, List.length_cons, List.length_append, Bytes.length_le]
      omega
    · simp only [storedBlock, List.length_cons, List.length_append, Bytes.length_le,
        List.length_take, List.length_drop] at hr ⊢
      simp only [blockBytes] at *
      omega

lemma decode_encode (b : Bytes) : decode (encode b) = some b :=
  decodeBlocks_encodeBlocks le_rfl (length_encodeBlocks _ b).1

end Deflate

namespace Crc32

/-- One bit of the division, with the reflected polynomial. -/
def shift (crc : UInt32) : UInt32 := if crc &&& 1 = 1 then (crc >>> 1) ^^^ 0xEDB88320 else crc >>> 1

def step (crc : UInt32) (b : UInt8) : UInt32 := shift^[8] (crc ^^^ b.toUInt32)

def sum (b : Bytes) : UInt32 := b.foldl step 0xFFFFFFFF ^^^ 0xFFFFFFFF

example : sum (Bytes.ofString "123456789") = 0xCBF43926 := by decide +kernel

end Crc32
