import Todex.Lib.Json.Value

/-!
# JSON text

The compact text of a value and a parser for JSON text. The parser reads the text as it stands:
an object keeps its members in order with repetitions, and a number is its token. `Json.interpret`
turns the result into the value a program holds: ordered objects, numbers as they are read, and no
nesting beyond a limit.
-/

namespace Json

/-! ### Writing -/

/-- A hexadecimal digit. -/
def hexDigit (n : Nat) : Char := Nat.digitChar n

/-- A character of a string. -/
def escape (c : Char) : List Char :=
  if c = '"' then ['\\', '"']
  else if c = '\\' then ['\\', '\\']
  else if c = '\x08' then ['\\', 'b']
  else if c = '\x0c' then ['\\', 'f']
  else if c = '\n' then ['\\', 'n']
  else if c = '\r' then ['\\', 'r']
  else if c = '\t' then ['\\', 't']
  else if c.toNat < 32 then
    ['\\', 'u', '0', '0', hexDigit (c.toNat / 16), hexDigit (c.toNat % 16)]
  else [c]

/-- The characters of a string up to and with the closing quote. -/
def printChars (cs : List Char) : List Char := cs.flatMap escape ++ ['"']

/-- A string. -/
def printString (s : String) : List Char := '"' :: printChars s.toList

mutual
/-- The compact text of a value. -/
def print : Json → List Char
  | null => ['n', 'u', 'l', 'l']
  | bool true => ['t', 'r', 'u', 'e']
  | bool false => ['f', 'a', 'l', 's', 'e']
  | number n => n.token
  | string s => printString s
  | array [] => ['[', ']']
  | array (x :: xs) => '[' :: (print x ++ printElems xs)
  | object [] => ['\x7b', '\x7d']
  | object ((k, v) :: m) => '\x7b' :: (printString k ++ ':' :: (print v ++ printMembers m))

/-- The elements after the first, and the end of the array. -/
def printElems : List Json → List Char
  | [] => [']']
  | x :: xs => ',' :: (print x ++ printElems xs)

/-- The members after the first, and the end of the object. -/
def printMembers : List (String × Json) → List Char
  | [] => ['\x7d']
  | (k, v) :: m => ',' :: (printString k ++ ':' :: (print v ++ printMembers m))
end

/-! ### Reading -/

/-- Drop leading white space. -/
def skipSpace : List Char → List Char :=
  List.dropWhile fun c => c = ' ' ∨ c = '\n' ∨ c = '\t' ∨ c = '\r'

/-- The value of a hexadecimal digit of either case. -/
def hexVal (c : Char) : Option Nat :=
  if c.isDigit then some (c.toNat - '0'.toNat)
  else if 'a' ≤ c ∧ c ≤ 'f' then some (c.toNat - 'a'.toNat + 10)
  else if 'A' ≤ c ∧ c ≤ 'F' then some (c.toNat - 'A'.toNat + 10)
  else none

/-- Four hexadecimal digits. -/
def readHex4 : List Char → Option (Nat × List Char)
  | a :: b :: c :: d :: l => do
    let a ← hexVal a
    let b ← hexVal b
    let c ← hexVal c
    let d ← hexVal d
    return (((a * 16 + b) * 16 + c) * 16 + d, l)
  | _ => none

/-- What follows `\u`: a code point, or a leading surrogate and the escape of a trailing one. -/
def readUnicode (l : List Char) : Option (Char × List Char) := do
  let (n, l) ← readHex4 l
  if 0xDC00 ≤ n ∧ n ≤ 0xDFFF then none
  else if 0xD800 ≤ n ∧ n ≤ 0xDBFF then
    match l with
    | '\\' :: 'u' :: l => do
      let (n', l) ← readHex4 l
      if 0xDC00 ≤ n' ∧ n' ≤ 0xDFFF then
        return (Char.ofNat (0x10000 + (n - 0xD800) * 0x400 + (n' - 0xDC00)), l)
      else none
    | _ => none
  else return (Char.ofNat n, l)

/-- What follows a backslash. -/
def readEscape : List Char → Option (Char × List Char)
  | [] => none
  | c :: l =>
    if c = '"' ∨ c = '\\' ∨ c = '/' then some (c, l)
    else if c = 'b' then some ('\x08', l)
    else if c = 'f' then some ('\x0c', l)
    else if c = 'n' then some ('\n', l)
    else if c = 'r' then some ('\r', l)
    else if c = 't' then some ('\t', l)
    else if c = 'u' then readUnicode l
    else none

/-- The characters of a string after its opening quote. -/
def readChars : Nat → List Char → Option (List Char × List Char)
  | 0, _ => none
  | _ + 1, [] => none
  | fuel + 1, c :: l =>
    if c = '"' then some ([], l)
    else if c = '\\' then do
      let (c, l) ← readEscape l
      let (cs, l) ← readChars fuel l
      return (c :: cs, l)
    else if c.toNat < 32 then none
    else do
      let (cs, l) ← readChars fuel l
      return (c :: cs, l)

/-- A string after its opening quote. -/
def readString (l : List Char) : Option (String × List Char) :=
  (readChars l.length l).map fun (cs, l) => (String.ofList cs, l)

/-- The rest of the input after an expected character, white space before it skipped. -/
def expect (c : Char) (l : List Char) : Option (List Char) :=
  match skipSpace l with
  | d :: l => if d = c then some l else none
  | [] => none

/-- The key of a member and the colon after it. -/
def readKey (l : List Char) : Option (String × List Char) := do
  let l ← expect '"' l
  let (k, l) ← readString l
  let l ← expect ':' l
  return (k, l)

mutual
/-- Read a value. -/
def readValue : Nat → List Char → Option (Json × List Char)
  | 0, _ => none
  | fuel + 1, l =>
    match skipSpace l with
    | [] => none
    | c :: l =>
      if c = 'n' then (['u', 'l', 'l'].isPrefixOf? l).map (null, ·)
      else if c = 't' then (['r', 'u', 'e'].isPrefixOf? l).map (bool true, ·)
      else if c = 'f' then (['a', 'l', 's', 'e'].isPrefixOf? l).map (bool false, ·)
      else if c = '"' then (readString l).map fun (s, l) => (string s, l)
      else if c = '[' then
        match expect ']' l with
        | some l => some (array [], l)
        | none => do
          let (x, l) ← readValue fuel l
          let (xs, l) ← readElems fuel l
          return (array (x :: xs), l)
      else if c = '\x7b' then
        match expect '\x7d' l with
        | some l => some (object [], l)
        | none => do
          let (k, l) ← readKey l
          let (v, l) ← readValue fuel l
          let (m, l) ← readMembers fuel l
          return (object ((k, v) :: m), l)
      else do
        let (t, l) ← scanNumber (c :: l)
        -- the scanner takes its own token whole
        if h : scanNumber t = some (t, []) then return (number ⟨t, h⟩, l) else none

/-- Read the elements after the first, and the end of the array. -/
def readElems : Nat → List Char → Option (List Json × List Char)
  | 0, _ => none
  | fuel + 1, l =>
    match expect ']' l with
    | some l => some ([], l)
    | none => do
      let l ← expect ',' l
      let (x, l) ← readValue fuel l
      let (xs, l) ← readElems fuel l
      return (x :: xs, l)

/-- Read the members after the first, and the end of the object. -/
def readMembers : Nat → List Char → Option (List (String × Json) × List Char)
  | 0, _ => none
  | fuel + 1, l =>
    match expect '\x7d' l with
    | some l => some ([], l)
    | none => do
      let l ← expect ',' l
      let (k, l) ← readKey l
      let (v, l) ← readValue fuel l
      let (m, l) ← readMembers fuel l
      return ((k, v) :: m, l)
end

/-- Parse a text that is one JSON value. -/
def parse (l : List Char) : Option Json := do
  let (v, l) ← readValue (l.length + 1) l
  if skipSpace l = [] then return v else none

/-! ### Raw elements -/

/-- The text of the next value, without the white space around it. -/
def rawValue (l : List Char) : Option (List Char × List Char) :=
  let l := skipSpace l
  (readValue (l.length + 1) l).map fun (_, rest) => (l.take (l.length - rest.length), rest)

/-- The texts of the elements after the first, and the end of the array. -/
def rawElems : Nat → List Char → Option (List (List Char) × List Char)
  | 0, _ => none
  | fuel + 1, l =>
    match expect ']' l with
    | some l => some ([], l)
    | none => do
      let l ← expect ',' l
      let (x, l) ← rawValue l
      let (xs, l) ← rawElems fuel l
      return (x :: xs, l)

/-- The texts of the elements of an array. -/
def rawArray (l : List Char) : Option (List (List Char)) := do
  let l ← expect '[' l
  match expect ']' l with
  | some l => if skipSpace l = [] then return [] else none
  | none =>
    let (x, l) ← rawValue l
    let (xs, l) ← rawElems (l.length + 1) l
    if skipSpace l = [] then return x :: xs else none

/-! ### Reading back what was written -/

lemma skipSpace_cons {c : Char} (h : c ≠ ' ' ∧ c ≠ '\n' ∧ c ≠ '\t' ∧ c ≠ '\r') (l : List Char) :
    skipSpace (c :: l) = c :: l := by
  simp [skipSpace, h]

lemma expect_cons {c d : Char} (hd : d ≠ ' ' ∧ d ≠ '\n' ∧ d ≠ '\t' ∧ d ≠ '\r') (l : List Char) :
    expect c (d :: l) = if d = c then some l else none := by
  rw [expect, skipSpace_cons hd]

private lemma hexVal_hexDigit {n : Nat} (h : n < 16) : hexVal (hexDigit n) = some n := by
  interval_cases n <;> rfl

private lemma readUnicode_control {c : Char} (h : c.toNat < 32) (l : List Char) :
    readUnicode ('0' :: '0' :: hexDigit (c.toNat / 16) :: hexDigit (c.toNat % 16) :: l) = some (c, l) := by
  have h0 : hexVal '0' = some 0 := rfl
  have hv : ((0 * 16 + 0) * 16 + c.toNat / 16) * 16 + c.toNat % 16 = c.toNat := by omega
  have hl : ¬ (0xDC00 ≤ c.toNat ∧ c.toNat ≤ 0xDFFF) := by omega
  have hh : ¬ (0xD800 ≤ c.toNat ∧ c.toNat ≤ 0xDBFF) := by omega
  simp only [readUnicode, readHex4, h0, hexVal_hexDigit (show c.toNat / 16 < 16 by omega),
    hexVal_hexDigit (show c.toNat % 16 < 16 by omega), Option.bind_eq_bind, Option.bind_some,
    hv, Option.pure_def, hl, hh, if_false, Char.ofNat_toNat]

lemma readChars_backslash {c : Char} {l l' : List Char} (fuel : Nat) (h : readEscape l = some (c, l')) :
    readChars (fuel + 1) ('\\' :: l) = (readChars fuel l').map fun (cs, l) => (c :: cs, l) := by
  simp only [readChars, h, show ('\\' : Char) ≠ '"' by decide, if_false, if_true]
  cases hl : readChars fuel l' <;> simp [hl]

/-- A written character is read back. -/
lemma readChars_escape (fuel : Nat) (c : Char) (l : List Char) :
    readChars (fuel + 1) (escape c ++ l) = (readChars fuel l).map fun (cs, l) => (c :: cs, l) := by
  rw [escape]
  split_ifs with hq hs hb hf hn hr ht hc
  · exact readChars_backslash fuel (by rw [hq]; rfl)
  · exact readChars_backslash fuel (by rw [hs]; rfl)
  · exact readChars_backslash fuel (by rw [hb]; rfl)
  · exact readChars_backslash fuel (by rw [hf]; rfl)
  · exact readChars_backslash fuel (by rw [hn]; rfl)
  · exact readChars_backslash fuel (by rw [hr]; rfl)
  · exact readChars_backslash fuel (by rw [ht]; rfl)
  · exact readChars_backslash fuel (readUnicode_control hc l)
  · simp only [List.singleton_append, readChars, hq, hs, hc, if_false]
    cases readChars fuel l <;> rfl

lemma readChars_printChars {fuel : Nat} {cs : List Char} (h : cs.length < fuel) (l : List Char) :
    readChars fuel (printChars cs ++ l) = some (cs, l) := by
  induction cs generalizing fuel with
  | nil =>
    obtain ⟨fuel, rfl⟩ := Nat.exists_eq_add_one_of_ne_zero (Nat.pos_iff_ne_zero.mp h)
    rfl
  | cons c cs ih =>
    obtain ⟨fuel, rfl⟩ := Nat.exists_eq_add_one_of_ne_zero (Nat.ne_zero_of_lt h)
    have hf : cs.length < fuel := by simpa using h
    have hcs := ih hf
    rw [printChars, List.append_assoc] at hcs ⊢
    rw [List.flatMap_cons, List.append_assoc, readChars_escape, hcs, Option.map_some]

lemma length_le_printChars (cs : List Char) : cs.length < (printChars cs).length := by
  have hp (c : Char) : 1 ≤ (escape c).length := by
    rw [escape]
    split_ifs <;> simp
  have hl : cs.length ≤ (cs.flatMap escape).length := by
    induction cs with
    | nil => simp
    | cons c cs ih =>
      have := hp c
      simp only [List.flatMap_cons, List.length_cons, List.length_append]
      omega
  simp only [printChars, List.length_append, List.length_singleton]
  omega

/-- A written string is read back. -/
lemma readString_printChars (s : String) (l : List Char) : readString (printChars s.toList ++ l) = some (s, l) := by
  have hf : s.toList.length < (printChars s.toList ++ l).length := by
    have := length_le_printChars s.toList
    simp only [List.length_append]
    omega
  rw [readString, readChars_printChars hf, Option.map_some]
  dsimp only
  rw [String.ofList_toList]

lemma readKey_printString (k : String) (l : List Char) : readKey (printString k ++ ':' :: l) = some (k, l) := by
  simp [readKey, printString, expect_cons, readString_printChars]

/-! #### Values -/

/-- A character that a written value can start with. -/
def StartsValue (c : Char) : Prop :=
  c = 'n' ∨ c = 't' ∨ c = 'f' ∨ c = '"' ∨ c = '[' ∨ c = '\x7b' ∨ c = '-' ∨ c.isDigit = true

lemma StartsValue.not_space {c : Char} (h : StartsValue c) : c ≠ ' ' ∧ c ≠ '\n' ∧ c ≠ '\t' ∧ c ≠ '\r' := by
  refine ⟨?_, ?_, ?_, ?_⟩ <;> rintro rfl <;> revert h <;> simp [StartsValue]

lemma StartsValue.ne_close {c : Char} (h : StartsValue c) : c ≠ ']' ∧ c ≠ '\x7d' := by
  refine ⟨?_, ?_⟩ <;> rintro rfl <;> revert h <;> simp [StartsValue]

lemma startsValue_scanNumber {c : Char} {l : List Char} {r : List Char × List Char}
    (h : scanNumber (c :: l) = some r) : c = '-' ∨ c.isDigit = true := by
  by_cases hm : c = '-'
  · exact .inl hm
  · refine .inr ?_
    rw [scanNumber, if_neg hm, scanUnsigned] at h
    by_contra hd
    have h0 : c ≠ '0' := by rintro rfl; exact hd rfl
    simp [scanInt, h0, hd] at h

lemma exists_print_eq_cons (v : Json) : ∃ c l, print v = c :: l ∧ StartsValue c := by
  match v with
  | null => exact ⟨_, _, rfl, by simp [StartsValue]⟩
  | bool true => exact ⟨_, _, rfl, by simp [StartsValue]⟩
  | bool false => exact ⟨_, _, rfl, by simp [StartsValue]⟩
  | string s => exact ⟨_, _, rfl, by simp [StartsValue]⟩
  | array [] => exact ⟨_, _, rfl, by simp [StartsValue]⟩
  | array (x :: xs) => exact ⟨_, _, rfl, by simp [StartsValue]⟩
  | object [] => exact ⟨_, _, rfl, by simp [StartsValue]⟩
  | object ((k, v) :: m) => exact ⟨_, _, rfl, by simp [StartsValue]⟩
  | number ⟨[], hn⟩ => simp [scanNumber] at hn
  | number ⟨c :: l, hn⟩ =>
    refine ⟨c, l, rfl, ?_⟩
    rcases startsValue_scanNumber hn with h | h <;> simp [StartsValue, h]

lemma expect_close_print (v : Json) (l : List Char) :
    expect ']' (print v ++ l) = none ∧ expect '\x7d' (print v ++ l) = none := by
  obtain ⟨c, l', h, hc⟩ := exists_print_eq_cons v
  rw [h, List.cons_append, expect_cons hc.not_space, expect_cons hc.not_space]
  simp [hc.ne_close]

mutual
/-- Enough fuel to read the value back. -/
def size : Json → Nat
  | array [] => 1
  | array (x :: xs) => 1 + size x + sizeElems xs
  | object [] => 1
  | object ((_, v) :: m) => 1 + size v + sizeMembers m
  | _ => 1

/-- Enough fuel to read the remaining elements back. -/
def sizeElems : List Json → Nat
  | [] => 1
  | x :: xs => 1 + size x + sizeElems xs

/-- Enough fuel to read the remaining members back. -/
def sizeMembers : List (String × Json) → Nat
  | [] => 1
  | (_, v) :: m => 1 + size v + sizeMembers m
end

lemma endsNumber_printElems (xs : List Json) (l : List Char) : EndsNumber (printElems xs ++ l) := by
  cases xs <;> simp [printElems, EndsNumber]

lemma endsNumber_printMembers (m : List (String × Json)) (l : List Char) : EndsNumber (printMembers m ++ l) := by
  rcases m with _ | ⟨⟨k, v⟩, m⟩ <;> simp [printMembers, EndsNumber]

lemma size_pos (v : Json) : 0 < size v := by
  match v with
  | null | bool _ | number _ | string _ | array [] | object [] => simp [size]
  | array (x :: xs) => simp only [size]; omega
  | object ((k, v) :: m) => simp only [size]; omega

lemma sizeElems_pos (xs : List Json) : 0 < sizeElems xs := by
  cases xs <;> simp only [sizeElems] <;> omega

lemma sizeMembers_pos (m : List (String × Json)) : 0 < sizeMembers m := by
  match m with
  | [] => simp [sizeMembers]
  | (k, v) :: m => simp only [sizeMembers]; omega

lemma readValue_printString (n : Nat) (s : String) (l : List Char) :
    readValue (n + 1) (printString s ++ l) = some (string s, l) := by
  simp [printString, readValue, skipSpace_cons, readString_printChars]

lemma readValue_token (n : Nat) (t : Number) {l : List Char} (hl : EndsNumber l) :
    readValue (n + 1) (t.token ++ l) = some (number t, l) := by
  have hsc := t.scan_append hl
  obtain ⟨_ | ⟨c, cs⟩, hv⟩ := t
  · simp [scanNumber] at hv
  · have hs := startsValue_scanNumber hv
    have hne : c ≠ 'n' ∧ c ≠ 't' ∧ c ≠ 'f' ∧ c ≠ '"' ∧ c ≠ '[' ∧ c ≠ '\x7b' := by
      refine ⟨?_, ?_, ?_, ?_, ?_, ?_⟩ <;> rintro rfl <;> revert hs <;> decide
    have hsp : c ≠ ' ' ∧ c ≠ '\n' ∧ c ≠ '\t' ∧ c ≠ '\r' := by
      refine ⟨?_, ?_, ?_, ?_⟩ <;> rintro rfl <;> revert hs <;> decide
    simp only [List.cons_append] at hsc ⊢
    simp [readValue, skipSpace_cons hsp, hne, hsc, hv]

lemma readValue_array_cons {n : Nat} {x : Json} {xs : List Json} {l : List Char}
    (hx : readValue n (print x ++ (printElems xs ++ l)) = some (x, printElems xs ++ l))
    (hxs : readElems n (printElems xs ++ l) = some (xs, l)) :
    readValue (n + 1) ('[' :: (print x ++ (printElems xs ++ l))) = some (array (x :: xs), l) := by
  simp [readValue, skipSpace_cons, (expect_close_print x _).1, hx, hxs]

lemma readValue_object_cons {n : Nat} {k : String} {v : Json} {m : List (String × Json)} {l : List Char}
    (hv : readValue n (print v ++ (printMembers m ++ l)) = some (v, printMembers m ++ l))
    (hm : readMembers n (printMembers m ++ l) = some (m, l)) :
    readValue (n + 1) ('\x7b' :: (printString k ++ ':' :: (print v ++ (printMembers m ++ l)))) =
      some (object ((k, v) :: m), l) := by
  have ho : expect '\x7d' (printString k ++ ':' :: (print v ++ (printMembers m ++ l))) = none :=
    (expect_close_print (string k) _).2
  simp [readValue, skipSpace_cons, ho, readKey_printString, hv, hm]

mutual
lemma readValue_print (v : Json) {fuel : Nat} (hf : size v ≤ fuel) {l : List Char}
    (hl : EndsNumber l) : readValue fuel (print v ++ l) = some (v, l) := by
  obtain ⟨n, rfl⟩ := Nat.exists_eq_add_one_of_ne_zero ((size_pos v).trans_le hf).ne'
  match v with
  | null => simp [print, readValue, skipSpace]
  | bool true => simp [print, readValue, skipSpace]
  | bool false => simp [print, readValue, skipSpace]
  | string s => exact readValue_printString n s l
  | number t => exact readValue_token n t hl
  | array [] => simp [print, readValue, skipSpace, expect]
  | array (x :: xs) =>
    simp only [size] at hf
    rw [print, List.cons_append, List.append_assoc]
    exact readValue_array_cons (readValue_print x (by omega) (endsNumber_printElems xs l))
      (readElems_print xs (by omega) l)
  | object [] => simp [print, readValue, skipSpace, expect]
  | object ((k, v) :: m) =>
    simp only [size] at hf
    rw [print, List.cons_append, List.append_assoc, List.cons_append, List.append_assoc]
    exact readValue_object_cons (readValue_print v (by omega) (endsNumber_printMembers m l))
      (readMembers_print m (by omega) l)

lemma readElems_print (xs : List Json) {fuel : Nat} (hf : sizeElems xs ≤ fuel)
    (l : List Char) : readElems fuel (printElems xs ++ l) = some (xs, l) := by
  obtain ⟨n, rfl⟩ := Nat.exists_eq_add_one_of_ne_zero ((sizeElems_pos xs).trans_le hf).ne'
  match xs with
  | [] => simp [printElems, readElems, expect_cons]
  | x :: xs =>
    simp only [sizeElems] at hf
    have hx := readValue_print x (show size x ≤ n by omega) (endsNumber_printElems xs l)
    have hxs := readElems_print xs (show sizeElems xs ≤ n by omega) l
    simp [printElems, readElems, expect_cons, hx, hxs]

lemma readMembers_print (m : List (String × Json)) {fuel : Nat} (hf : sizeMembers m ≤ fuel)
    (l : List Char) : readMembers fuel (printMembers m ++ l) = some (m, l) := by
  obtain ⟨n, rfl⟩ := Nat.exists_eq_add_one_of_ne_zero ((sizeMembers_pos m).trans_le hf).ne'
  match m with
  | [] => simp [printMembers, readMembers, expect_cons]
  | (k, v) :: m =>
    simp only [sizeMembers] at hf
    have hv := readValue_print v (show size v ≤ n by omega) (endsNumber_printMembers m l)
    have hm := readMembers_print m (show sizeMembers m ≤ n by omega) l
    simp [printMembers, readMembers, expect_cons, readKey_printString, hv, hm]
end

mutual
lemma size_le_length (v : Json) : size v ≤ (print v).length := by
  match v with
  | null | bool true | bool false | array [] | object [] => simp [size, print]
  | string s => simp [size, print, printString]
  | number t =>
    obtain ⟨c, l, h, -⟩ := exists_print_eq_cons (number t)
    simp [size, h]
  | array (x :: xs) =>
    have := size_le_length x
    have := sizeElems_le_length xs
    simp only [size, print, List.length_cons, List.length_append]
    omega
  | object ((k, v) :: m) =>
    have := size_le_length v
    have := sizeMembers_le_length m
    simp only [size, print, List.length_cons, List.length_append]
    omega

lemma sizeElems_le_length (xs : List Json) : sizeElems xs ≤ (printElems xs).length := by
  match xs with
  | [] => simp [sizeElems, printElems]
  | x :: xs =>
    have := size_le_length x
    have := sizeElems_le_length xs
    simp only [sizeElems, printElems, List.length_cons, List.length_append]
    omega

lemma sizeMembers_le_length (m : List (String × Json)) : sizeMembers m ≤ (printMembers m).length := by
  match m with
  | [] => simp [sizeMembers, printMembers]
  | (k, v) :: m =>
    have := size_le_length v
    have := sizeMembers_le_length m
    simp only [sizeMembers, printMembers, List.length_cons, List.length_append]
    omega
end

/-- The text of a value is parsed to the value. -/
lemma parse_print (v : Json) : parse (print v) = some v := by
  have hf : size v ≤ (print v).length + 1 := (size_le_length v).trans (Nat.le_succ _)
  have h := readValue_print v hf (l := []) (by simp [EndsNumber])
  rw [List.append_nil] at h
  simp only [parse, h, skipSpace, Option.bind_eq_bind, Option.bind_some, List.dropWhile_nil, if_true, Option.pure_def]

/-- Values with the same text are equal. -/
instance : DecidableEq Json := fun a b =>
  decidable_of_iff (print a = print b)
    ⟨fun h => Option.some.inj ((parse_print a).symm.trans (h ▸ parse_print b)), congrArg print⟩

/-! ### The text is printable -/

/-- A character that may stand in written text: no control character. -/
def Printable (c : Char) : Prop := 32 ≤ c.toNat

instance (c : Char) : Decidable (Printable c) := inferInstanceAs (Decidable (32 ≤ c.toNat))

lemma printable_of_isDigit {c : Char} (h : c.isDigit = true) : Printable c := by
  simp only [Char.isDigit, Bool.and_eq_true, decide_eq_true_eq] at h
  have h48 : (48 : UInt32).toNat ≤ c.val.toNat := UInt32.le_iff_toNat_le.mp h.1
  exact le_trans (by decide) h48

private lemma scanDigits_printable {lead l : List Char} {r : List Char × List Char}
    (hl : ∀ c ∈ lead, Printable c) (h : scanDigits lead l = some r) : ∀ c ∈ r.1, Printable c := by
  simp only [scanDigits, Option.ite_none_right_eq_some, Option.some.injEq] at h
  obtain ⟨-, rfl⟩ := h
  intro c hc
  rcases List.mem_append.mp hc with hc | hc
  · exact hl c hc
  · exact printable_of_isDigit (List.mem_takeWhile_imp hc)

private lemma scanInt_printable {l : List Char} {r : List Char × List Char}
    (h : scanInt l = some r) : ∀ c ∈ r.1, Printable c := by
  cases l with
  | nil => simp [scanInt] at h
  | cons d l =>
    simp only [scanInt] at h
    split_ifs at h with h0 h1 h2
    · obtain rfl := Option.some.inj h
      simp [Printable]
    · obtain rfl := Option.some.inj h
      intro c hc
      rcases List.mem_cons.mp hc with rfl | hc
      · exact printable_of_isDigit h2
      · exact printable_of_isDigit (List.mem_takeWhile_imp hc)

private lemma scanFrac_printable {l : List Char} {r : List Char × List Char}
    (h : scanFrac l = some r) : ∀ c ∈ r.1, Printable c := by
  cases l with
  | nil => obtain rfl := Option.some.inj h; simp
  | cons d l =>
    simp only [scanFrac] at h
    split_ifs at h
    · exact scanDigits_printable (by simp [Printable]) h
    · obtain rfl := Option.some.inj h; simp

private lemma scanExp_printable {l : List Char} {r : List Char × List Char}
    (h : scanExp l = some r) : ∀ c ∈ r.1, Printable c := by
  cases l with
  | nil => obtain rfl := Option.some.inj h; simp
  | cons d l =>
    simp only [scanExp] at h
    split_ifs at h with hd
    · cases l with
      | nil => simp [scanExpSign] at h
      | cons d' l =>
        simp only [scanExpSign] at h
        split_ifs at h with hd'
        · refine scanDigits_printable ?_ h
          rcases hd with rfl | rfl <;> rcases hd' with rfl | rfl <;> simp [Printable]
        · refine scanDigits_printable ?_ h
          rcases hd with rfl | rfl <;> simp [Printable]
    · obtain rfl := Option.some.inj h; simp

private lemma scanUnsigned_printable {l : List Char} {r : List Char × List Char}
    (h : scanUnsigned l = some r) : ∀ c ∈ r.1, Printable c := by
  simp only [scanUnsigned, Option.bind_eq_bind, Option.bind_eq_some_iff, Prod.exists,
    Option.pure_def, Option.some.injEq] at h
  obtain ⟨int, l₁, hi, frac, l₂, hf, exp, l₃, he, rfl⟩ := h
  simp only [List.mem_append]
  rintro c ((hc | hc) | hc)
  · exact scanInt_printable hi c hc
  · exact scanFrac_printable hf c hc
  · exact scanExp_printable he c hc

lemma Number.printable (n : Number) : ∀ c ∈ n.token, Printable c := by
  obtain ⟨_ | ⟨d, t⟩, hv⟩ := n
  · simp
  · simp only [scanNumber] at hv
    split_ifs at hv with hd
    · obtain ⟨r, hr, heq⟩ := Option.map_eq_some_iff.mp hv
      have ht : r.1 = t := (List.cons.inj (Prod.mk.inj heq).1).2
      intro c hc
      rcases List.mem_cons.mp hc with rfl | hc
      · rw [hd]; decide
      · exact scanUnsigned_printable hr c (ht ▸ hc)
    · exact scanUnsigned_printable hv

lemma escape_printable (c : Char) : ∀ d ∈ escape c, Printable d := by
  have hh {n : Nat} (hn : n < 16) : Printable (hexDigit n) := by
    interval_cases n <;> decide
  rw [escape]
  split_ifs with h1 h2 h3 h4 h5 h6 h7 h8
  all_goals simp only [List.mem_cons, List.not_mem_nil, or_false]
  · rintro d (rfl | rfl) <;> decide
  · rintro d (rfl | rfl) <;> decide
  · rintro d (rfl | rfl) <;> decide
  · rintro d (rfl | rfl) <;> decide
  · rintro d (rfl | rfl) <;> decide
  · rintro d (rfl | rfl) <;> decide
  · rintro d (rfl | rfl) <;> decide
  · rintro d (rfl | rfl | rfl | rfl | rfl | rfl)
    · decide
    · decide
    · decide
    · decide
    · exact hh (by omega)
    · exact hh (by omega)
  · rintro d rfl
    exact Nat.le_of_not_lt h8

lemma printString_printable (s : String) : ∀ c ∈ printString s, Printable c := by
  simp only [printString, printChars, List.mem_cons, List.mem_append, List.mem_flatMap, List.not_mem_nil, or_false]
  rintro c (rfl | ⟨d, -, hc⟩ | rfl)
  · decide
  · exact escape_printable d c hc
  · decide

mutual
lemma print_printable (v : Json) : ∀ c ∈ print v, Printable c := by
  match v with
  | null | bool true | bool false | array [] | object [] => simp [print, Printable]
  | string s => exact printString_printable s
  | number t => exact t.printable
  | array (x :: xs) =>
    simp only [print, List.mem_cons, List.mem_append]
    rintro c (rfl | hc | hc)
    · decide
    · exact print_printable x c hc
    · exact printElems_printable xs c hc
  | object ((k, v) :: m) =>
    simp only [print, List.mem_cons, List.mem_append]
    rintro c (rfl | hc | rfl | hc | hc)
    · decide
    · exact printString_printable k c hc
    · decide
    · exact print_printable v c hc
    · exact printMembers_printable m c hc

lemma printElems_printable (xs : List Json) : ∀ c ∈ printElems xs, Printable c := by
  match xs with
  | [] => simp [printElems, Printable]
  | x :: xs =>
    simp only [printElems, List.mem_cons, List.mem_append]
    rintro c (rfl | hc | hc)
    · decide
    · exact print_printable x c hc
    · exact printElems_printable xs c hc

lemma printMembers_printable (m : List (String × Json)) : ∀ c ∈ printMembers m, Printable c := by
  match m with
  | [] => simp [printMembers, Printable]
  | (k, v) :: m =>
    simp only [printMembers, List.mem_cons, List.mem_append]
    rintro c (rfl | hc | rfl | hc | hc)
    · decide
    · exact printString_printable k c hc
    · decide
    · exact print_printable v c hc
    · exact printMembers_printable m c hc
end

end Json
