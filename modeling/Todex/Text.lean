import Todex.Lib.Bytes

/-!
# Text of clients

What the daemon does to names and identifiers that a client sends, before it keeps them.
-/

namespace Todex

/-- `char::is_whitespace`. -/
def isWhitespace (c : Char) : Bool :=
  (9 ≤ c.toNat ∧ c.toNat ≤ 13) ∨ (0x2000 ≤ c.toNat ∧ c.toNat ≤ 0x200a) ∨
    c.toNat ∈ [0x20, 0x85, 0xa0, 0x1680, 0x2028, 0x2029, 0x202f, 0x205f, 0x3000]

/-- `char::is_control`. -/
def isControl (c : Char) : Bool := c.toNat < 0x20 ∨ (0x7f ≤ c.toNat ∧ c.toNat ≤ 0x9f)

/-- `str::trim_end`, on characters. -/
def trimEndChars (chars : List Char) : List Char := (chars.reverse.dropWhile isWhitespace).reverse

/-- `str::trim`, on characters. -/
def trimChars (chars : List Char) : List Char := trimEndChars (chars.dropWhile isWhitespace)

/-- `str::trim`. -/
def trim (text : String) : String := String.ofList (trimChars text.toList)

/-- A text of which nothing is left is no text. -/
def trimField (value : Option String) : Option String := (value.map trim).filter (· ≠ "")

/-- `split_inclusive('\n')`. -/
def splitInclusive : List Char → List (List Char)
  | [] => []
  | c :: rest =>
    if c = '\n' then [c] :: splitInclusive rest
    else
      match splitInclusive rest with
      | [] => [[c]]
      | line :: lines => (c :: line) :: lines

/-- A line without its end. -/
def stripLineEnd (line : List Char) : List Char :=
  match line.reverse with
  | '\n' :: '\r' :: rest => rest.reverse
  | '\n' :: rest => rest.reverse
  | _ => line

/-- `str::lines`. -/
def lines (text : String) : List String :=
  (splitInclusive text.toList).map fun line => String.ofList (stripLineEnd line)

/-- Two hexadecimal digits for each byte. -/
def hex (b : Bytes) : String :=
  String.ofList (b.flatMap fun x => [Nat.digitChar (x.toNat / 16), Nat.digitChar (x.toNat % 16)])

/-! ### What is trimmed stays trimmed -/

lemma trimEndChars_eq (chars : List Char) : trimEndChars chars = chars.rdropWhile isWhitespace := rfl

lemma trimEndChars_isPrefix (chars : List Char) : trimEndChars chars <+: chars :=
  List.rdropWhile_prefix isWhitespace chars

lemma dropWhile_trimChars (chars : List Char) : (trimChars chars).dropWhile isWhitespace = trimChars chars := by
  rw [List.dropWhile_eq_self_iff]
  intro hpo
  have hp := trimEndChars_isPrefix (chars.dropWhile isWhitespace)
  have hl : 0 < (chars.dropWhile isWhitespace).length := hpo.trans_le hp.length_le
  have hh := List.dropWhile_get_zero_not isWhitespace chars hl
  rw [List.get_eq_getElem, ← hp.getElem hpo] at hh
  exact hh

@[simp] lemma trimChars_trimChars (chars : List Char) : trimChars (trimChars chars) = trimChars chars := by
  conv_lhs => rw [trimChars, dropWhile_trimChars]
  rw [trimChars, trimEndChars_eq, trimEndChars_eq, List.rdropWhile_idempotent]

@[simp] lemma trim_trim (text : String) : trim (trim text) = trim text := by
  simp [trim]

@[simp] lemma trimField_trimField (value : Option String) : trimField (trimField value) = trimField value := by
  cases value with
  | none => rfl
  | some text =>
    by_cases h : trim text = "" <;> simp [trimField, Option.filter_some, h]

/-- A text without white space. -/
lemma trim_eq_self (h : ∀ c ∈ text.toList, isWhitespace c = false) : trim text = text := by
  have hd : ∀ chars : List Char, (∀ c ∈ chars, isWhitespace c = false) →
      chars.dropWhile isWhitespace = chars := by
    intro chars hc
    cases chars with
    | nil => rfl
    | cons c chars => exact List.dropWhile_cons_of_neg (by simp [hc c])
  rw [trim, trimChars, hd _ h, trimEndChars, hd _ (by simpa using h), List.reverse_reverse, String.ofList_toList]

lemma trimField_some (h : trim text = text) (hne : text ≠ "") : trimField (some text) = some text := by
  simp [trimField, Option.filter_some, h, hne]

/-- White space around a text that starts and ends with something else. -/
lemma trimChars_append (hi : ∀ c ∈ indent, isWhitespace c) (hh : ∀ c ∈ chars.head?, isWhitespace c = false)
    (hla : ∀ c ∈ chars.getLast?, isWhitespace c = false) : trimChars (indent ++ chars) = chars := by
  have hs : ∀ l : List Char, (∀ c ∈ l.head?, isWhitespace c = false) → l.dropWhile isWhitespace = l := by
    intro l hl
    cases l with
    | nil => rfl
    | cons c l => exact List.dropWhile_cons_of_neg (by simp [hl c rfl])
  rw [trimChars, List.dropWhile_append_of_pos hi, hs chars hh, trimEndChars,
    hs chars.reverse (by simpa using hla), List.reverse_reverse]

/-! ### Lines -/

lemma splitInclusive_append (h : '\n' ∉ line) (rest : List Char) :
    splitInclusive (line ++ '\n' :: rest) = (line ++ ['\n']) :: splitInclusive rest := by
  induction line with
  | nil => simp [splitInclusive]
  | cons c line ih =>
    have hc : c ≠ '\n' := fun hc => h (by simp [hc])
    have hl := ih fun hm => h (by simp [hm])
    simp [splitInclusive, hc, hl]

lemma stripLineEnd_append (h : '\r' ∉ line) : stripLineEnd (line ++ ['\n']) = line := by
  rw [stripLineEnd, List.reverse_append, List.reverse_singleton, List.singleton_append]
  split
  case h_1 rest heq =>
    have hm : '\r' ∈ line.reverse := by
      rw [List.cons.injEq] at heq
      simp [heq.2]
    exact absurd (List.mem_reverse.mp hm) h
  case h_2 rest _ heq =>
    rw [List.cons.injEq] at heq
    rw [← heq.2, List.reverse_reverse]
  case h_3 _ hne => exact absurd rfl (hne line.reverse)

/-- Lines that are put out one after the other are the lines of the text. -/
lemma lines_join (h : ∀ text ∈ texts, ∀ c ∈ text.toList, isControl c = false) :
    lines (String.join (texts.map (· ++ "\n"))) = texts := by
  rw [lines, String.toList_join]
  induction texts with
  | nil => rfl
  | cons text texts ih =>
    have hno : ∀ c : Char, isControl c = true → c ∉ text.toList := by
      intro c hc hm
      rw [h text List.mem_cons_self c hm] at hc
      exact Bool.noConfusion hc
    have hr := ih fun other hm => h other (List.mem_cons_of_mem _ hm)
    have hn : "\n".toList = ['\n'] := rfl
    rw [List.map_cons, List.flatMap_cons, String.toList_append, hn, List.append_assoc,
      List.singleton_append, splitInclusive_append (hno _ (by decide)), List.map_cons,
      stripLineEnd_append (hno _ (by decide)), hr, String.ofList_toList]

end Todex
