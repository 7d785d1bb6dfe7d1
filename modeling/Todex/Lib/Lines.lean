import Todex.Lib.Bytes

/-!
# Lines of a file

A file of records is cut behind every newline. The last line may lack its newline.
-/

namespace Bytes

/-- The lines of a file, each with its newline. -/
def cutLines : Bytes → List Bytes
  | [] => []
  | b :: l =>
    if b = newline then [newline] :: cutLines l
    else
      match cutLines l with
      | [] => [[b]]
      | line :: lines => (b :: line) :: lines

@[simp] lemma cutLines_nil : cutLines [] = [] := rfl

lemma cutLines_append_newline (h : newline ∉ l) (rest : Bytes) :
    cutLines (l ++ newline :: rest) = (l ++ [newline]) :: cutLines rest := by
  induction l with
  | nil => simp [cutLines]
  | cons b l ih =>
    have hb : b ≠ newline := fun hb => h (by simp [hb])
    have hl := ih fun hl => h (by simp [hl])
    simp [cutLines, hb, hl]

/-- A file without a newline is one line. -/
lemma cutLines_of_notMem (h : newline ∉ l) (hne : l ≠ []) : cutLines l = [l] := by
  induction l with
  | nil => exact absurd rfl hne
  | cons b l ih =>
    have hb : b ≠ newline := fun hb => h (by simp [hb])
    cases l with
    | nil => simp [cutLines, hb]
    | cons c l =>
      have hl := ih (fun hl => h (List.mem_cons_of_mem b hl)) (by simp)
      rw [cutLines, if_neg hb, hl]

/-- The lines make up the file. -/
lemma flatten_cutLines (b : Bytes) : (cutLines b).flatten = b := by
  induction b with
  | nil => rfl
  | cons x l ih =>
    rw [cutLines]
    split_ifs with hx
    · rw [List.flatten_cons, ih, hx, List.singleton_append]
    · cases hl : cutLines l with
      | nil => rw [hl] at ih; simp [← ih]
      | cons line lines => rw [hl] at ih; simp [← ih]

/-- The lines that a newline ends, without it. -/
def terminatedLines (b : Bytes) : List Bytes :=
  (cutLines b).filterMap fun line =>
    if line.getLast? = some newline then some line.dropLast else none

lemma terminatedLines_flatMap (h : ∀ item ∈ items, newline ∉ item) :
    terminatedLines (items.flatMap (· ++ [newline])) = items := by
  induction items with
  | nil => rfl
  | cons item items ih =>
    have hit := ih fun i hi => h i (by simp [hi])
    rw [terminatedLines] at hit ⊢
    rw [List.flatMap_cons, List.append_assoc, List.singleton_append,
      cutLines_append_newline (h item (by simp)), List.filterMap_cons, hit]
    simp

/-- A line without its newline. -/
def chomp (line : Bytes) : Bytes :=
  if line.getLast? = some newline then line.dropLast else line

/-- Lines without their newline, each with its offset from `start`. -/
def numberLines (start : Nat) : List Bytes → List (Nat × Bytes)
  | [] => []
  | line :: rest => (start, chomp line) :: numberLines (start + line.length) rest

/-- The lines of a file without their newline, each with its offset. -/
def lines (b : Bytes) : List (Nat × Bytes) := numberLines 0 (cutLines b)

/-- The bytes of a range. -/
def slice (b : Bytes) (start stop : Nat) : Bytes := (b.drop start).take (stop - start)

/-- `u8::is_ascii_whitespace`. -/
def isSpace (b : UInt8) : Bool := b = 32 ∨ b = 9 ∨ b = 10 ∨ b = 12 ∨ b = 13

/-- Drop white space at both ends. -/
def trimAscii (b : Bytes) : Bytes := (b.dropWhile isSpace).rdropWhile isSpace

/-! ### Lines that are not blank -/

/-- Empty, or its last line has its newline. -/
def Terminated (b : Bytes) : Prop := b = [] ∨ b.getLast? = some newline

lemma terminated_nil : Terminated [] := .inl rfl

lemma terminated_append_newline (b : Bytes) : Terminated (b ++ [newline]) := .inr (by simp)

lemma Terminated.append (hb : Terminated b) (hc : Terminated c) : Terminated (b ++ c) := by
  rcases hc with rfl | hc
  · rwa [List.append_nil]
  · exact .inr (by rw [List.getLast?_append, hc, Option.some_or])

/-- What is left of a terminated file behind some bytes is terminated. -/
lemma Terminated.drop (hb : Terminated b) (n : Nat) : Terminated (b.drop n) := by
  by_cases hn : n < b.length
  · rcases hb with rfl | hb
    · exact .inl (by simp)
    · exact .inr (by rw [List.getLast?_drop, if_neg (by omega), hb])
  · exact .inl (List.drop_eq_nil_of_le (by omega))

/-- Lines behind a terminated file are lines of their own. -/
lemma cutLines_append (hb : Terminated b) (c : Bytes) : cutLines (b ++ c) = cutLines b ++ cutLines c := by
  induction b with
  | nil => rfl
  | cons x l ih =>
    rcases hb with hb | hlast
    · cases hb
    · rw [List.cons_append, cutLines, cutLines]
      by_cases hl : l = []
      · subst hl
        rw [List.getLast?_singleton, Option.some.injEq] at hlast
        simp [hlast]
      · have hcut : cutLines (l ++ c) = cutLines l ++ cutLines c := by
          refine ih (.inr ?_)
          rwa [List.getLast?_cons_of_ne_nil hl] at hlast
        have hne : cutLines l ≠ [] := by
          intro hnil
          exact hl (by rw [← flatten_cutLines l, hnil, List.flatten_nil])
        obtain ⟨line, lines, hli⟩ := List.exists_cons_of_ne_nil hne
        rw [hcut, hli]
        split_ifs <;> rfl

/-- All lines of a terminated file have their newline. -/
lemma Terminated.mem_of_mem_cutLines (hb : Terminated b) (h : line ∈ cutLines b) : newline ∈ line := by
  induction b generalizing line with
  | nil => cases h
  | cons x l ih =>
    have hl : Terminated l := hb.drop 1
    rw [cutLines] at h
    split_ifs at h with hx
    · rcases List.mem_cons.mp h with rfl | h
      · exact List.mem_cons_self
      · exact ih hl h
    · cases hcut : cutLines l with
      | nil =>
        obtain rfl : l = [] := by rw [← flatten_cutLines l, hcut, List.flatten_nil]
        rcases hb with hb | hb
        · cases hb
        · exact absurd (Option.some.inj hb) hx
      | cons first lines =>
        rw [hcut] at h ih
        rcases List.mem_cons.mp h with rfl | h
        · exact List.mem_cons_of_mem x (ih hl List.mem_cons_self)
        · exact ih hl (List.mem_cons_of_mem first h)

lemma terminatedLines_append (hb : Terminated b) (c : Bytes) :
    terminatedLines (b ++ c) = terminatedLines b ++ terminatedLines c := by
  rw [terminatedLines, cutLines_append hb, List.filterMap_append]
  rfl

/-- The last line stands behind a terminated part. -/
lemma exists_last_line (b : Bytes) : ∃ before line, b = before ++ line ∧ Terminated before ∧ newline ∉ line := by
  induction b with
  | nil => exact ⟨[], [], rfl, terminated_nil, by simp⟩
  | cons x l ih =>
    obtain ⟨before, line, rfl, hb, hline⟩ := ih
    rcases hb with rfl | hlast
    · by_cases hx : x = newline
      · exact ⟨[x], line, rfl, .inr (by simp [hx]), hline⟩
      · exact ⟨[], x :: line, rfl, terminated_nil, by simp [hline, Ne.symm hx]⟩
    · refine ⟨x :: before, line, rfl, .inr ?_, hline⟩
      rw [List.getLast?_cons, hlast]
      rfl

/-- The lines of a file that are not blank, without their newline. -/
def textLines (b : Bytes) : List Bytes := (b.cutLines.map chomp).filter (·.trimAscii ≠ [])

@[simp] lemma textLines_nil : textLines [] = [] := rfl

lemma map_snd_numberLines (start : Nat) (lines : List Bytes) :
    (numberLines start lines).map (·.2) = lines.map chomp := by
  induction lines generalizing start with
  | nil => rfl
  | cons line lines ih => rw [numberLines, List.map_cons, List.map_cons, ih]

lemma map_snd_lines (b : Bytes) : b.lines.map (·.2) = b.cutLines.map chomp :=
  map_snd_numberLines 0 _

lemma textLines_append (hb : Terminated b) (c : Bytes) : textLines (b ++ c) = textLines b ++ textLines c := by
  rw [textLines, cutLines_append hb, List.map_append, List.filter_append]
  rfl

lemma chomp_isPrefix (line : Bytes) : line.chomp <+: line := by
  rw [chomp]
  split_ifs
  · exact List.dropLast_prefix line
  · exact List.prefix_rfl

/-- A line of a text lies where its number says. -/
lemma slice_chomp (before line after : Bytes) :
    (before ++ (line ++ after)).slice before.length (before.length + line.chomp.length) = line.chomp := by
  obtain ⟨rest, hrest⟩ := chomp_isPrefix line
  have hline : line ++ after = line.chomp ++ (rest ++ after) := by
    rw [← List.append_assoc, hrest]
  rw [slice, List.drop_left, Nat.add_sub_cancel_left, hline]
  exact List.take_left

@[simp] lemma chomp_append_newline (line : Bytes) : chomp (line ++ [newline]) = line := by
  simp [chomp]

lemma chomp_of_notMem (h : newline ∉ line) : chomp line = line := by
  rw [chomp, if_neg]
  exact fun hlast => h (List.mem_of_getLast? hlast)

/-- A line of its own, with or without its newline. -/
lemma map_chomp_cutLines (h : newline ∉ line) (hne : line ≠ []) :
    (cutLines line).map chomp = [line] ∧ (cutLines (line ++ [newline])).map chomp = [line] := by
  constructor
  · rw [cutLines_of_notMem h hne, List.map_singleton, chomp_of_notMem h]
  · rw [cutLines_append_newline h, List.map_cons, chomp_append_newline]
    rfl

/-- A newline at the end adds no line that is not blank. -/
lemma textLines_append_newline (b : Bytes) : textLines (b ++ [newline]) = textLines b := by
  obtain ⟨before, line, rfl, hb, hline⟩ := exists_last_line b
  rw [List.append_assoc, textLines_append hb, textLines_append hb]
  congr 1
  by_cases hne : line = []
  · subst hne
    decide
  · obtain ⟨hopen, hc⟩ := map_chomp_cutLines hline hne
    rw [textLines, textLines, hopen, hc]

lemma textLines_flatMap (h : ∀ item ∈ items, newline ∉ item ∧ item.trimAscii ≠ []) :
    textLines (items.flatMap (· ++ [newline])) = items := by
  induction items with
  | nil => rfl
  | cons item items ih =>
    obtain ⟨⟨hn, htext⟩, hi⟩ := List.forall_mem_cons.mp h
    rw [List.flatMap_cons, textLines_append (terminated_append_newline item), ih hi, textLines,
      cutLines_append_newline hn]
    simp [htext]

end Bytes
