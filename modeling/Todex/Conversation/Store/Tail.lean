import Todex.Conversation.RecordSplit
import Todex.Conversation.Store.Append

/-!
# The end of the journal

An append numbers its records after the newest one it reads. What it reads is the record of the last
line, if that line is not longer than lines may be.
-/

namespace Todex

variable {P : Primitives}

/-! ### Record lines -/

lemma exists_printMembers (m : List (String × Json)) : ∃ l, Json.printMembers m = l ++ ['\x7d'] := by
  induction m with
  | nil => exact ⟨[], rfl⟩
  | cons e m ih =>
    obtain ⟨k, v⟩ := e
    obtain ⟨l, hl⟩ := ih
    exact ⟨',' :: (Json.printString k ++ ':' :: (v.print ++ l)), by simp [Json.printMembers, hl]⟩

lemma trimAscii_toVec_object (hm : m ≠ []) : (toVec (.object m)).trimAscii = toVec (.object m) := by
  obtain ⟨⟨k, v⟩, m, rfl⟩ := List.exists_cons_of_ne_nil hm
  obtain ⟨l, hl⟩ := exists_printMembers m
  obtain ⟨b, hb⟩ : ∃ b, toVec (.object ((k, v) :: m)) = 123 :: (b ++ [125]) := by
    refine ⟨Bytes.ofChars (Json.printString k ++ ':' :: (v.print ++ l)), ?_⟩
    have hp : (Json.object ((k, v) :: m)).print =
        ['\x7b'] ++ ((Json.printString k ++ ':' :: (v.print ++ l)) ++ ['\x7d']) := by
      simp [Json.print, hl]
    rw [toVec, hp, Bytes.ofChars_append, Bytes.ofChars_append]
    rfl
  rw [hb, Bytes.trimAscii, List.dropWhile_cons_of_neg (by decide), ← List.cons_append,
    List.rdropWhile_concat_neg _ _ _ (by decide)]

lemma exists_encodeRecord (event : ConversationEvent) :
    ∃ content encrypted, encodeRecord event = toVec (recordOut event content encrypted) := by
  rw [encodeRecord]
  cases encryptedMember event.payload with
  | none => exact ⟨_, _, rfl⟩
  | some encrypted => exact ⟨_, _, rfl⟩

@[simp] lemma trimAscii_encodeRecord (event : ConversationEvent) :
    (encodeRecord event).trimAscii = encodeRecord event := by
  obtain ⟨content, encrypted, h⟩ := exists_encodeRecord event
  rw [h]
  refine trimAscii_toVec_object ?_
  simp [recordFields]

lemma encodeRecord_ne_nil (event : ConversationEvent) : encodeRecord event ≠ [] := by
  obtain ⟨content, encrypted, h⟩ := exists_encodeRecord event
  intro hn
  have hs := isPrefixOf_recordOut event content encrypted
  rw [← h, hn] at hs
  exact absurd hs (by decide)

variable {conversationId : String} {event : ConversationEvent}

lemma sequence_of_intoEvent {record : RecordIn}
    (h : record.intoEvent conversationId content = some event) : event.sequence = record.s := by
  simp only [RecordIn.intoEvent, Option.bind_eq_bind, Option.bind_eq_some_iff, Option.pure_def, Option.some.injEq] at h
  obtain ⟨-, -, -, -, rfl⟩ := h
  rfl

/-- A record that reads back has the sequence it was written with. -/
lemma sequence_of_decode_encodeRecord {decoded : ConversationEvent}
    (h : decodeJournalRecord P (encodeRecord event) conversationId = some decoded) :
    decoded.sequence = event.sequence := by
  obtain ⟨content, encrypted, hl⟩ := exists_encodeRecord event
  rw [hl, decodeJournalRecord, if_pos (isPrefixOf_recordOut ..), parseRecord, recordOut,
    lineMembers_toVec, Option.bind_some] at h
  obtain ⟨record, hr, he⟩ := Option.bind_eq_some_iff.mp h
  rw [sequence_of_intoEvent he]
  simp only [RecordIn.ofMembers, Option.bind_eq_bind, Option.bind_eq_some_iff] at hr
  obtain ⟨sequence, hs, hr⟩ := hr
  rw [requiredField_wireMembers (nodup_recordFields ..)] at hs
  have hv : readU64 (.nat event.sequence) = some sequence := hs
  simp only [Option.pure_def, Option.some.injEq] at hr
  obtain ⟨-, -, -, -, -, -, -, -, -, -, -, -, -, -, -, -, -, -, -, -, rfl⟩ := hr
  exact Json.Number.eq_of_asU64_ofNat hv

/-! ### The last line of a file -/

/-- The file ends with the line `line`, with or without its newline. -/
def EndsWithLine (bytes line : Bytes) : Prop :=
  Bytes.newline ∉ line ∧ line.trimAscii ≠ [] ∧ ∃ before, Bytes.Terminated before ∧
    (bytes = before ++ line ∨ bytes = before ++ (line ++ [Bytes.newline]))

variable {bytes line : Bytes}

lemma EndsWithLine.ne_nil (h : EndsWithLine bytes line) : bytes ≠ [] := by
  obtain ⟨-, ht, before, -, rfl | rfl⟩ := h
  · intro hn
    rw [(List.append_eq_nil_iff.mp hn).2] at ht
    exact ht rfl
  · simp

lemma EndsWithLine.append_newline (h : EndsWithLine bytes line)
    (ho : bytes.getLast? ≠ some Bytes.newline) : EndsWithLine (bytes ++ [Bytes.newline]) line := by
  obtain ⟨hn, ht, before, hb, rfl | rfl⟩ := h
  · exact ⟨hn, ht, before, hb, .inr (List.append_assoc ..)⟩
  · exact absurd (by simp) ho

lemma EndsWithLine.find? (h : EndsWithLine bytes line) :
    (bytes.lines.map (·.2.trimAscii)).reverse.find? (· ≠ []) = some line.trimAscii := by
  obtain ⟨hn, ht, before, hb, hby⟩ := h
  have hne : line ≠ [] := fun hni => ht (by rw [hni]; rfl)
  have hl : bytes.lines.map (·.2) = before.cutLines.map Bytes.chomp ++ [line] := by
    obtain ⟨ho, hc⟩ := Bytes.map_chomp_cutLines hn hne
    rw [Bytes.map_snd_lines]
    rcases hby with rfl | rfl
    · rw [Bytes.cutLines_append hb, List.map_append, ho]
    · rw [Bytes.cutLines_append hb, List.map_append, hc]
  rw [← Function.comp_def Bytes.trimAscii, ← List.map_map, hl, List.map_append,
    List.map_singleton, List.reverse_append, List.reverse_singleton, List.singleton_append,
    List.find?_cons_of_pos (by simpa using ht)]

lemma EndsWithLine.tailWindow (h : EndsWithLine bytes line) (hl : line.length + 2 ≤ maxRecordLineBytes) :
    ∃ raw, tailWindow bytes = .ok raw ∧ EndsWithLine raw line := by
  obtain ⟨hn, hte, before, hb, hby⟩ := h
  obtain ⟨rest, hr, hrl⟩ : ∃ rest, bytes = before ++ rest ∧
      rest.length + 1 ≤ maxRecordLineBytes ∧ (rest = line ∨ rest = line ++ [Bytes.newline]) := by
    rcases hby with rfl | rfl
    · exact ⟨line, rfl, by omega, .inl rfl⟩
    · exact ⟨_, rfl, by rw [List.length_append, List.length_singleton]; omega, .inr rfl⟩
  obtain ⟨hrl, hli⟩ := hrl
  have he (part : Bytes) (hp : Bytes.Terminated part) : EndsWithLine (part ++ rest) line := by
    refine ⟨hn, hte, part, hp, ?_⟩
    rcases hli with rfl | rfl
    · exact .inl rfl
    · exact .inr rfl
  by_cases hw : min maxRecordLineBytes bytes.length < bytes.length
  · -- the window starts inside the lines before: it is cut behind their first newline
    have hmi : min maxRecordLineBytes bytes.length = maxRecordLineBytes := by omega
    set part := before.drop (bytes.length - maxRecordLineBytes) with hp
    have hra : bytes.drop (bytes.length - maxRecordLineBytes) = part ++ rest := by
      rw [hp, ← List.drop_append_of_le_length]
      · rw [← hr]
      · rw [hr, List.length_append] at hw ⊢
        omega
    have ht : Bytes.Terminated part := hb.drop _
    have hne : part ≠ [] := by
      refine List.ne_nil_of_length_pos ?_
      rw [hp, List.length_drop, hr, List.length_append]
      rw [hr, List.length_append] at hw
      omega
    have hm : Bytes.newline ∈ part := by
      rcases ht with hni | hla
      · exact absurd hni hne
      · exact List.mem_of_getLast? hla
    refine ⟨part.drop (part.idxOf Bytes.newline + 1) ++ rest, ?_, he _ (ht.drop _)⟩
    dsimp only [Todex.tailWindow]
    rw [if_pos hw, hmi, hra, if_pos (List.mem_append_left rest hm), List.idxOf_append_of_mem hm,
      List.drop_append_of_le_length (List.idxOf_lt_length_of_mem hm)]
  · have hmi : min maxRecordLineBytes bytes.length = bytes.length := by omega
    refine ⟨bytes, ?_, hr ▸ he before hb⟩
    dsimp only [Todex.tailWindow]
    rw [if_neg hw, hmi, Nat.sub_self, List.drop_zero]

/-- What is read as the newest record is the record of the last line. -/
lemma EndsWithLine.readPlainTail (h : EndsWithLine bytes line)
    (hl : line.length + 2 ≤ maxRecordLineBytes) (hr : readPlainTail P conversationId bytes = .ok newest) :
    ∃ event, newest = some event ∧ decodeJournalRecord P line.trimAscii conversationId = some event := by
  obtain ⟨raw, hra, hen⟩ := h.tailWindow hl
  rw [Todex.readPlainTail, hra, ok_bind, hen.find?] at hr
  dsimp only at hr
  split at hr
  · cases hr
  · next event he =>
    split_ifs at hr
    cases hr
    exact ⟨event, rfl, he⟩

/-! ### The end of the journal -/

/-- What a reader of the journal reads from: a sealed segment, or a line that is not blank. -/
inductive JournalItem
  | sealed (index : LoadedIndex) (bytes : Bytes)
  | line (bytes : Bytes)

def NumberedFile.items : NumberedFile → List JournalItem
  | .segment index bytes => [.sealed index bytes]
  | .plain bytes => bytes.textLines.map .line

/-- The line of a record. -/
def recordLine (event : ConversationEvent) : JournalItem := .line (encodeRecord event)

namespace Journal

/-- All a journal holds. -/
def items (self : Journal) : List JournalItem :=
  self.numbered.flatMap NumberedFile.items ++ (self.active.getD []).textLines.map .line

/-- The last file that is not empty ends with a newline, if it is plaintext. -/
def Closed (self : Journal) : Prop :=
  ∀ bytes, self.lastFile = some (.plain bytes) → bytes.getLast? = some Bytes.newline

end Journal

/-- If the newest record of this last file can be read, it has sequence `n`. -/
def LastRecord (P : Primitives) (conversationId : String) (n : Nat) : Option NumberedFile → Prop
  | none => n = 0
  | some (.segment index _) => ∀ segment, index = .loaded segment → segment.last = n
  | some (.plain bytes) => ∃ line, EndsWithLine bytes line ∧
      line.length + 2 ≤ maxRecordLineBytes ∧
      ∀ event, decodeJournalRecord P line.trimAscii conversationId = some event →
        event.sequence = n

/-- The journal ends at sequence `n`, in its last file and in its cache. -/
structure Journal.EndsAt (P : Primitives) (conversationId : String) (journal : Journal) (n : Nat) :
    Prop where
  file : LastRecord P conversationId n journal.lastFile
  tail : ∀ event, journal.tail = some event → event.sequence = n ∧ journal.Closed

lemma Journal.lastFile_of_active {journal : Journal} (h : journal.active = some bytes) (hne : bytes ≠ []) :
    journal.lastFile = some (.plain bytes) := by
  rw [Journal.lastFile, h, Option.filter_some, if_pos (by simpa using hne)]

lemma Journal.lastFile_of_active_nil {journal : Journal} (h : journal.active.getD [] = []) :
    journal.lastFile = (journal.numbered.filter (·.bytes ≠ [])).getLast? := by
  have hn : journal.active.filter (· ≠ []) = none := by
    cases ha : journal.active with
    | none => rfl
    | some bytes => rw [ha, Option.getD_some] at h; simp [h]
  rw [Journal.lastFile, hn]

lemma SegmentReader.sequence_of_record {self : SegmentReader} {sequence : Nat} {summary : Bool}
    {record : SegmentRecord} (h : self.record P sequence summary = .ok record) : record.event.sequence = sequence := by
  rw [SegmentReader.record] at h
  obtain ⟨entry, -, h⟩ := Except.bind_eq_ok.mp h
  obtain ⟨envelope, -, h⟩ := Except.bind_eq_ok.mp h
  obtain ⟨parsed, -, h⟩ := Except.bind_eq_ok.mp h
  dsimp only at h
  split_ifs at h with hh
  · obtain ⟨_, her, -⟩ := Except.bind_eq_ok.mp h
    cases her
  · obtain ⟨⟨payload, contentBytes, frame⟩, -, h⟩ := Except.bind_eq_ok.mp h
    obtain ⟨event, he, h⟩ := Except.bind_eq_ok.mp h
    cases h
    unfold orInvalid at he
    split at he
    · next event' hi =>
      cases he
      exact (sequence_of_intoEvent hi).trans (not_not.mp hh)
    · cases he

lemma sequence_of_readSegmentTail {index : LoadedIndex} (h : readSegmentTail P conversationId index bytes = .ok event) :
    ∃ segment, index = .loaded segment ∧ event.sequence = segment.last := by
  cases index with
  | unusable => cases h
  | failed => cases h
  | loaded segment =>
    refine ⟨segment, rfl, ?_⟩
    dsimp only [readSegmentTail] at h
    split at h
    · next event' bytes' hre =>
      cases h
      obtain ⟨record, hr, he⟩ := Except.bind_eq_ok.mp hre
      cases he
      exact SegmentReader.sequence_of_record hr
    · cases h

lemma terminateLast_spec (h : (files.filter (·.bytes ≠ [])).getLast? = some (.plain bytes)) :
    ((terminateLast files).filter (·.bytes ≠ [])).getLast? = some (.plain (bytes ++ [Bytes.newline])) ∧
      (terminateLast files).flatMap NumberedFile.items = files.flatMap NumberedFile.items := by
  induction files with
  | nil => cases h
  | cons file files ih =>
    unfold terminateLast
    split_ifs with ha
    · have hne : files.filter (·.bytes ≠ []) ≠ [] := by
        simpa [List.filter_eq_nil_iff] using ha
      have hla : (files.filter (·.bytes ≠ [])).getLast? = some (.plain bytes) := by
        rw [List.filter_cons] at h
        split_ifs at h
        · rwa [List.getLast?_cons_of_ne_nil hne] at h
        · exact h
      obtain ⟨hf, hl⟩ := ih hla
      refine ⟨?_, by rw [List.flatMap_cons, List.flatMap_cons, hl]⟩
      have hne' : (terminateLast files).filter (·.bytes ≠ []) ≠ [] := by
        intro hn
        rw [hn] at hf
        cases hf
      rw [List.filter_cons]
      split_ifs
      · rw [List.getLast?_cons_of_ne_nil hne', hf]
      · exact hf
    · have hn : files.filter (·.bytes ≠ []) = [] := by
        simpa [List.filter_eq_nil_iff] using ha
      rw [List.filter_cons, hn] at h
      split_ifs at h with hfi
      · rw [List.getLast?_singleton] at h
        cases h
        refine ⟨?_, ?_⟩
        · rw [List.filter_cons_of_pos (by simp [NumberedFile.bytes]), hn, List.getLast?_singleton]
        · simp [NumberedFile.items, Bytes.textLines_append_newline]
      · cases h

/-! ### Changes that append nothing -/

/-- The journal holds these items and ends at `n`. -/
structure Journal.Holds (P : Primitives) (conversationId : String) (items : List JournalItem)
    (n : Nat) (journal : Journal) : Prop where
  items : journal.items = items
  ends : journal.EndsAt P conversationId n

section Holds

variable {conversationId : String} {items : List JournalItem} {n : Nat} {journal : Journal}
  (h : journal.Holds P conversationId items n)

include h

lemma Journal.Holds.evict : Journal.Holds P conversationId items n { journal with tail := none } :=
  ⟨h.items, h.ends.file, fun _ ht => by cases ht⟩

lemma Journal.Holds.lastRecord_append_newline (hla : journal.lastFile = some (.plain bytes)) (hop : ¬ journal.Closed) :
    LastRecord P conversationId n (some (.plain (bytes ++ [Bytes.newline]))) := by
  have hf := h.ends.file
  rw [hla] at hf
  obtain ⟨line, he, hl, hd⟩ := hf
  refine ⟨line, he.append_newline fun hn => hop ?_, hl, hd⟩
  intro other ho
  rw [hla] at ho
  cases ho
  exact hn

/-- The newline of a torn last line of the active file changes nothing. -/
lemma Journal.Holds.closeActive (ha : journal.active.getD [] ≠ []) (hop : ¬ journal.Closed) :
    (closeActive journal).Holds P conversationId items n ∧ (Todex.closeActive journal).Closed := by
  obtain ⟨bytes, hb, hne⟩ : ∃ bytes, journal.active = some bytes ∧ bytes ≠ [] := by
    cases hb : journal.active with
    | none => rw [hb] at ha; exact absurd rfl ha
    | some bytes => rw [hb] at ha; exact ⟨bytes, rfl, ha⟩
  have hc : (Todex.closeActive journal).lastFile =
      some (.plain (bytes ++ [Bytes.newline])) := by
    refine Journal.lastFile_of_active ?_ (by simp)
    rw [Todex.closeActive, hb, Option.getD_some]
  refine ⟨⟨?_, ?_, fun _ ht => by cases ht⟩, fun other ho => ?_⟩
  · rw [← h.items, Journal.items, Journal.items, Todex.closeActive, Option.getD_some, Bytes.textLines_append_newline]
  · rw [hc]
    exact h.lastRecord_append_newline (Journal.lastFile_of_active hb hne) hop
  · rw [hc] at ho
    cases ho
    simp

/-- The newline of a torn last line of a numbered file changes nothing. -/
lemma Journal.Holds.closeLast (ha : journal.active.getD [] = [])
    (hl : journal.lastFile = some (.plain bytes)) (hop : ¬ journal.Closed) :
    (closeLast journal).Holds P conversationId items n ∧ (Todex.closeLast journal).Closed := by
  have hr := h.lastRecord_append_newline hl hop
  rw [Journal.lastFile_of_active_nil ha] at hl
  obtain ⟨hl', hi⟩ := terminateLast_spec hl
  have hc : (Todex.closeLast journal).lastFile =
      some (.plain (bytes ++ [Bytes.newline])) := by
    rw [Journal.lastFile_of_active_nil (show (Todex.closeLast _).active.getD [] = [] from ha)]
    exact hl'
  refine ⟨⟨?_, ?_, fun _ ht => by cases ht⟩, fun other ho => ?_⟩
  · rw [← h.items, Journal.items, Journal.items]
    exact congrArg (· ++ _) hi
  · rwa [hc]
  · rw [hc] at ho
    cases ho
    simp

lemma Journal.Holds.renameActive (fresh : Bool) (hc : journal.Closed) :
    (renameActive fresh journal).Holds P conversationId items n ∧ (Todex.renameActive fresh journal).Closed := by
  have hn : (Todex.renameActive fresh journal).active.getD [] = [] := by
    cases fresh <;> rfl
  have hl : (Todex.renameActive fresh journal).lastFile = journal.lastFile := by
    rw [Journal.lastFile_of_active_nil hn, Todex.renameActive, List.filter_append]
    by_cases ha : journal.active.getD [] = []
    · rw [Journal.lastFile_of_active_nil ha]
      simp [NumberedFile.bytes, ha]
    · obtain ⟨bytes, hb⟩ : ∃ bytes, journal.active = some bytes :=
        Option.ne_none_iff_exists'.mp fun h => ha (by rw [h]; rfl)
      rw [hb, Option.getD_some] at ha ⊢
      rw [Journal.lastFile_of_active hb ha]
      simp [NumberedFile.bytes, ha]
  refine ⟨⟨?_, hl ▸ h.ends.file, fun _ ht => by cases ht⟩, ?_⟩
  · rw [← h.items, Journal.items, Journal.items, hn]
    simp [Todex.renameActive, NumberedFile.items]
  · intro bytes hb
    rw [hl] at hb
    exact hc bytes hb

lemma Journal.Holds.create : Journal.Holds P conversationId items n
      { journal with active := some (journal.active.getD []) } := by
  obtain ⟨numbered, active, tail⟩ := journal
  cases active with
  | none => exact ⟨h.items, h.ends.file, h.ends.tail⟩
  | some bytes => exact h

end Holds

/-! ### Lines behind the journal -/

lemma textLines_records (events : List ConversationEvent) :
    Bytes.textLines (events.flatMap fun event => encodeRecord event ++ [Bytes.newline]) = events.map encodeRecord := by
  have h := @Bytes.textLines_flatMap (events.map encodeRecord) (by
    intro item hi
    obtain ⟨event, -, rfl⟩ := List.mem_map.mp hi
    exact ⟨newline_notMem_encodeRecord event, by simpa using encodeRecord_ne_nil event⟩)
  rwa [List.flatMap_map] at h

lemma terminated_records (events : List ConversationEvent) :
    Bytes.Terminated (events.flatMap fun event => encodeRecord event ++ [Bytes.newline]) := by
  induction events with
  | nil => exact Bytes.terminated_nil
  | cons event events ih =>
    rw [List.flatMap_cons]
    exact (Bytes.terminated_append_newline _).append ih

/-- What a write of records makes of an active file: whole lines behind the lines that were there. -/
lemma Journal.Holds.commit {items : List JournalItem} {n : Nat}
    {journal : Journal} (h : journal.Holds P conversationId items n) {terminated : Bool}
    (ht : terminated = true ↔ journal.Closed) (events : List ConversationEvent) : ∃ before, Bytes.Terminated before ∧
      journal.active.getD [] ++ journalLines (!terminated && journal.active.any (· ≠ [])) events =
        before ++ events.flatMap (fun event => encodeRecord event ++ [Bytes.newline]) ∧
      Journal.Holds P conversationId items n { journal with active := some before } := by
  rw [journalLines, ← List.append_assoc]
  by_cases ha : journal.active.getD [] = []
  · have hs : (!terminated && journal.active.any (· ≠ [])) = false := by
      cases hb : journal.active with
      | none => simp
      | some bytes => rw [hb, Option.getD_some] at ha; simp [ha]
    refine ⟨journal.active.getD [], .inl ha, by rw [hs]; simp, h.create⟩
  · obtain ⟨bytes, hb⟩ : ∃ bytes, journal.active = some bytes :=
      Option.ne_none_iff_exists'.mp fun h => ha (by rw [h]; rfl)
    cases terminated with
    | true =>
      refine ⟨journal.active.getD [], .inr ?_, by simp, h.create⟩
      rw [hb, Option.getD_some] at ha ⊢
      exact ht.mp rfl bytes (Journal.lastFile_of_active hb ha)
    | false =>
      have ho : ¬ journal.Closed := by simpa using ht
      have hta : journal.tail = none := by
        cases hta : journal.tail with
        | none => rfl
        | some event => exact absurd (h.ends.tail event hta).2 ho
      refine ⟨journal.active.getD [] ++ [Bytes.newline], Bytes.terminated_append_newline _, ?_, ?_⟩
      · rw [hb, Option.getD_some] at ha ⊢
        simp [ha]
      · have hc := (h.closeActive ha ho).1
        rwa [Todex.closeActive, ← hta] at hc

end Todex
