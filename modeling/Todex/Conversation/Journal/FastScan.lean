import Todex.Conversation.Journal.Clean
import Todex.Conversation.Segment.Index

/-!
# The fast scan agrees with the validating scan

The fast scan takes every line of a file for a record and decodes only the first and the last. It
declines files with blank lines, because the sequence of the last record is then too small.
-/

namespace Todex

variable {P : Primitives} {conversationId : String}

/-! ### Lines and their offsets -/

lemma decodeJournalRecord_nil : decodeJournalRecord P [] conversationId = none := by
  rfl

/-- Records that read back at the offsets of lines are consecutive, and no line is blank. -/
lemma consecutive_of_readPlainRecords (before : Bytes) (lines : List Bytes)
    (h : (readPlainRecords P conversationId (before ++ lines.flatten) first
      ((Bytes.numberLines before.length lines).map lineOffsets)).isSome) :
    Consecutive P conversationId first (Bytes.numberLines before.length lines) ∧
      ∀ line ∈ Bytes.numberLines before.length lines, holdsRecord line = true := by
  induction lines generalizing before first with
  | nil => exact ⟨trivial, by simp [Bytes.numberLines]⟩
  | cons line lines ih =>
    rw [Bytes.numberLines, List.map_cons, List.flatten_cons] at h
    rw [lineOffsets, readPlainRecords, Bytes.slice_chomp] at h
    rw [← List.append_assoc, ← List.length_append] at h
    cases hd : decodeJournalRecord P line.chomp.trimAscii conversationId with
    | none =>
      rw [hd] at h
      cases h
    | some event =>
      rw [hd, Option.bind_eq_bind, Option.bind_some] at h
      split_ifs at h with hv
      · have hrest : (readPlainRecords P conversationId (before ++ line ++ lines.flatten) (first + 1)
            ((Bytes.numberLines (before ++ line).length lines).map lineOffsets)).isSome := by
          cases hread : readPlainRecords P conversationId (before ++ line ++ lines.flatten)
            (first + 1) ((Bytes.numberLines (before ++ line).length lines).map lineOffsets) with
          | none =>
            rw [hread] at h
            cases h
          | some events => rfl
        have hline : holdsRecord (before.length, line.chomp) = true := by
          simp only [holdsRecord, decide_eq_true_eq]
          intro hnil
          rw [hnil, decodeJournalRecord_nil] at hd
          cases hd
        obtain ⟨hc, hl⟩ := ih _ hrest
        rw [List.length_append] at hc hl
        rw [Bytes.numberLines]
        constructor
        · exact (consecutive_cons_of_holds hline).mpr ⟨⟨event, hd, hv⟩, hc⟩
        · rintro other (_ | ⟨_, ho⟩)
          · exact hline
          · exact hl other ho
      · cases h

/-- The last of consecutive lines holds the record before the next one. -/
lemma Consecutive.getLast {lines : List (Nat × Bytes)} (h : Consecutive P conversationId expected lines)
    (hlast : lines.getLast? = some line) (hline : holdsRecord line = true) :
    HoldsRecord P conversationId (expected + lines.countP holdsRecord - 1) line.2 := by
  induction lines generalizing expected with
  | nil => cases hlast
  | cons head lines ih =>
    cases lines with
    | nil =>
      rw [List.getLast?_singleton, Option.some.injEq] at hlast
      subst hlast
      rw [consecutive_cons_of_holds hline] at h
      rw [List.countP_cons_of_pos hline]
      exact h.1
    | cons next lines =>
      rw [List.getLast?_cons_cons] at hlast
      by_cases hhead : holdsRecord head = true
      · rw [consecutive_cons_of_holds hhead] at h
        have hrest := ih h.2 hlast
        rw [List.countP_cons_of_pos hhead]
        have hsum : expected + 1 + (next :: lines).countP holdsRecord - 1 =
            expected + ((next :: lines).countP holdsRecord + 1) - 1 := by omega
        rwa [hsum] at hrest
      · rw [consecutive_cons_of_blank hhead] at h
        rw [List.countP_cons_of_neg hhead]
        exact ih h hlast

/-! ### The fast scan -/

variable (P conversationId) in
/-- The records a replay index locates read back with the sequences it assigns to them. -/
def Readable (files : List JournalFile) (parts : List IndexPart) : Prop :=
  ∀ file first offsets, .plain file first offsets ∈ parts →
    ∀ content, files[file]? = some (.plain (some content)) →
      (readPlainRecords P conversationId content first offsets).isSome

variable (P conversationId) in
/-- A line that decodes as it stands has this sequence without white space around it, too. -/
def Trimmable (files : List JournalFile) : Prop :=
  ∀ content, .plain (some content) ∈ files → ∀ line ∈ content.lines, ∀ event,
    decodeJournalRecord P line.2 conversationId = some event →
    ∃ trimmed, decodeJournalRecord P line.2.trimAscii conversationId = some trimmed ∧
      trimmed.sequence = event.sequence

def AllTerminated (files : List JournalFile) : Prop :=
  ∀ bytes, .plain (some bytes) ∈ files → bytes ≠ [] → bytes.getLast? = some Bytes.newline

lemma filePart_of_forall {lines : List (Nat × Bytes)} (hne : lines ≠ [])
    (h : ∀ line ∈ lines, holdsRecord line = true) :
    filePart file expected lines = [.plain file expected (lines.map lineOffsets)] := by
  rw [filePart, List.filter_eq_self.mpr h]
  split
  · contradiction
  · rfl

lemma lines_ne_nil {bytes : Bytes} (h : bytes ≠ []) : bytes.lines ≠ [] := by
  intro hnil
  have hf := Bytes.flatten_cutLines bytes
  rw [Bytes.lines] at hnil
  cases hl : bytes.cutLines with
  | nil =>
    rw [hl] at hf
    exact h hf.symm
  | cons line lines =>
    rw [hl] at hnil
    cases hnil

section Fast

variable {state final : FastState} {position : Nat} {files all : List JournalFile}

/-- What the fast scan makes of a plaintext file it does not decline. -/
lemma fastFile_plain_eq_some {bytes : Bytes} (hne : bytes ≠ [])
    (h : fastFile P conversationId state position (.plain (some bytes)) = .ok (some final)) :
    bytes.getLast? = some Bytes.newline ∧
      (∃ line event, bytes.lines.getLast? = some line ∧
        decodeJournalRecord P line.2 conversationId = some event ∧
        event.sequence = state.expected + bytes.lines.length - 1) ∧
      final.parts = state.parts ++
        [.plain position state.expected (bytes.lines.map lineOffsets)] ∧
      final.expected = state.expected + bytes.lines.length := by
  rw [fastFile, if_neg hne] at h
  split at h
  · cases h
  · next hlast =>
    dsimp only at h
    split at h
    · next first last hf hr =>
      cases h
      obtain ⟨line, hline, hb⟩ := Option.bind_eq_some_iff.mp hr
      obtain ⟨hd, hv⟩ := Option.filter_eq_some_iff.mp hb
      refine ⟨not_not.mp hlast, ⟨line, last, hline, hd, ?_⟩, rfl, rfl⟩
      exact sequence_of_validateEvent (of_decide_eq_true hv)
    · cases h

/-- A journal the fast scan indexes is clean if its records read back. -/
lemma cleanJournal_of_fastFiles (hall : all.drop position = files)
    (h : fastFiles P conversationId state position files = .ok (some final)) :
    ∃ parts, final.parts = state.parts ++ parts ∧ AllTerminated files ∧
      (Readable P conversationId all parts → CleanJournal P conversationId position state.expected files parts) := by
  induction files generalizing state position with
  | nil =>
    cases h
    exact ⟨[], by simp, fun _ hmem => (nomatch hmem), fun _ => .nil _ _⟩
  | cons file files ih =>
    obtain ⟨next, hnext, h⟩ := Except.bind_eq_ok.mp h
    have hget : all[position]? = some file := by
      rw [← List.head?_drop, hall, List.head?_cons]
    have hdrop : all.drop (position + 1) = files := by
      rw [← List.drop_drop, hall, List.drop_one, List.tail_cons]
    cases next with
    | none => cases h
    | some next =>
      obtain ⟨parts, hp, ht, hc⟩ := ih hdrop h
      have hr (part : List IndexPart) (hread : Readable P conversationId all (part ++ parts)) :
          Readable P conversationId all parts :=
        fun other first offsets hmem => hread other first offsets (List.mem_append_right _ hmem)
      cases file with
      | segment index =>
        cases index with
        | failed => cases hnext
        | unusable => cases hnext
        | loaded segment =>
          rw [fastFile] at hnext
          split at hnext
          · next hf =>
            cases hnext
            refine ⟨.sealed segment :: parts, by simpa using hp, ?_, fun hread => ?_⟩
            · rintro bytes (_ | ⟨_, hmem⟩)
              exact ht bytes hmem
            · exact .segment hf (hc (hr [.sealed segment] hread))
          · cases hnext
      | plain content =>
        by_cases he : content.getD [] = []
        · -- a file that vanished or is empty adds nothing
          have hs : next = state ∧ fileLines content = [] := by
            cases content with
            | none =>
              cases hnext
              exact ⟨rfl, rfl⟩
            | some bytes =>
              rw [Option.getD_some] at he
              subst he
              cases hnext
              exact ⟨rfl, rfl⟩
          obtain ⟨rfl, hl⟩ := hs
          refine ⟨parts, hp, ?_, fun hread => ?_⟩
          · rintro bytes (_ | ⟨_, hmem⟩)
            · exact fun hne => absurd he hne
            · exact ht bytes hmem
          · have hpl := @CleanJournal.plain P conversationId position next.expected
              content files parts (by rw [hl]; trivial)
              (by rw [hl]; exact hc hread)
            rwa [hl] at hpl
        · cases content with
          | none => exact absurd rfl he
          | some bytes =>
            rw [Option.getD_some] at he
            obtain ⟨hlast, -, hpart, hex⟩ := fastFile_plain_eq_some he hnext
            refine ⟨.plain position state.expected (bytes.lines.map lineOffsets) :: parts,
              by rw [hp, hpart]; simp, ?_, fun hread => ?_⟩
            · rintro other (_ | ⟨_, hmem⟩)
              · exact fun _ => hlast
              · exact ht other hmem
            · have hsome := hread position state.expected (bytes.lines.map lineOffsets)
                List.mem_cons_self bytes hget
              have hl : bytes = [] ++ bytes.cutLines.flatten :=
                (Bytes.flatten_cutLines bytes).symm
              rw [hl] at hsome
              obtain ⟨hco, hre⟩ :=
                consecutive_of_readPlainRecords [] bytes.cutLines
                  (by simpa [Bytes.lines, Bytes.flatten_cutLines] using hsome)
              have hcn : bytes.lines.countP holdsRecord = bytes.lines.length :=
                List.countP_eq_length.mpr hre
              have hpl := @CleanJournal.plain P conversationId position state.expected
                (some bytes) files parts hco (by
                  rw [fileLines, Option.elim_some, hcn, ← hex]
                  exact hc (hr [_] hread))
              rwa [fileLines, Option.elim_some, filePart_of_forall (lines_ne_nil he) hre]
                at hpl

variable (state) in
/-- The fast scan of a clean journal declines or finds its parts. -/
lemma CleanJournal.fastFiles {expected : Nat}
    (h : CleanJournal P conversationId position expected files parts)
    (hex : state.expected = expected) (htrim : Trimmable P conversationId files) :
    fastFiles P conversationId state position files = .ok none ∨
      ∃ final, fastFiles P conversationId state position files = .ok (some final) ∧
        final.parts = state.parts ++ parts := by
  induction h generalizing state with
  | nil => exact .inr ⟨state, rfl, by simp⟩
  | segment hfi _ ih =>
    subst hex
    rw [Todex.fastFiles, fastFile, if_pos hfi, ok_bind]
    rcases ih { parts := _, expected := _, last := _ } rfl
      (fun content hmem => htrim content (List.mem_cons_of_mem _ hmem)) with hnone | ⟨final, hok, hp⟩
    · exact .inl hnone
    · exact .inr ⟨final, hok, by rw [hp]; simp⟩
  | @plain position expected content files parts hl _ ih =>
    subst hex
    have htrim' : Trimmable P conversationId files :=
      fun content hmem => htrim content (List.mem_cons_of_mem _ hmem)
    rw [Todex.fastFiles]
    by_cases he : content.getD [] = []
    · have hs : fastFile P conversationId state position (.plain content) = .ok (some state) ∧
          fileLines content = [] := by
        cases content with
        | none => exact ⟨rfl, rfl⟩
        | some bytes =>
          rw [Option.getD_some] at he
          subst he
          exact ⟨rfl, rfl⟩
      rw [hs.1, ok_bind, hs.2]
      exact ih state (by rw [hs.2]; rfl) htrim'
    · cases content with
      | none => exact absurd rfl he
      | some bytes =>
        rw [Option.getD_some] at he
        have hc : fastFile P conversationId state position (.plain (some bytes)) = .ok none ∨
            ∃ next, fastFile P conversationId state position (.plain (some bytes)) =
              .ok (some next) := by
          rw [fastFile, if_neg he]
          split_ifs
          · exact .inl rfl
          · dsimp only
            split
            · exact .inr ⟨_, rfl⟩
            · exact .inl rfl
        rcases hc with hnone | ⟨next, hnext⟩
        · rw [hnone]
          exact .inl rfl
        · rw [hnext, ok_bind]
          obtain ⟨-, ⟨line, event, hline, hd, hse⟩, hp, hex⟩ :=
            fastFile_plain_eq_some he hnext
          -- the last line says how many records there are, so none is blank
          obtain ⟨trimmed, ht, hsame⟩ := htrim bytes List.mem_cons_self line
            (List.mem_of_getLast? hline) event hd
          have hre : holdsRecord line = true := by
            simp only [holdsRecord, decide_eq_true_eq]
            intro hnil
            rw [hnil, decodeJournalRecord_nil] at ht
            cases ht
          obtain ⟨last, hlast, hv⟩ := Consecutive.getLast hl hline hre
          have hlast' : last = trimmed := Option.some.inj (hlast.symm.trans ht)
          have hco := sequence_of_validateEvent hv
          rw [hlast', hsame, hse, fileLines, Option.elim_some] at hco
          have hpos := List.length_pos_of_ne_nil (lines_ne_nil he)
          have hr : bytes.lines.countP holdsRecord = bytes.lines.length := by
            have hone : 0 < bytes.lines.countP holdsRecord :=
              List.countP_pos_iff.mpr ⟨line, List.mem_of_getLast? hline, hre⟩
            omega
          rw [fileLines, Option.elim_some,
            filePart_of_forall (lines_ne_nil he) (List.countP_eq_length.mp hr)]
          rcases ih next (by
              rw [hex, fileLines, Option.elim_some, hr]) htrim' with
            hnone | ⟨final, hok, hf⟩
          · exact .inl hnone
          · exact .inr ⟨final, hok, by rw [hf, hp, List.append_assoc]⟩

end Fast

/-- If the records the fast scan locates read back with the sequences it assigns to them, the
validating scan finds nothing to repair and the same parts. The fast scan of a journal the
validating scan finds clean declines or finds the same parts, if white space around a line makes no
difference to its sequence. -/
theorem scanJournalFast_agrees (P : Primitives) (conversationId : String) (files : List JournalFile) :
    (∀ parts last, scanJournalFast P conversationId files = .ok (some (parts, last)) →
      Readable P conversationId files parts →
      validateJournal P conversationId files = .ok (some parts)) ∧
    ∀ parts, Trimmable P conversationId files →
      validateJournal P conversationId files = .ok (some parts) →
      scanJournalFast P conversationId files = .ok none ∨
        ∃ last, scanJournalFast P conversationId files = .ok (some (parts, last)) := by
  constructor
  · intro parts last hfast hr
    obtain ⟨state, hs, hfast⟩ := Except.bind_eq_ok.mp hfast
    cases state with
    | none => cases hfast
    | some state =>
      have hp : state.parts = parts := by
        cases he : state.parts.isEmpty with
        | true =>
          simp only [he, if_true] at hfast
          cases hfast
        | false =>
          simp only [he] at hfast
          cases hfast
          rfl
      obtain ⟨newParts, hnew, ht, hc⟩ := cleanJournal_of_fastFiles rfl hs
      rw [hp, List.nil_append] at hnew
      subst hnew
      exact (hc hr).validateJournal ht
  · intro parts htrim hv
    rw [scanJournalFast]
    rcases (cleanJournal_of_validateJournal hv).fastFiles {} rfl htrim with
      hnone | ⟨final, hok, hp⟩
    · rw [hnone]
      exact .inl rfl
    · rw [hok, ok_bind]
      rw [List.nil_append] at hp
      subst hp
      cases he : final.parts.isEmpty with
      | true => exact .inl (by simp only [he, if_true]; rfl)
      | false => exact .inr ⟨final.last, by simp only [he]; rfl⟩

/-- The number of records in a part. -/
def IndexPart.records : IndexPart → Nat
  | .sealed segment => segment.last + 1 - segment.first
  | .plain _ _ offsets => offsets.length

/-- The offsets of a part of plaintext. -/
def IndexPart.offsets : IndexPart → Option (Nat × Nat × List (Nat × Nat))
  | .sealed _ => none
  | .plain file first offsets => some (file, first, offsets)

lemma exists_of_toOption_join {ε α β : Type} {x : Except ε (Option α)} {f : α → β} {b : β}
    (h : x.toOption.join.map f = some b) : ∃ a, x = .ok (some a) ∧ f a = b := by
  obtain ⟨a, ha, hb⟩ := Option.map_eq_some_iff.mp h
  refine ⟨a, ?_, hb⟩
  match x with
  | .error _ => cases ha
  | .ok none => cases ha
  | .ok (some _) => cases ha; rfl

/-- A sealed segment of two records, and a plaintext file with the third and the fourth. -/
def sealedRunJournal : List JournalFile :=
  let records := "\x7b\"s\":3,\"i\":\"c\",\"t\":0,\"y\":\"note\",\"c\":1\x7d\n" ++
    "\x7b\"s\":4,\"i\":\"d\",\"t\":0,\"y\":\"note\",\"c\":1\x7d\n"
  [.segment (.loaded .sealedRun), .plain (some (Bytes.ofString records))]

theorem scanJournalFast_agrees_sealedRun :
    ∃ parts last, scanJournalFast .standard "conv" sealedRunJournal = .ok (some (parts, last)) ∧
      parts.map IndexPart.records = [2, 2] ∧ Readable .standard "conv" sealedRunJournal parts ∧
      validateJournal .standard "conv" sealedRunJournal = .ok (some parts) := by
  have hfast : (scanJournalFast .standard "conv" sealedRunJournal).toOption.join.map
      (·.1.filterMap IndexPart.offsets) = some [(1, 3, [(0, 38), (39, 77)])] := by
    decide +kernel
  have hcounts : (scanJournalFast .standard "conv" sealedRunJournal).toOption.join.map
      (·.1.map IndexPart.records) = some [2, 2] := by
    decide +kernel
  obtain ⟨⟨parts, last⟩, hok, hoffsets⟩ := exists_of_toOption_join hfast
  rw [hok] at hcounts
  have hreadable : Readable .standard "conv" sealedRunJournal parts := by
    intro file first offsets hmem content hfile
    have hmem' : (file, first, offsets) ∈ [(1, 3, [(0, 38), (39, 77)])] :=
      hoffsets ▸ List.mem_filterMap.mpr ⟨_, hmem, rfl⟩
    cases List.mem_singleton.mp hmem'
    cases hfile
    decide +kernel
  exact ⟨parts, last, hok, Option.some.inj hcounts, hreadable,
    (scanJournalFast_agrees .standard "conv" _).1 parts last hok hreadable⟩

/-- A journal of one file. -/
def journalOf (text : String) : List JournalFile := [.plain (some (Bytes.ofString text))]

/-- The line of a first record. -/
def firstRecord : String := "\x7b\"s\":1,\"i\":\"a\",\"t\":0,\"y\":\"note\",\"c\":1\x7d\n"

/-- Times in text form, as far as `spacedRecord` needs them. -/
def epochTimes : Primitives :=
  { Primitives.standard with
    rfc3339 := fun text => if text = "1970-01-01T00:00:00Z" then DateTime.ofNanos? 0 else none }

/-- A line that holds record 2 in the short form behind a space, and record 3 in the full form of
older journals as it stands. -/
def spacedRecord : String :=
  " \x7b\"s\":2,\"i\":\"b\",\"t\":0,\"y\":\"note\",\"c\":1," ++
    "\"schemaVersion\":2,\"sequence\":3,\"eventId\":\"b\",\"conversationId\":\"conv\"," ++
    "\"time\":\"1970-01-01T00:00:00Z\",\"type\":\"note\",\"payload\":1\x7d\n"

/-- Behind a blank line, the fast scan takes `spacedRecord` for the third record of the file, and
the validating scan for the second. -/
theorem not_scanJournalFast_agrees :
    ∃ parts parts' last,
      validateJournal epochTimes "conv" (journalOf (firstRecord ++ "\n" ++ spacedRecord)) =
        .ok (some parts) ∧
      scanJournalFast epochTimes "conv" (journalOf (firstRecord ++ "\n" ++ spacedRecord)) =
        .ok (some (parts', last)) ∧ parts.map IndexPart.records = [2] ∧ parts'.map IndexPart.records = [3] := by
  have hv : (validateJournal epochTimes "conv"
      (journalOf (firstRecord ++ "\n" ++ spacedRecord))).toOption.join.map
        (·.map IndexPart.records) = some [2] := by
    decide +kernel
  have hfast : (scanJournalFast epochTimes "conv"
      (journalOf (firstRecord ++ "\n" ++ spacedRecord))).toOption.join.map
        (·.1.map IndexPart.records) = some [3] := by
    decide +kernel
  obtain ⟨parts, hp, hc⟩ := exists_of_toOption_join hv
  obtain ⟨⟨parts', last⟩, hp', hc'⟩ := exists_of_toOption_join hfast
  exact ⟨parts, parts', last, hp, hp', hc, hc'⟩

end Todex
