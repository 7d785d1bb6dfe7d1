import Todex.Conversation.Journal.Scan

/-!
# Clean journals

The validating scan finds nothing to repair in exactly the journals whose lines, blank ones aside,
hold consecutive records, and whose runs of plaintext files end in a newline.
-/

namespace Todex

variable {P : Primitives} {conversationId : String}

/-! ### Lines that hold consecutive records -/

/-- A line that is not blank. -/
def holdsRecord (line : Nat × Bytes) : Bool := line.2.trimAscii ≠ []

variable (P conversationId) in
/-- A line holds the record of a sequence. -/
def HoldsRecord (sequence : Nat) (line : Bytes) : Prop :=
  ∃ event, decodeJournalRecord P line.trimAscii conversationId = some event ∧
    validateEvent event conversationId sequence = none

variable (P conversationId) in
/-- The lines hold consecutive records from `expected` on, blank lines aside. -/
def Consecutive (expected : Nat) : List (Nat × Bytes) → Prop
  | [] => True
  | line :: lines =>
    if holdsRecord line then
      HoldsRecord P conversationId expected line.2 ∧ Consecutive (expected + 1) lines
    else Consecutive expected lines

/-- The records of consecutive lines. -/
def recordEntries (file expected : Nat) : List (Nat × Bytes) → List SalvagedEntry
  | [] => []
  | line :: lines =>
    if holdsRecord line then
      .record file expected line.1 (line.1 + line.2.length) ::
        recordEntries file (expected + 1) lines
    else recordEntries file expected lines

variable {event : ConversationEvent}

lemma sequence_of_validateEvent {sequence : Nat} (h : validateEvent event conversationId sequence = none) :
    event.sequence = sequence := by
  rw [validateEvent] at h
  split_ifs at h with ho
  all_goals
    simp only [not_or, not_not] at ho
    exact ho.2.2

variable {expected : Nat} {lines : List (Nat × Bytes)} {line : Nat × Bytes}

lemma consecutive_cons_of_holds (h : holdsRecord line = true) : Consecutive P conversationId expected (line :: lines) ↔
      HoldsRecord P conversationId expected line.2 ∧ Consecutive P conversationId (expected + 1) lines := by
  rw [Consecutive, if_pos h]

lemma consecutive_cons_of_blank
    (h : ¬ holdsRecord line = true) : Consecutive P conversationId expected (line :: lines) ↔
      Consecutive P conversationId expected lines := by
  rw [Consecutive, if_neg h]

/-! ### The validating scan of lines -/

section Lines

variable {barrier : Option Nat} {file : Nat} {state : RunState}

lemma accept_of_not_pending (hp : state.pending = none) (start stop : Nat) :
    state.accept file start stop event = { state with
        expected := event.sequence + 1
        entries := state.entries ++ [.record file event.sequence start stop]
        last := some (file, event) } := by
  simp [RunState.accept, hp]

variable (barrier) in
lemma readRecord_of_holds {line : Bytes}
    (h : HoldsRecord P conversationId expected line) (hb : ∀ sequence ∈ barrier, expected < sequence) :
    ∃ event, readRecord P conversationId barrier expected line.trimAscii = some event ∧ event.sequence = expected := by
  obtain ⟨event, hd, hv⟩ := h
  have hs := sequence_of_validateEvent hv
  refine ⟨event, ?_, hs⟩
  rw [readRecord, hd, Option.filter_some, if_pos]
  subst hs
  simpa [hv] using hb

lemma holds_of_readRecord {line : Bytes}
    (h : readRecord P conversationId barrier expected line.trimAscii = some event) :
    HoldsRecord P conversationId event.sequence line := by
  obtain ⟨hd, hc⟩ := Option.filter_eq_some_iff.mp h
  simp only [decide_eq_true_eq] at hc
  exact ⟨event, hd, hc.2.2⟩

variable (barrier file state) in
lemma foldl_scanLine_of_consecutive (hp : state.pending = none) (hl : Consecutive P conversationId state.expected lines)
    (hb : ∀ sequence ∈ barrier, state.expected + lines.countP holdsRecord ≤ sequence) :
    ∃ last, lines.foldl (scanLine P conversationId barrier file) state = { state with
        entries := state.entries ++ recordEntries file state.expected lines
        expected := state.expected + lines.countP holdsRecord
        last } := by
  induction lines generalizing state with
  | nil => exact ⟨state.last, by simp [recordEntries]⟩
  | cons line lines ih =>
    by_cases hli : holdsRecord line = true
    · obtain ⟨hh, hre⟩ := (consecutive_cons_of_holds hli).mp hl
      rw [List.countP_cons_of_pos hli] at hb
      obtain ⟨event, hr, hs⟩ := readRecord_of_holds barrier hh
        fun sequence hm => by have := hb sequence hm; omega
      have hst : scanLine P conversationId barrier file state line =
          { state with
            expected := state.expected + 1
            entries := state.entries ++
              [.record file state.expected line.1 (line.1 + line.2.length)]
            last := some (file, event) } := by
        rw [scanLine, if_neg (by simpa [holdsRecord] using hli), hr]
        dsimp only
        rw [if_pos (by rw [hs]; omega), accept_of_not_pending hp, hs]
      obtain ⟨last, hf⟩ := ih (scanLine P conversationId barrier file state line)
        (by rw [hst]; exact hp) (by rw [hst]; exact hre)
        (by
          rw [hst]
          intro sequence hm
          have := hb sequence hm
          dsimp only
          omega)
      refine ⟨last, ?_⟩
      rw [List.foldl_cons, hf, hst, recordEntries, if_pos hli, List.countP_cons_of_pos hli]
      simp only [List.append_assoc, List.singleton_append, RunState.mk.injEq, and_true]
      omega
    · rw [List.countP_cons_of_neg hli] at hb
      have hbl : line.2.trimAscii = [] := by simpa [holdsRecord] using hli
      rw [List.foldl_cons, scanLine, if_pos hbl, recordEntries, if_neg hli, List.countP_cons_of_neg hli]
      exact ih state hp ((consecutive_cons_of_blank hli).mp hl) hb

/-- Something must be repaired. -/
def RunState.Dirty (state : RunState) : Prop :=
  state.damaged ≠ ∅ ∨ ∃ corrupt ∈ state.pending, corrupt.files ≠ ∅

lemma dirty_reject (state : RunState) (start stop : Nat) : (state.reject file start stop).Dirty :=
  .inr ⟨_, rfl, Finset.insert_ne_empty _ _⟩

lemma damaged_accept (state : RunState) (start stop : Nat) (event : ConversationEvent) :
    (state.accept file start stop event).damaged = state.damaged ∪ state.pending.elim ∅ (·.files) := rfl

/-- What must be repaired is among the damaged files once the corrupt lines are. -/
lemma RunState.Dirty.union_ne_empty (h : state.Dirty) : state.damaged ∪ state.pending.elim ∅ (·.files) ≠ ∅ := by
  intro hu
  obtain ⟨hd, hf⟩ := Finset.union_eq_empty.mp hu
  rcases h with h | ⟨corrupt, hc, h⟩
  · exact h hd
  · rw [Option.mem_def] at hc
    rw [hc] at hf
    exact h hf

lemma dirty_scanLine (h : state.Dirty) (line : Nat × Bytes) :
    (scanLine P conversationId barrier file state line).Dirty := by
  rw [scanLine]
  split
  · exact h
  · split
    · split
      · left
        rw [damaged_accept]
        exact h.union_ne_empty
      · exact dirty_reject state _ _
    · exact dirty_reject state _ _

/-- A line that leaves nothing to repair is blank or holds the next record. -/
lemma holds_of_scanLine (hp : state.pending = none) (hl : holdsRecord line = true)
    (hc : ¬ (scanLine P conversationId barrier file state line).Dirty) :
    HoldsRecord P conversationId state.expected line.2 ∧
      (scanLine P conversationId barrier file state line).pending = none ∧
      (scanLine P conversationId barrier file state line).expected = state.expected + 1 := by
  have hb : ¬ line.2.trimAscii = [] := by simpa [holdsRecord] using hl
  rw [scanLine, if_neg hb] at hc ⊢
  split at hc
  · next event hr =>
    split at hc
    · next hle =>
      have hch := (Option.filter_eq_some_iff.mp hr).2
      simp only [decide_eq_true_eq] at hch
      rw [RunState.capacity, hp, Option.elim_none] at hle
      have hs : event.sequence = state.expected := by omega
      rw [if_pos (by omega), accept_of_not_pending hp]
      exact ⟨hs ▸ holds_of_readRecord hr, hp, by rw [hs]⟩
    · exact absurd (dirty_reject state _ _) hc
  · exact absurd (dirty_reject state _ _) hc

lemma dirty_foldl_scanLine (h : state.Dirty) (lines : List (Nat × Bytes)) :
    (lines.foldl (scanLine P conversationId barrier file) state).Dirty := by
  induction lines generalizing state with
  | nil => exact h
  | cons line lines ih => exact ih (dirty_scanLine h line)

lemma consecutive_of_foldl_scanLine (hp : state.pending = none)
    (hc : ¬ (lines.foldl (scanLine P conversationId barrier file) state).Dirty) :
    Consecutive P conversationId state.expected lines ∧
      (lines.foldl (scanLine P conversationId barrier file) state).pending = none ∧
      (lines.foldl (scanLine P conversationId barrier file) state).expected =
        state.expected + lines.countP holdsRecord := by
  induction lines generalizing state with
  | nil => exact ⟨trivial, hp, rfl⟩
  | cons line lines ih =>
    have hs : ¬ (scanLine P conversationId barrier file state line).Dirty :=
      fun hd => hc (dirty_foldl_scanLine hd lines)
    rw [List.foldl_cons] at hc ⊢
    by_cases hl : holdsRecord line = true
    · obtain ⟨hh, hp', he⟩ := holds_of_scanLine hp hl hs
      obtain ⟨hr, hf, hn⟩ := ih hp' hc
      rw [he] at hr hn
      refine ⟨(consecutive_cons_of_holds hl).mpr ⟨hh, hr⟩, hf, ?_⟩
      rw [hn, List.countP_cons_of_pos hl]
      omega
    · have hb : line.2.trimAscii = [] := by simpa [holdsRecord] using hl
      rw [scanLine, if_pos hb] at hc ⊢
      obtain ⟨hr, hf, hn⟩ := ih hp hc
      refine ⟨(consecutive_cons_of_blank hl).mpr hr, hf, ?_⟩
      rw [hn, List.countP_cons_of_neg hl]

end Lines

/-! ### The validating scan of a run -/

/-- The lines of a file that may have vanished. -/
def fileLines (content : Option Bytes) : List (Nat × Bytes) := content.elim [] Bytes.lines

/-- The index part of a file's records, if there are any. -/
def filePart (file expected : Nat) (lines : List (Nat × Bytes)) : List IndexPart :=
  match lines.filter holdsRecord with
  | [] => []
  | records => [.plain file expected (records.map lineOffsets)]

variable (P conversationId) in
/-- The files of a run hold consecutive records from `expected` on, up to `next`, in these parts. -/
inductive ConsecutiveRun : Nat → List (Nat × Option Bytes) → Nat → List IndexPart → Prop
  | nil (expected : Nat) : ConsecutiveRun expected [] expected []
  | cons {expected file : Nat} {content : Option Bytes} {files : List (Nat × Option Bytes)}
      {next : Nat} {parts : List IndexPart} :
      Consecutive P conversationId expected (fileLines content) →
      ConsecutiveRun (expected + (fileLines content).countP holdsRecord) files next parts →
      ConsecutiveRun expected ((file, content) :: files) next
        (filePart file expected (fileLines content) ++ parts)

variable {parts : List IndexPart}

lemma ConsecutiveRun.le (h : ConsecutiveRun P conversationId expected files next parts) : expected ≤ next := by
  induction h with
  | nil => exact le_rfl
  | cons _ _ ih => omega

lemma foldl_pushPart (hn : ∀ first offsets, parts.getLast? ≠ some (.plain file first offsets)) :
    (recordEntries file expected lines).foldl pushPart parts = parts ++ filePart file expected lines := by
  -- once the part is open, the other records join it
  have ho (lines : List (Nat × Bytes)) (sequence first : Nat) (offsets : List (Nat × Nat)) :
      (recordEntries file sequence lines).foldl pushPart (parts ++ [.plain file first offsets]) =
        parts ++ [.plain file first (offsets ++ (lines.filter holdsRecord).map lineOffsets)] := by
    induction lines generalizing sequence offsets with
    | nil => simp [recordEntries]
    | cons line lines ih =>
      rw [recordEntries]
      split_ifs with hl
      · rw [List.foldl_cons, pushPart, List.getLast?_concat]
        dsimp only
        rw [if_pos rfl, List.dropLast_concat, ih, List.filter_cons_of_pos hl]
        simp [lineOffsets]
      · rw [ih, List.filter_cons_of_neg hl]
  induction lines with
  | nil => simp [recordEntries, filePart]
  | cons line lines ih =>
    rw [recordEntries]
    split_ifs with hl
    · have hp : pushPart parts (.record file expected line.1 (line.1 + line.2.length)) =
          parts ++ [.plain file expected [lineOffsets line]] := by
        rw [pushPart]
        split
        · next partFile first offsets hla =>
          rw [if_neg]
          · rfl
          · rintro rfl
            exact hn first offsets hla
        · rfl
      rw [List.foldl_cons, hp, ho, filePart, List.filter_cons_of_pos hl]
      simp
    · rw [ih, filePart, filePart, List.filter_cons_of_neg hl]

/-- The last part belongs to none of the files. -/
def Apart (parts : List IndexPart) (files : List (Nat × Option Bytes)) : Prop :=
  ∀ file ∈ files, ∀ first offsets, parts.getLast? ≠ some (.plain file.1 first offsets)

/-- All files of a run end in a newline. -/
def Terminated (files : List (Nat × Option Bytes)) : Prop :=
  ∀ file ∈ files, ∀ bytes ∈ file.2, bytes ≠ [] → bytes.getLast? = some Bytes.newline

section Runs

variable {barrier : Option Nat} {state : RunState} {files : List (Nat × Option Bytes)} {next : Nat}
  {parts : List IndexPart}

lemma apart_append_filePart (ha : Apart old files)
    (hf : ∀ other ∈ files, file ≠ other.1) : Apart (old ++ filePart file expected lines) files := by
  intro other ho first offsets
  rw [filePart]
  split
  · rw [List.append_nil]
    exact ha other ho first offsets
  · rw [List.getLast?_concat]
    intro heq
    cases heq
    exact hf other ho rfl

variable (barrier state) in
lemma foldl_scanFile_of_consecutive (hru : ConsecutiveRun P conversationId state.expected files next parts)
    (hf : files.Pairwise fun a b => a.1 ≠ b.1) (hp : state.pending = none)
    (hb : ∀ sequence ∈ barrier, next ≤ sequence) (ha : Apart (state.entries.foldl pushPart []) files) :
    let final := files.foldl (scanFile P conversationId barrier) state
    final.pending = none ∧ final.damaged = state.damaged ∧ final.expected = next ∧
      final.entries.foldl pushPart [] = state.entries.foldl pushPart [] ++ parts ∧
      (Terminated files → state.unterminated = none → final.unterminated = none) := by
  induction files generalizing state parts with
  | nil =>
    cases hru
    exact ⟨hp, rfl, rfl, by simp, fun _ h => h⟩
  | cons file files ih =>
    obtain ⟨file, content⟩ := file
    obtain ⟨hfl, hf⟩ := List.pairwise_cons.mp hf
    cases hru with
    | @cons _ _ _ _ _ parts hl hr =>
      rw [List.foldl_cons]
      have hs : ∃ last present unterminated, scanFile P conversationId barrier state
          (file, content) =
            { state with
              entries := state.entries ++ recordEntries file state.expected (fileLines content)
              expected := state.expected + (fileLines content).countP holdsRecord
              last, present, unterminated } ∧
          (Terminated ((file, content) :: files) → state.unterminated = none → unterminated = none) := by
        cases content with
        | none =>
          refine ⟨state.last, state.present, state.unterminated, ?_, fun _ h => h⟩
          simp [scanFile, fileLines, recordEntries]
        | some bytes =>
          obtain ⟨last, hfo⟩ := foldl_scanLine_of_consecutive barrier file
            (state.enter file bytes) hp hl
            fun sequence hm => hr.le.trans (hb sequence hm)
          refine ⟨last, _, _, hfo, fun ht hn => ?_⟩
          rw [RunState.enter]
          split_ifs with hem hla
          · exact hn
          · rfl
          · exact absurd (ht (file, some bytes) List.mem_cons_self bytes rfl hem) hla
      obtain ⟨last, present, unterminated, hs, ht⟩ := hs
      have hpa : (state.entries ++ recordEntries file state.expected
          (fileLines content)).foldl pushPart [] = state.entries.foldl pushPart [] ++
            filePart file state.expected (fileLines content) := by
        rw [List.foldl_append, foldl_pushPart fun first offsets =>
          ha (file, content) List.mem_cons_self first offsets]
      obtain ⟨hp', hd, he, hfi, hu⟩ :=
        ih (scanFile P conversationId barrier state (file, content))
          (by rw [hs]; exact hr) hf (by rw [hs]; exact hp)
          (by
            rw [hs, hpa]
            exact apart_append_filePart
              (fun other ho => ha other (List.mem_cons_of_mem _ ho)) hfl)
      refine ⟨hp', hd.trans (by rw [hs]), he, ?_, fun hal hn => ?_⟩
      · rw [hfi, hs, hpa, List.append_assoc]
      · refine hu (fun other ho => hal other (List.mem_cons_of_mem _ ho)) ?_
        rw [hs]
        exact ht hal hn

lemma dirty_scanFile (h : state.Dirty) (file : Nat × Option Bytes) :
    (scanFile P conversationId barrier state file).Dirty := by
  obtain ⟨file, content⟩ := file
  cases content with
  | none => exact h
  | some bytes => exact dirty_foldl_scanLine (show (state.enter file bytes).Dirty from h) _

lemma dirty_foldl_scanFile (h : state.Dirty) (files : List (Nat × Option Bytes)) :
    (files.foldl (scanFile P conversationId barrier) state).Dirty := by
  induction files generalizing state with
  | nil => exact h
  | cons file files ih => exact ih (dirty_scanFile h file)

/-- A run that leaves nothing to repair holds consecutive records. -/
lemma consecutiveRun_of_foldl_scanFile (hp : state.pending = none)
    (hc : ¬ (files.foldl (scanFile P conversationId barrier) state).Dirty) :
    ∃ parts, ConsecutiveRun P conversationId state.expected files
        (files.foldl (scanFile P conversationId barrier) state).expected parts ∧
      (files.foldl (scanFile P conversationId barrier) state).pending = none := by
  induction files generalizing state with
  | nil => exact ⟨[], .nil _, hp⟩
  | cons file files ih =>
    have hs : ¬ (scanFile P conversationId barrier state file).Dirty :=
      fun hd => hc (dirty_foldl_scanFile hd files)
    obtain ⟨file, content⟩ := file
    have hl : Consecutive P conversationId state.expected (fileLines content) ∧
        (scanFile P conversationId barrier state (file, content)).pending = none ∧
        (scanFile P conversationId barrier state (file, content)).expected =
          state.expected + (fileLines content).countP holdsRecord := by
      cases content with
      | none => exact ⟨trivial, hp, rfl⟩
      | some bytes =>
        exact consecutive_of_foldl_scanLine
          (show (state.enter file bytes).pending = none from hp) hs
    rw [List.foldl_cons] at hc ⊢
    obtain ⟨parts, hr, hf⟩ := ih hl.2.1 hc
    rw [hl.2.2] at hr
    exact ⟨_, .cons hl.1 hr, hf⟩

end Runs

/-! ### The validating scan of a journal -/

/-- A run that is closed and needs no repair was clean and is unchanged. -/
lemma close_eq_of_clean {state : RunState} (h : (state.close barrier).damaged = ∅) :
    ¬ state.Dirty ∧ (state.pending = none → state.close barrier = state) := by
  rw [RunState.close] at h ⊢
  split at h
  · next ho =>
    rw [if_pos ho]
    dsimp only at h ⊢
    split at h
    · next file hpl =>
      split at h
      · next hlt => exact absurd h (Finset.insert_ne_empty _ _)
      · next hge =>
        rw [if_neg hge]
        refine ⟨fun hd => hd.union_ne_empty h, fun hp => ?_⟩
        simp [hge, hp] at ho
    · next hpl =>
      refine ⟨fun hd => hd.union_ne_empty h, fun hp => ?_⟩
      cases state
      cases hp
      simp
  · next hcl =>
    rw [if_neg hcl]
    refine ⟨fun hd => ?_, fun _ => rfl⟩
    rcases hd with hda | ⟨corrupt, hc, -⟩
    · exact hda h
    · rw [Option.mem_def] at hc
      simp [hc] at hcl

variable (P conversationId) in
/-- The sections of a journal in which nothing must be repaired. -/
inductive CleanSections : Nat → List JournalSection → List IndexPart → Prop
  | nil (expected : Nat) : CleanSections expected [] []
  | segment {expected : Nat} {segment : SealedSegment} {rest : List JournalSection}
      {parts : List IndexPart} : segment.first = expected →
      CleanSections (segment.last + 1) rest parts →
      CleanSections expected (.segment (.loaded segment) :: rest) (.sealed segment :: parts)
  | run {expected next : Nat} {files : List (Nat × Option Bytes)} {rest : List JournalSection}
      {runParts parts : List IndexPart} :
      ConsecutiveRun P conversationId expected files next runParts →
      CleanSections next rest parts →
      CleanSections expected (.run files :: rest) (runParts ++ parts)

/-- The files of every run have positions of their own. -/
def Distinct (sections : List JournalSection) : Prop :=
  ∀ files, .run files ∈ sections → files.Pairwise fun a b => a.1 ≠ b.1

/-- A scan that finds nothing to repair has the parts of consecutive records. -/
lemma consecutiveRun_of_scanPlainRun {files : List (Nat × Option Bytes)} (hf : files.Pairwise fun a b => a.1 ≠ b.1)
    (h : scanPlainRun P conversationId files expected barrier = .ok scan) (hcl : scan.needsRepair = false) :
    ConsecutiveRun P conversationId expected files scan.expected scan.parts := by
  unfold scanPlainRun at h
  set final := files.foldl (scanFile P conversationId barrier) { expected } with hfi
  have hr : ¬ final.Dirty ∧ (final.pending = none → scan = final.result) ∧
      ∀ sequence ∈ barrier, final.expected ≤ sequence := by
    simp only [PlainRunScan.needsRepair, decide_eq_false_iff_not, not_or, not_not] at hcl
    obtain ⟨hd, ht, -⟩ := hcl
    cases barrier with
    | none =>
      cases h
      refine ⟨?_, fun _ => rfl, by simp⟩
      rintro (hdi | ⟨corrupt, hc, -⟩)
      · exact hdi hd
      · rw [Option.mem_def] at hc
        simp [RunState.result, hc] at ht
    | some sequence =>
      dsimp only at h
      split at h
      · cases h
      · next hle =>
        cases h
        obtain ⟨hn, hs⟩ := close_eq_of_clean hd
        exact ⟨hn, fun hp => by rw [hs hp], by simpa using hle⟩
  obtain ⟨hn, hsc, hb⟩ := hr
  obtain ⟨parts, hru, hp⟩ := consecutiveRun_of_foldl_scanFile
    (show ({ expected } : RunState).pending = none from rfl) hn
  obtain ⟨-, -, -, hpa, -⟩ := foldl_scanFile_of_consecutive barrier
    { expected } hru hf rfl hb (by simp [Apart])
  rw [hsc hp]
  have hs : final.result.parts = parts := by simpa [RunState.result] using hpa
  rw [hs]
  exact hru

/-- Conversely, consecutive records in terminated files need no repair. -/
lemma scanPlainRun_of_consecutiveRun (hru : ConsecutiveRun P conversationId expected files next parts)
    (hf : files.Pairwise fun a b => a.1 ≠ b.1) (ht : Terminated files) (hb : ∀ sequence ∈ barrier, sequence = next) :
    ∃ scan, scanPlainRun P conversationId files expected barrier = .ok scan ∧
      scan.needsRepair = false ∧ scan.expected = next ∧ scan.parts = parts := by
  obtain ⟨hp, hd, he, hpa, hu⟩ := foldl_scanFile_of_consecutive
    barrier { expected } hru hf rfl
    (fun sequence hm => (hb sequence hm).ge) (by simp [Apart])
  have hn := hu ht rfl
  unfold scanPlainRun
  generalize files.foldl (scanFile P conversationId barrier) { expected } = final at *
  have hr : final.result.needsRepair = false ∧ final.result.expected = next ∧
      final.result.parts = parts := by
    refine ⟨?_, he, by simpa [RunState.result] using hpa⟩
    simp [PlainRunScan.needsRepair, RunState.result, hp, hd, hn]
  cases barrier with
  | none => exact ⟨_, rfl, hr⟩
  | some sequence =>
    have hs : final.expected = sequence := he.trans (hb sequence rfl).symm
    dsimp only
    rw [if_neg (by omega), RunState.close, if_neg (by simp [hp, hs])]
    exact ⟨_, rfl, hr⟩

lemma cleanSections_of_validateSections {sections : List JournalSection} (hd : Distinct sections)
    (h : validateSections P conversationId expected sections = .ok (some parts)) :
    CleanSections P conversationId expected sections parts := by
  induction sections generalizing expected parts with
  | nil =>
    cases h
    exact .nil expected
  | cons head rest ih =>
    have hr : Distinct rest := fun files hm => hd files (List.mem_cons_of_mem _ hm)
    cases head with
    | segment index =>
      cases index with
      | failed => cases h
      | unusable => cases h
      | loaded segment =>
        rw [validateSections] at h
        split at h
        · next hf =>
          obtain ⟨restParts, hv, hok⟩ := Except.bind_eq_ok.mp h
          cases restParts with
          | none => cases hok
          | some restParts =>
            cases hok
            exact .segment hf (ih hr hv)
        · cases h
    | run files =>
      rw [validateSections] at h
      obtain ⟨barrier, -, h⟩ := Except.bind_eq_ok.mp h
      obtain ⟨scan, hs, h⟩ := Except.bind_eq_ok.mp h
      split at h
      · cases h
      · next hc =>
        obtain ⟨restParts, hv, hok⟩ := Except.bind_eq_ok.mp h
        cases restParts with
        | none => cases hok
        | some restParts =>
          cases hok
          exact .run (consecutiveRun_of_scanPlainRun (hd files List.mem_cons_self) hs (by simpa using hc)) (ih hr hv)

lemma CleanSections.barrierOf {sections : List JournalSection}
    (h : CleanSections P conversationId expected sections parts) :
    ∃ barrier, barrierOf conversationId sections = .ok barrier ∧ ∀ sequence ∈ barrier, sequence = expected := by
  cases h with
  | nil => exact ⟨none, rfl, by simp⟩
  | segment hf => exact ⟨some _, rfl, by simpa using hf⟩
  | run => exact ⟨none, rfl, by simp⟩

lemma CleanSections.validateSections {sections : List JournalSection}
    (h : CleanSections P conversationId expected sections parts) (hd : Distinct sections)
    (ht : ∀ files, .run files ∈ sections → Terminated files) :
    validateSections P conversationId expected sections = .ok (some parts) := by
  induction h with
  | nil => rfl
  | segment hf _ ih =>
    rw [Todex.validateSections, if_pos hf, ih (fun files hm => hd files (List.mem_cons_of_mem _ hm))
      fun files hm => ht files (List.mem_cons_of_mem _ hm)]
    rfl
  | @run expected next files rest runParts parts hru hr ih =>
    obtain ⟨barrier, hb, hn⟩ := hr.barrierOf
    obtain ⟨scan, hs, hc, rfl, rfl⟩ := scanPlainRun_of_consecutiveRun hru
      (hd files List.mem_cons_self) (ht files List.mem_cons_self) hn
    rw [Todex.validateSections, hb, ok_bind, hs, ok_bind, hc,
      ih (fun files hm => hd files (List.mem_cons_of_mem _ hm)) fun files hm => ht files (List.mem_cons_of_mem _ hm)]
    rfl

/-! ### Journals file by file -/

variable (P conversationId) in
/-- The files of a journal in which nothing must be repaired, from a position on. -/
inductive CleanJournal : Nat → Nat → List JournalFile → List IndexPart → Prop
  | nil (position expected : Nat) : CleanJournal position expected [] []
  | segment {position expected : Nat} {segment : SealedSegment} {files : List JournalFile}
      {parts : List IndexPart} : segment.first = expected →
      CleanJournal (position + 1) (segment.last + 1) files parts →
      CleanJournal position expected (.segment (.loaded segment) :: files)
        (.sealed segment :: parts)
  | plain {position expected : Nat} {content : Option Bytes} {files : List JournalFile}
      {parts : List IndexPart} : Consecutive P conversationId expected (fileLines content) →
      CleanJournal (position + 1) (expected + (fileLines content).countP holdsRecord) files parts →
      CleanJournal position expected (.plain content :: files)
        (filePart position expected (fileLines content) ++ parts)

lemma sections_plain_cases (position : Nat) (content : Option Bytes) (files : List JournalFile) :
    (∃ run rest, sections (position + 1) files = .run run :: rest ∧
        sections position (.plain content :: files) = .run ((position, content) :: run) :: rest) ∨
      sections position (.plain content :: files) = .run [(position, content)] :: sections (position + 1) files := by
  rw [sections]
  split
  · next run rest heq => exact .inl ⟨run, rest, heq, rfl⟩
  · exact .inr rfl

lemma cleanJournal_iff : CleanJournal P conversationId position expected files parts ↔
      CleanSections P conversationId expected (sections position files) parts := by
  induction files generalizing position expected parts with
  | nil =>
    constructor
    · rintro ⟨⟩
      exact .nil expected
    · intro h
      cases h
      exact .nil position expected
  | cons file files ih =>
    cases file with
    | segment index =>
      rw [sections]
      constructor
      · intro h
        cases h with
        | segment hfi hr => exact .segment hfi (ih.mp hr)
      · intro h
        cases h with
        | segment hfi hr => exact .segment hfi (ih.mpr hr)
    | plain content =>
      rcases sections_plain_cases position content files with ⟨run, rest, hru, heq⟩ | heq
      · rw [heq]
        constructor
        · intro h
          cases h with
          | plain hl hr =>
            have hs := ih.mp hr
            rw [hru] at hs
            cases hs with
            | run hf ha =>
              rw [← List.append_assoc]
              exact .run (.cons hl hf) ha
        · intro h
          cases h with
          | run hf hr =>
            cases hf with
            | cons hl hf =>
              rw [List.append_assoc]
              exact .plain hl (ih.mpr (by rw [hru]; exact .run hf hr))
      · rw [heq]
        constructor
        · intro h
          cases h with
          | plain hl hr =>
            have hse := CleanSections.run
              (@ConsecutiveRun.cons _ _ _ position _ _ _ _ hl (.nil _)) (ih.mp hr)
            rwa [List.append_nil] at hse
        · intro h
          cases h with
          | run hf hr =>
            cases hf with
            | cons hl hn =>
              cases hn
              rw [List.append_nil]
              exact .plain hl (ih.mpr hr)

/-- Runs hold files of the journal, in the order of their positions. -/
lemma mem_sections {run : List (Nat × Option Bytes)} (h : .run run ∈ sections position files) :
    (∀ file ∈ run, position ≤ file.1 ∧ .plain file.2 ∈ files) ∧ run.Pairwise fun a b => a.1 ≠ b.1 := by
  induction files generalizing position run with
  | nil => cases h
  | cons file files ih =>
    have ht {run : List (Nat × Option Bytes)} (h : .run run ∈ sections (position + 1) files) :
        (∀ other ∈ run, position ≤ other.1 ∧ .plain other.2 ∈ file :: files) ∧
          run.Pairwise fun a b => a.1 ≠ b.1 := by
      obtain ⟨hm, hp⟩ := ih h
      refine ⟨fun other ho => ⟨?_, List.mem_cons_of_mem _ (hm other ho).2⟩, hp⟩
      have := (hm other ho).1
      omega
    cases file with
    | segment index =>
      rw [sections] at h
      rcases List.mem_cons.mp h with h | h
      · cases h
      · exact ht h
    | plain content =>
      rcases sections_plain_cases position content files with ⟨old, rest, hold, heq⟩ | heq
      · rw [heq] at h
        rcases List.mem_cons.mp h with h | h
        · cases h
          have hr : JournalSection.run old ∈ sections (position + 1) files := by
            rw [hold]
            exact List.mem_cons_self
          obtain ⟨hm, hp⟩ := ht hr
          refine ⟨?_, List.pairwise_cons.mpr ⟨fun other ho => ?_, hp⟩⟩
          · rintro other (_ | ⟨_, ho⟩)
            · exact ⟨le_rfl, List.mem_cons_self⟩
            · exact hm other ho
          · have := ((ih hr).1 other ho).1
            dsimp only
            omega
        · exact ht (by rw [hold]; exact List.mem_cons_of_mem _ h)
      · rw [heq] at h
        rcases List.mem_cons.mp h with h | h
        · cases h
          exact ⟨by simp, List.pairwise_singleton _ _⟩
        · exact ht h

lemma CleanJournal.validateJournal (h : CleanJournal P conversationId 0 1 files parts)
    (ht : ∀ bytes, .plain (some bytes) ∈ files → bytes ≠ [] → bytes.getLast? = some Bytes.newline) :
    validateJournal P conversationId files = .ok (some parts) := by
  refine (cleanJournal_iff.mp h).validateSections (fun _ hr => (mem_sections hr).2) ?_
  intro run hr file hf bytes hb
  have hm := ((mem_sections hr).1 file hf).2
  rw [Option.mem_def] at hb
  rw [hb] at hm
  exact ht bytes hm

lemma cleanJournal_of_validateJournal (h : validateJournal P conversationId files = .ok (some parts)) :
    CleanJournal P conversationId 0 1 files parts :=
  cleanJournal_iff.mpr <|
    cleanSections_of_validateSections (fun _ hr => (mem_sections hr).2) h

end Todex
