import Todex.Conversation.Segment.Frame
import Todex.Lib.Ensures

/-!
# Scans of the journal

A journal is a list of files: sealed segments, known by their index, and plaintext files of one
record per line. The validating scan decodes every line of the plaintext files and finds out what
must be repaired. The fast scan looks for newlines and decodes the first and the last line of each
file only.
-/

namespace Todex

def journalRecordLostEvent : String := "journal.recordLost"

/-- `MIN_JOURNAL_RECORD_BYTES`. -/
def minJournalRecordBytes : Nat := 64

/-! ### Checks of a record -/

def validateEventType (eventType : String) : Option AppError :=
  if eventType ≠ "" ∧ eventType.utf8ByteSize ≤ 96 ∧ keyed eventType "journal." = false ∧
    eventType.toList.all fun c =>
      ('a' ≤ c ∧ c ≤ 'z') ∨ ('0' ≤ c ∧ c ≤ '9') ∨ c = '.' ∨ c = '_' ∨ c = '-' then none
  else some (.invalidRequest "conversation event type is invalid")

def validateEvent (event : ConversationEvent) (conversationId : String) (expectedSequence : Nat) :
    Option AppError :=
  if event.schemaVersion ≠ conversationSchemaVersion ∨ event.conversationId ≠ conversationId ∨
    event.sequence ≠ expectedSequence then
    some (.invalidRequest
      s!"conversation {conversationId} journal continuity check failed at sequence {expectedSequence}")
  else if event.eventType = journalRecordLostEvent ∨ event.eventType = journalCompactedEvent then
    none
  else validateEventType event.eventType

/-! ### Files -/

/-- What `load_index` gives. -/
inductive LoadedIndex
  | loaded (segment : SealedSegment)
  /-- Missing, or it fails its checks. -/
  | unusable
  /-- It cannot be read. -/
  | failed

/-- One file of a journal. -/
inductive JournalFile
  | segment (index : LoadedIndex)
  /-- A plaintext file; one that vanished since the directory was listed has no content. -/
  | plain (content : Option Bytes)

/-- The records of one file in the replay index. -/
inductive IndexPart
  | sealed (segment : SealedSegment)
  /-- The byte ranges of records from sequence `first` on, newlines excluded. -/
  | plain (file first : Nat) (offsets : List (Nat × Nat))

/-! ### The validating scan -/

/-- One entry of a salvaged plaintext run, in sequence order. -/
inductive SalvagedEntry
  | record (file sequence start stop : Nat)
  /-- Sequences no valid line holds, stamped with the time and provider of the record before. -/
  | lost (file runStart runLength : Nat) (time : Option DateTime) (provider : Option ProviderKind)
deriving DecidableEq

/-- Corrupt lines since the last valid record. -/
structure PendingCorrupt where
  file : Nat
  start : Nat
  lines : Nat := 0
  bytes : Nat := 0
  files : Finset Nat := ∅

structure PlainRunScan where
  parts : List IndexPart
  /-- Next sequence after the run. -/
  expected : Nat
  last : Option (Nat × ConversationEvent)
  entries : List SalvagedEntry
  /-- Files that must be rewritten. -/
  damaged : Finset Nat
  /-- Where corrupt lines begin that no valid record follows. -/
  corruptTail : Option (Nat × Nat)
  /-- The last non-empty file lacks its final newline. -/
  unterminated : Option Nat

def PlainRunScan.needsRepair (self : PlainRunScan) : Bool :=
  self.damaged ≠ ∅ ∨ self.corruptTail.isSome ∨ self.unterminated.isSome

/-- What `scan_plain_run` keeps from line to line. -/
structure RunState where
  expected : Nat
  entries : List SalvagedEntry := []
  damaged : Finset Nat := ∅
  pending : Option PendingCorrupt := none
  last : Option (Nat × ConversationEvent) := none
  unterminated : Option Nat := none
  present : List Nat := []

namespace RunState

/-- Lost sequences are placed where the corrupt lines began. -/
def lost (self : RunState) (file runLength : Nat) : SalvagedEntry :=
  .lost file self.expected runLength (self.last.map (·.2.time)) (self.last.bind (·.2.provider))

/-- A file is opened. -/
def enter (self : RunState) (file : Nat) (bytes : Bytes) : RunState :=
  { self with
    present := self.present ++ [file]
    unterminated :=
      if bytes = [] then self.unterminated
      else if bytes.getLast? = some Bytes.newline then none else some file }

/-- The records that may have been in the corrupt lines. -/
def capacity (self : RunState) : Nat :=
  self.pending.elim 0 fun pending => pending.lines + pending.bytes / minJournalRecordBytes

/-- A valid record ends the corrupt lines before it. -/
def accept (self : RunState) (file start stop : Nat) (event : ConversationEvent) : RunState :=
  let missing := event.sequence - self.expected
  { self with
    expected := event.sequence + 1
    entries := self.entries ++
      (self.pending.elim [] fun corrupt =>
        if 0 < missing then [self.lost corrupt.file missing] else []) ++
      [.record file event.sequence start stop]
    damaged := self.damaged ∪ self.pending.elim ∅ (·.files)
    pending := none
    last := some (file, event) }

def reject (self : RunState) (file start stop : Nat) : RunState :=
  let corrupt := self.pending.getD { file, start }
  { self with
    pending := some { corrupt with
      lines := corrupt.lines + 1
      bytes := corrupt.bytes + (stop - start + 1)
      files := insert file corrupt.files } }

end RunState

variable (P : Primitives) (conversationId : String)

/-- A record that may come next. -/
def readRecord (barrier : Option Nat) (expected : Nat) (line : Bytes) : Option ConversationEvent :=
  (decodeJournalRecord P line conversationId).filter fun event =>
    expected ≤ event.sequence ∧ (∀ sequence ∈ barrier, event.sequence < sequence) ∧
      validateEvent event conversationId event.sequence = none

def scanLine (barrier : Option Nat) (file : Nat) (state : RunState) (line : Nat × Bytes) :
    RunState :=
  let (start, line) := line
  let stop := start + line.length
  let trimmed := line.trimAscii
  if trimmed = [] then state
  else match readRecord P conversationId barrier state.expected trimmed with
  | some event =>
    if event.sequence - state.expected ≤ state.capacity then state.accept file start stop event
    else state.reject file start stop
  | none => state.reject file start stop

def scanFile (barrier : Option Nat) (state : RunState) (file : Nat × Option Bytes) : RunState :=
  match file with
  | (_, none) => state
  | (file, some bytes) =>
    bytes.lines.foldl (scanLine P conversationId barrier file) (state.enter file bytes)

/-- The index parts of the records, one for each file. -/
def pushPart (parts : List IndexPart) : SalvagedEntry → List IndexPart
  | .lost .. => parts
  | .record file sequence start stop =>
    match parts.getLast? with
    | some (.plain partFile first offsets) =>
      if partFile = file then parts.dropLast ++ [.plain file first (offsets ++ [(start, stop)])]
      else parts ++ [.plain file sequence [(start, stop)]]
    | _ => parts ++ [.plain file sequence [(start, stop)]]

/-- The end of a run before a sealed segment: what is missing there is lost. -/
def RunState.close (self : RunState) (barrier : Nat) : RunState :=
  if self.expected < barrier ∨ self.pending.isSome then
    let place := (self.pending.map (·.file)).or self.present.getLast?
    let closed := { self with
      damaged := self.damaged ∪ self.pending.elim ∅ (·.files), pending := none }
    match place with
    | some file =>
      if self.expected < barrier then
        { closed with
          damaged := insert file closed.damaged
          entries := self.entries ++ [self.lost file (barrier - self.expected)]
          expected := barrier }
      else closed
    | none => closed
  else self

/-- The result of a scan. -/
def RunState.result (self : RunState) : PlainRunScan where
  parts := self.entries.foldl pushPart []
  expected := self.expected
  last := self.last
  entries := self.entries
  damaged := self.damaged
  corruptTail := self.pending.map fun corrupt => (corrupt.file, corrupt.start)
  unterminated := self.unterminated

/-- Validate a run of plaintext files line by line. A sealed segment after the run has `barrier` as
its first sequence. -/
def scanPlainRun (run : List (Nat × Option Bytes)) (expectedFirst : Nat) (barrier : Option Nat) :
    Except AppError PlainRunScan :=
  let state := run.foldl (scanFile P conversationId barrier) { expected := expectedFirst }
  match barrier with
  | none => .ok state.result
  | some sequence =>
    if sequence < state.expected then .error (.invalidRequest
      s!"conversation {conversationId} journal overlaps its sealed segment at sequence {sequence}")
    else .ok (state.close sequence).result

/-- A journal as runs of plaintext files between sealed segments, with the files' positions. -/
inductive JournalSection
  | segment (index : LoadedIndex)
  | run (files : List (Nat × Option Bytes))

/-- Cut a journal into its runs. -/
def sections (position : Nat) : List JournalFile → List JournalSection
  | [] => []
  | .segment index :: files => .segment index :: sections (position + 1) files
  | .plain content :: files =>
    match sections (position + 1) files with
    | .run run :: rest => .run ((position, content) :: run) :: rest
    | rest => .run [(position, content)] :: rest

/-- `boundary_sequence` of the section after a run. -/
def barrierOf : List JournalSection → Except AppError (Option Nat)
  | .segment (.loaded segment) :: _ => .ok (some segment.first)
  | .segment _ :: _ => .error (.invalidRequest
    s!"conversation {conversationId} sealed segment after plaintext journal is unreadable")
  | _ => .ok none

/-- One pass of `validate_journal_locked`: the parts of a clean journal, or nothing when something
must be repaired first. -/
def validateSections (expected : Nat) : List JournalSection → Except AppError (Option (List IndexPart))
  | [] => .ok (some [])
  | .segment .failed :: _ => .error (.other "I/O error")
  | .segment .unusable :: _ => .ok none
  | .segment (.loaded segment) :: rest =>
    let first := segment.first
    let number := segment.number
    if first = expected then do
      return (← validateSections (segment.last + 1) rest).map (.sealed segment :: ·)
    else .error (.invalidRequest <|
      s!"conversation {conversationId} journal segment {number} starts at " ++
        s!"sequence {first} where {expected} belongs")
  | .run files :: rest => do
    let barrier ← barrierOf conversationId rest
    let scan ← scanPlainRun P conversationId files expected barrier
    if scan.needsRepair then return none
    return (← validateSections scan.expected rest).map (scan.parts ++ ·)

def validateJournal (files : List JournalFile) : Except AppError (Option (List IndexPart)) :=
  validateSections P conversationId 1 (sections 0 files)

/-! ### The fast scan -/

/-- The byte range of a line. -/
def lineOffsets (line : Nat × Bytes) : Nat × Nat := (line.1, line.1 + line.2.length)

/-- What `scan_journal_fast` keeps from file to file. -/
structure FastState where
  parts : List IndexPart := []
  expected : Nat := 1
  last : Option (Nat × ConversationEvent) := none

/-- A line as it stands holds the record of this sequence. -/
def boundaryRecord (sequence : Nat) (line : Nat × Bytes) : Option ConversationEvent :=
  (decodeJournalRecord P line.2 conversationId).filter fun event =>
    validateEvent event conversationId sequence = none

/-- The fast scan of one file; nothing when the file needs the validating scan. -/
def fastFile (state : FastState) (file : Nat) : JournalFile → Except AppError (Option FastState)
  | .segment .failed => .error (.other "I/O error")
  | .segment .unusable => .ok none
  | .segment (.loaded segment) =>
    if segment.first = state.expected then .ok (some {
      parts := state.parts ++ [.sealed segment], expected := segment.last + 1, last := none })
    else .ok none
  | .plain none => .ok (some state)
  | .plain (some bytes) =>
    if bytes = [] then .ok (some state)
    else if bytes.getLast? ≠ some Bytes.newline then .ok none
    else
      let count := bytes.lines.length
      match bytes.lines.head?.bind (boundaryRecord P conversationId state.expected),
        bytes.lines.getLast?.bind
          (boundaryRecord P conversationId (state.expected + count - 1)) with
      | some _, some fileLast => .ok (some {
        parts := state.parts ++ [.plain file state.expected (bytes.lines.map lineOffsets)]
        expected := state.expected + count
        last := some (file, fileLast) })
      | _, _ => .ok none

def fastFiles (state : FastState) (file : Nat) : List JournalFile → Except AppError (Option FastState)
  | [] => .ok (some state)
  | journalFile :: files => do
    match ← fastFile P conversationId state file journalFile with
    | some state => fastFiles state (file + 1) files
    | none => return none

/-- `scan_journal_fast`. -/
def scanJournalFast (files : List JournalFile) :
    Except AppError (Option (List IndexPart × Option (Nat × ConversationEvent))) := do
  match ← fastFiles P conversationId {} 0 files with
  | some state => return if state.parts.isEmpty then none else some (state.parts, state.last)
  | none => return none

/-- The records at contiguous offsets of a plaintext file, the first of sequence `first`. -/
def readPlainRecords (content : Bytes) (first : Nat) : List (Nat × Nat) → Option (List ConversationEvent)
  | [] => some []
  | (start, stop) :: offsets => do
    let event ← decodeJournalRecord P (content.slice start stop).trimAscii conversationId
    if validateEvent event conversationId first = none then
      return event :: (← readPlainRecords content (first + 1) offsets)
    else none

end Todex
