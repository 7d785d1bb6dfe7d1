import Todex.Conversation.Store.State

/-!
# Replay pages

A page of the history is a window of records, cut to a byte budget. The replay index tells which
files hold the window. A page that goes forward keeps the first records of its window, one that goes
back keeps the last.
-/

namespace Todex

open Json (Members)

/-! ### The byte budget -/

/-- Byte budget of one page. -/
structure PageBudget where
  used : Nat
  limit : Nat
  admitted : Bool
deriving DecidableEq

namespace PageBudget

def new (limit : Nat) : PageBudget := { used := 0, limit, admitted := false }

/-- Every record is admitted until the total would exceed the limit, but the first always is. -/
def admits (self : PageBudget) (bytes : Nat) : Option PageBudget :=
  let used := self.used + bytes
  if self.admitted ∧ self.limit < used then none
  else some { self with used, admitted := true }

/-- How many records are admitted one after the other. -/
def admitWhile (self : PageBudget) : List Nat → Nat × PageBudget
  | [] => (0, self)
  | bytes :: sizes =>
    match self.admits bytes with
    | some budget =>
      let (count, budget) := budget.admitWhile sizes
      (count + 1, budget)
    | none => (0, self)

end PageBudget

/-! ### The replay index -/

namespace IndexPart

def first : IndexPart → Nat
  | .sealed segment => segment.first
  | .plain _ first _ => first

def count : IndexPart → Nat
  | .sealed segment => segment.last - segment.first + 1
  | .plain _ _ offsets => offsets.length

end IndexPart

/-- The part of a replay window inside one journal file. -/
inductive PartSlice
  | sealed (segment : SealedSegment) (first last : Nat)
  | plain (file first : Nat) (offsets : List (Nat × Nat))

/-- The records of a part from `lo` to `hi`, both of which it holds. -/
def IndexPart.between (lo hi : Nat) : IndexPart → PartSlice
  | .sealed segment => .sealed segment lo hi
  | .plain file first offsets =>
    .plain file lo ((offsets.take (hi - first + 1)).drop (lo - first))

/-- The records of a part between two sequences. -/
def IndexPart.slice (fromSequence toSequence : Nat) (part : IndexPart) : Option PartSlice :=
  let lo := max part.first fromSequence
  let hi := min (part.first + part.count - 1) toSequence
  if part.count = 0 ∨ hi < lo then none else some (part.between lo hi)

/-- Slices of the parts covering the records at positions `start..stop`, in journal order. -/
def indexSlices (parts : List IndexPart) (start stop : Nat) : List PartSlice :=
  parts.filterMap (IndexPart.slice (start + 1) stop)

/-- `JournalIndex::total`. -/
def indexTotal (parts : List IndexPart) : Nat := (parts.map IndexPart.count).sum

/-! ### Reading a window -/

/-- A journal with its replay index. -/
structure IndexedJournal where
  conversationId : String
  files : List JournalFile
  /-- The name, the size and the modification time of each file. -/
  fingerprint : List (String × Nat × Option Nat)
  parts : List IndexPart
  /-- Whether the validating scan found the parts. -/
  fullyValidated : Bool
  /-- The `.seg` file of a segment number. -/
  segmentFile : Nat → Bytes
  /-- `read_copied_frame`: the frames that a fork keeps beside its journal. -/
  copiedFrame : String → Except AppError (Option Json)

/-- Which ciphertext encrypted records carry in a replay. -/
inductive ReplayDetail
  | full | summary
deriving DecidableEq

/-- The end of its window a page keeps. -/
inductive PageAnchor
  | start | stop
deriving DecidableEq

/-- Whether a page is read from its end. -/
def PageAnchor.backward : PageAnchor → Bool
  | .start => false
  | .stop => true

/-- Why a page read failed. -/
inductive PageError
  | plain (error : AppError)
  | sealed (number : Nat) (error : AppError)

namespace IndexedJournal

/-- The content of a plaintext file. -/
def plainFile (self : IndexedJournal) (file : Nat) : Option Bytes :=
  match self.files[file]? with
  | some (.plain content) => content
  | _ => none

def reader (self : IndexedJournal) (segment : SealedSegment) : SegmentReader where
  segment
  file := self.segmentFile segment.number
  conversationId := self.conversationId

end IndexedJournal

/-- Journal bytes of a sealed frame. -/
def FrameRef.bytes (self : FrameRef) : Nat := (self.entry.len + 2) / 3 * 4

/-- The frame of a record, if the page does not hold it yet. -/
def SegmentRecord.newFrame (self : SegmentRecord) (frames : Members) : Option FrameRef :=
  self.frame.filter fun frame => (frames.get frame.id).isNone

section Read

variable (P : Primitives)

/-- The frames of a page with the new one of a record. -/
def addFrame (reader : SegmentReader) (frames : Members) : Option FrameRef → Except SegmentError Members
  | some frame => do return frames.insert frame.id (← reader.wireFrame P frame.entry)
  | none => .ok frames

/-- Read the records of a sealed segment in the order given while they fit the budget. A sealed
frame counts once, when its first record is admitted. -/
def readSealedRecords (reader : SegmentReader) (detail : ReplayDetail) (budget : PageBudget) (frames : Members) :
    List Nat → Except AppError (List ConversationEvent × Bool × PageBudget × Members)
  | [] => .ok ([], true, budget, frames)
  | sequence :: sequences => do
    let failed := segmentError reader.conversationId reader.segment.number
    let record ← (reader.record P sequence (detail = .summary)).mapError failed
    let newFrame := record.newFrame frames
    match budget.admits (record.bytes + newFrame.elim 0 FrameRef.bytes) with
    | none => return ([], false, budget, frames)
    | some budget =>
      let frames ← (addFrame P reader frames newFrame).mapError failed
      match validateEvent record.event reader.conversationId sequence with
      | some error => .error error
      | none =>
        let (events, rest) ← readSealedRecords reader detail budget frames sequences
        return (record.event :: events, rest)

variable (journal : IndexedJournal)

/-- The items of a page in the order they are read. -/
def ordered {α : Type} (backward : Bool) (items : List α) : List α :=
  if backward then items.reverse else items

/-- The records that fit the budget, from the start or the end of a slice, and whether all fit. -/
def readPlainSlice (file first : Nat) (offsets : List (Nat × Nat)) (backward : Bool)
    (budget : PageBudget) : Except AppError (List ConversationEvent × Bool × PageBudget) :=
  let sizes := offsets.map fun offset => offset.2 - offset.1
  let (count, budget) := budget.admitWhile (ordered backward sizes)
  let complete := count = offsets.length
  if count = 0 then .ok ([], complete, budget)
  else
    let lo := if backward then offsets.length - count else 0
    match (journal.plainFile file).bind fun content =>
      readPlainRecords P journal.conversationId content (first + lo)
        ((offsets.drop lo).take count) with
    | some events => .ok (events, complete, budget)
    | none => .error (.other "unreadable journal record")

def readSealedSlice (segment : SealedSegment) (first last : Nat) (backward : Bool)
    (detail : ReplayDetail) (budget : PageBudget) (frames : Members) :
    Except AppError (List ConversationEvent × Bool × PageBudget × Members) := do
  let sequences := List.range' first (last + 1 - first)
  let (events, rest) ← readSealedRecords P (journal.reader segment) detail budget frames
    (ordered backward sequences)
  return (ordered backward events, rest)

def readSlice (backward : Bool) (detail : ReplayDetail) (budget : PageBudget) (frames : Members) :
    PartSlice → Except PageError (List ConversationEvent × Bool × PageBudget × Members)
  | .plain file first offsets => do
    let (events, complete, budget) ←
      (readPlainSlice P journal file first offsets backward budget).mapError .plain
    return (events, complete, budget, frames)
  | .sealed segment first last =>
    (readSealedSlice P journal segment first last backward detail budget frames).mapError
      (.sealed segment.number)

/-- Read slices one after the other until one does not fit. -/
def readSlices (backward : Bool) (detail : ReplayDetail) (budget : PageBudget) (frames : Members) :
    List PartSlice → Except PageError (List (List ConversationEvent) × Members)
  | [] => .ok ([], frames)
  | slice :: slices => do
    let (events, complete, budget, frames) ← readSlice P journal backward detail budget frames slice
    if complete then
      let (chunks, frames) ← readSlices backward detail budget frames slices
      return (events :: chunks, frames)
    else return ([events], frames)

/-- Add the first of some frames that a page holds or the fork keeps. -/
def addCopiedFrame (frames : Members) : List String → Except AppError Members
  | [] => .ok frames
  | id :: ids =>
    if (frames.get id).isSome then .ok frames
    else do
      match ← journal.copiedFrame id with
      | some frame => return frames.insert id frame
      | none => addCopiedFrame frames ids

/-- The frames that a record of a fork refers to, the one of the page's detail first. -/
def copiedFrameIds (detail : ReplayDetail) (event : ConversationEvent) : List String :=
  let keys := match detail with
    | .summary => ["s", "f"]
    | .full => ["f", "s"]
  match ((encryptedContent event.payload).bind (·.get "fr")).bind Json.asObject with
  | some reference => keys.filterMap fun key => (reference.get key).bind Json.asStr
  | none => []

/-- `attach_copied_frames`. -/
def attachCopiedFrames (detail : ReplayDetail) (frames : Members) : List ConversationEvent → Except AppError Members
  | [] => .ok frames
  | event :: events => do
    attachCopiedFrames detail (← addCopiedFrame journal frames (copiedFrameIds detail event)) events

/-- One page read through the replay index, with the positions of its window that were read. -/
structure IndexedPage where
  start : Nat
  stop : Nat
  events : List ConversationEvent
  frames : Members

/-- Records at positions `start..stop` under the byte budget, kept from the anchor's end. -/
def readWindow (limitBytes start stop : Nat) (anchor : PageAnchor) (detail : ReplayDetail) :
    Except PageError IndexedPage :=
  if stop ≤ start then .ok { start, stop := start, events := [], frames := [] }
  else do
    let slices := indexSlices journal.parts start stop
    let (chunks, frames) ← readSlices P journal anchor.backward detail (.new limitBytes) []
      (ordered anchor.backward slices)
    let events := (ordered anchor.backward chunks).flatten
    let frames ← (attachCopiedFrames journal detail frames events).mapError .plain
    match anchor with
    | .stop => return { start := stop - events.length, stop, events, frames }
    | .start => return { start, stop := start + events.length, events, frames }

end Read

/-! ### Replay -/

/-- `MAX_REPLAY_LIMIT`. -/
def maxReplayLimit : Nat := 1000

structure ConversationReplay where
  fromSequence : Nat
  nextSequence : Nat
  hasMore : Bool
  events : List ConversationEvent
  frames : Members

/-- The forward replay that a page makes. -/
def IndexedPage.replayAfter (self : IndexedPage) (afterSequence total : Nat) : ConversationReplay where
  fromSequence := afterSequence
  nextSequence := self.events.getLast?.elim afterSequence (·.sequence)
  hasMore := self.stop < total
  events := self.events
  frames := self.frames

/-- The reverse replay that a page makes. -/
def IndexedPage.replayBefore (self : IndexedPage) (beforeSequence : Nat) : ConversationReplay where
  fromSequence := self.start
  nextSequence := self.events.getLast?.elim beforeSequence (·.sequence)
  hasMore := 0 < self.start
  events := self.events
  frames := self.frames

/-- What is repaired when a page cannot be read: the segment of a number, or the plaintext files. -/
structure PageRepair where
  salvageSegment : IndexedJournal → Nat → Except AppError IndexedJournal
  validateJournal : IndexedJournal → Except AppError IndexedJournal

section Replay

variable (P : Primitives) (repair : PageRepair) (limitBytes : Nat)

/-- Read the page that `window` selects. What cannot be read is repaired, and the page is read again
from the journal as it is then. -/
def readIndexedPage (anchor : PageAnchor) (detail : ReplayDetail) (window : Nat → Nat × Nat) :
    Nat → IndexedJournal → Except AppError (IndexedPage × IndexedJournal)
  | retries, journal => do
    let total := indexTotal journal.parts
    let (start, stop) := window total
    match readWindow P journal limitBytes (min start stop) (min stop total) anchor detail, retries
      with
    | .ok page, _ => return (page, journal)
    | .error (.sealed number _), retries + 1 =>
      readIndexedPage anchor detail window retries (← repair.salvageSegment journal number)
    | .error (.plain error), retries + 1 =>
      if journal.fullyValidated then .error error
      else readIndexedPage anchor detail window retries (← repair.validateJournal journal)
    | .error (.plain error), 0 => .error error
    | .error (.sealed _ error), 0 => .error error

variable (journal : IndexedJournal)

def clampLimit (limit : Nat) : Nat := min (max limit 1) maxReplayLimit

/-- The positions after a sequence. -/
def windowAfter (afterSequence limit total : Nat) : Nat × Nat :=
  let start := min afterSequence total
  (start, min (start + limit) total)

/-- The positions up to a sequence. -/
def windowBefore (beforeSequence limit total : Nat) : Nat × Nat :=
  let stop := min beforeSequence total
  (stop - limit, stop)

/-- Forward replay of the events after a sequence. -/
def replayDetail (afterSequence limit : Nat) (detail : ReplayDetail) : Except AppError ConversationReplay := do
  let window := windowAfter afterSequence (clampLimit limit)
  let (page, journal) ← readIndexedPage P repair limitBytes .start detail window 2 journal
  return page.replayAfter afterSequence (indexTotal journal.parts)

/-- Reverse replay: the newest events up to a sequence. -/
def replayBeforeDetail (beforeSequence limit : Nat) (detail : ReplayDetail) : Except AppError ConversationReplay := do
  let window := windowBefore beforeSequence (clampLimit limit)
  let (page, _) ← readIndexedPage P repair limitBytes .stop detail window 2 journal
  return page.replayBefore beforeSequence

end Replay

end Todex
