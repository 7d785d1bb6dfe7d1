import Todex.Conversation.Journal.Scan
import Todex.Conversation.Prepare
import Todex.HistoryKeys

/-!
# One conversation of the store

The journal of a conversation is its numbered files followed by the active file `events.jsonl`. The
manifest mirrors the journal: its cached copy may be ahead of `manifest.json`, and the journal may be
ahead of both.
-/

namespace Todex

/-- `MAX_RECORD_LINE_BYTES`: the longest journal line there should be. -/
def maxRecordLineBytes : Nat := 3 * maxEventPayloadBytes + 64 * 1024

/-- What the store keeps about a conversation beside its journal. -/
structure ConversationManifest where
  provider : ProviderKind
  status : ConversationStatus
  lastSequence : Nat
  updatedAt : DateTime
  /-- History written before encryption; it is only read. -/
  legacyPlaintext : Bool := false
deriving DecidableEq

structure CachedManifest where
  manifest : ConversationManifest
  /-- Newer than `manifest.json`. -/
  dirty : Bool
deriving DecidableEq

/-- A numbered journal file: a sealed segment with what loading its index gives, or a plaintext file
that awaits conversion. -/
inductive NumberedFile
  | segment (index : LoadedIndex) (bytes : Bytes)
  | plain (bytes : Bytes)

def NumberedFile.bytes : NumberedFile → Bytes
  | .segment _ bytes => bytes
  | .plain bytes => bytes

structure Journal where
  /-- The numbered files in the order of their numbers. -/
  numbered : List NumberedFile := []
  /-- `events.jsonl`. -/
  active : Option Bytes := none
  /-- The cached newest record, if the cache entry is of the last file as it is now. -/
  tail : Option ConversationEvent := none

structure StoreState where
  journal : Journal := {}
  /-- `manifest.json`. -/
  written : ConversationManifest
  cached : Option CachedManifest := none
  keys : ConversationKeys := {}
  /-- What the hub has published. -/
  published : List ConversationEvent := []

abbrev StoreM := Program StoreState AppError

/-- What the store is given: its settings, and how `append_batch_locked` prepares one entry (secrets
redacted, reserved fields renamed, long texts cut). -/
structure StoreConfig where
  conversationId : String
  prepare : String × Json → Except AppError (String × Json)
  /-- `journal_segment_bytes`. -/
  segmentBytes : Nat
  /-- `history_seal_min_bytes`. -/
  sealMinBytes : Nat
  /-- Whether the store has history keys; a store of the daemon has. -/
  history : Bool := true

/-- The last journal file that is not empty. -/
def Journal.lastFile (self : Journal) : Option NumberedFile :=
  match self.active.filter (· ≠ []) with
  | some bytes => some (.plain bytes)
  | none => (self.numbered.filter (·.bytes ≠ [])).getLast?

/-! ### The newest record -/

/-- `segment_error`. -/
def segmentError (conversationId : String) (number : Nat) : SegmentError → AppError
  | .io => .other "I/O error"
  | .invalid reason => .invalidRequest
    s!"conversation {conversationId} journal segment {number} is unreadable: {reason}"
  | .json => .invalidRequest
    s!"conversation {conversationId} journal segment {number} is unreadable"

section Tail

variable (P : Primitives) (conversationId : String)

/-- The newest record of a sealed segment. -/
def readSegmentTail (index : LoadedIndex) (bytes : Bytes) : Except AppError ConversationEvent :=
  match index with
  | .loaded segment =>
    match ({ segment, file := bytes, conversationId } : SegmentReader).event P segment.last with
    | .ok (event, _) => .ok event
    | .error error => .error (segmentError conversationId segment.number error)
  | .unusable => .error (.invalidRequest
    s!"conversation {conversationId} journal segment is unreadable")
  | .failed => .error (.other "I/O error")

/-- The end of a file that a reader of its last record looks at: whole lines, in a window of the
longest line there should be. -/
def tailWindow (bytes : Bytes) : Except AppError Bytes :=
  let window := min maxRecordLineBytes bytes.length
  let raw := bytes.drop (bytes.length - window)
  if window < bytes.length then
    if Bytes.newline ∈ raw then .ok (raw.drop (raw.idxOf Bytes.newline + 1))
    else .error (.invalidRequest "conversation journal event exceeds the payload limit")
  else .ok raw

/-- The newest record of a plaintext file. -/
def readPlainTail (bytes : Bytes) : Except AppError (Option ConversationEvent) := do
  let raw ← tailWindow bytes
  match (raw.lines.map (·.2.trimAscii)).reverse.find? (· ≠ []) with
  | none => return none
  | some line =>
    match decodeJournalRecord P line conversationId with
    | none => .error (.invalidRequest s!"conversation {conversationId} journal tail is invalid")
    | some event =>
      if event.schemaVersion ≠ conversationSchemaVersion ∨
          event.conversationId ≠ conversationId then
        .error (.invalidRequest
          s!"conversation {conversationId} journal tail does not match its manifest")
      else return some event

/-- The newest journal record, and whether the last journal file that is not empty ends with a
newline. `io` is an error of reading it. -/
def readLastEventIn (io : Option AppError) : StoreM (Option ConversationEvent × Bool) := do
  let journal := (← .get).journal
  match journal.lastFile, journal.tail with
  | none, _ => return (none, true)
  | some _, some event => return (some event, true)
  | some (.segment index bytes), none =>
    .failWith io
    let event ← .ofExcept (readSegmentTail P conversationId index bytes)
    .modify fun state => { state with journal.tail := some event }
    return (some event, true)
  | some (.plain bytes), none =>
    .failWith io
    let event ← .ofExcept (readPlainTail P conversationId bytes)
    return (event, bytes.getLast? = some Bytes.newline)

end Tail

/-! ### The manifest -/

/-- `get_unlocked`; `io` is an error of reading `manifest.json`. -/
def getUnlocked (io : Option AppError) : StoreM ConversationManifest := do
  let state ← .get
  match state.cached with
  | some cached => return cached.manifest
  | none =>
    .failWith io
    .modify fun state => { state with cached := some { manifest := state.written, dirty := false } }
    return state.written

/-- Cache a manifest newer than `manifest.json`. -/
def markManifestDirtyLocked (manifest : ConversationManifest) : StoreM Unit :=
  .modify fun state => { state with cached := some { manifest, dirty := true } }

/-- How writing `manifest.json` and the snapshot beside it ends: a failure comes before or after
`manifest.json` was replaced. -/
inductive PersistIo
  | done
  | failed (replaced : Bool) (error : AppError)
deriving DecidableEq

/-- Write the manifest now. A failed write leaves the cache authoritative and dirty. -/
def persistManifestLocked (manifest : ConversationManifest) : PersistIo → StoreM Unit
  | .done =>
    .modify fun state => { state with
      written := manifest, cached := some { manifest, dirty := false } }
  | .failed replaced error => do
    .modify fun state => { state with written := if replaced then manifest else state.written }
    markManifestDirtyLocked manifest
    .fail error

/-- Write a dirty cached manifest. -/
def flushManifestLocked (io : Option AppError) : StoreM Unit := do
  match (← .get).cached with
  | some { manifest, dirty := true } =>
    .failWith io
    .modify fun state => { state with
      written := manifest, cached := some { manifest, dirty := false } }
  | _ => return ()

/-! ### Files -/

/-- Append a newline to the last plaintext file that is not empty. -/
def terminateLast : List NumberedFile → List NumberedFile
  | [] => []
  | file :: files =>
    if files.any (·.bytes ≠ []) then file :: terminateLast files
    else match file with
      | .plain bytes => .plain (bytes ++ [Bytes.newline]) :: files
      | .segment .. => file :: files

/-- How rotating the active file ends. -/
inductive RotationIo
  /-- It was not renamed; a missing final newline may have been written. `reread` is an error of
  looking at the file again. -/
  | stuck (newline : Bool) (reread : Option AppError)
  /-- It was renamed; `fresh` tells whether an empty active file could be created. -/
  | renamed (fresh : Bool)
deriving DecidableEq

/-- How writing a line to the active file ends. -/
inductive WriteIo
  | done
  /-- The file could not be opened or set up; it may have been created. -/
  | unopened (created : Bool) (error : AppError)
  /-- Writing or syncing failed when this many bytes were in the file; `cut` tells whether the file
  could be cut back. -/
  | failed (stored : Nat) (cut : Bool) (error : AppError)
  /-- The line is written and synced, but the file's metadata cannot be read. -/
  | unmeasured (error : AppError)
deriving DecidableEq

/-- Append `line` to the active file and sync it. After a failure the file is cut back to what it
was, if it can be. -/
def appendJournalLine (line : Bytes) (io : WriteIo) : StoreM Unit := do
  let before := (← .get).journal.active.getD []
  match io with
  | .done => .modify fun state => { state with journal.active := some (before ++ line) }
  | .unopened created error =>
    if created then .modify fun state => { state with journal.active := some before }
    .fail error
  | .failed stored cut error =>
    .modify fun state => { state with
      journal.active := some (before ++ if cut then [] else line.take stored) }
    .fail error
  | .unmeasured error =>
    .modify fun state => { state with journal.active := some (before ++ line) }
    .fail error

end Todex
