import Todex.Conversation.Store.State

/-!
# Appending to the journal

`append_batch_locked` writes consecutive records with one journal write and sync. The synced line is
the commit point: the manifest is updated and the hub publishes the records after it. Every step
before and after it may fail.
-/

namespace Todex

/-! ### What one append meets -/

/-- What a request for the record key meets. -/
structure RecordKeyIo extends KeyIo where
  fingerprint : Except AppError FingerprintKey

/-- What one append meets: the ids and times of its events, and how each fallible step ends. -/
structure AppendIo where
  /-- The id and the time of the event at this position of the batch. -/
  stamps : Nat → String × DateTime
  manifest : Option AppError := none
  listing : Option AppError := none
  tail : Option AppError := none
  /-- An error of terminating a numbered file, and whether the newline reached the file. -/
  closing : Option (Bool × AppError) := none
  relisting : Option AppError := none
  /-- The clock when the key's age is looked at. -/
  now : DateTime
  key : RecordKeyIo
  rotation : RotationIo := .renamed true
  /-- The request for a key after the active file was rotated. -/
  nextKey : RecordKeyIo
  write : WriteIo := .done
  persist : PersistIo := .done

/-- Drop the sub-microsecond part records do not store. -/
def truncateToMicros (time : DateTime) : DateTime :=
  (DateTime.fromTimestampMicros time.timestampMicros).getD time

variable (P : Primitives) (config : StoreConfig)

/-! ### Steps of an append -/

/-- The manifest after the journal's newest record. The journal wins in both directions: a manifest
behind it replays the newest record onto the status, and one ahead of it means that records were cut
off, so that their sequences are about to be used again. -/
def followJournal (manifest : ConversationManifest) (lastEvent : Option ConversationEvent) :
    StoreM ConversationManifest := do
  let journalSequence := lastEvent.elim 0 (·.sequence)
  if manifest.lastSequence = journalSequence then return manifest
  let manifest := match lastEvent.filter fun _ => manifest.lastSequence < journalSequence with
    | some event => { manifest with
      status := statusAfterConversationEvent manifest.status event, updatedAt := event.time }
    | none => manifest
  if journalSequence < manifest.lastSequence then
    .modify fun state => { state with keys := state.keys.abandon }
  return { manifest with lastSequence := journalSequence }

/-- The events of a batch. -/
def batchEvents (manifest : ConversationManifest) (stamps : Nat → String × DateTime)
    (prepared : List (String × Json)) : List ConversationEvent :=
  prepared.mapIdx fun offset entry =>
    { ConversationEvent.new (stamps offset).1 (truncateToMicros (stamps offset).2)
        config.conversationId (manifest.lastSequence + (offset + 1)) entry.1 entry.2 with
      provider := some manifest.provider }

/-- Terminate the last numbered file that is not empty. -/
def closeLast (journal : Journal) : Journal :=
  { journal with numbered := terminateLast journal.numbered, tail := none }

/-- Close a torn final record that a numbered plaintext file owns; one of the active file is closed
by a separator before the new line. -/
def closeTorn (io : AppendIo) (terminated : Bool) : StoreM Bool := do
  let journal := (← .get).journal
  if terminated then return true
  match journal.active.filter (· ≠ []), journal.lastFile with
  | none, some (.plain _) =>
    match io.closing with
    | some (newline, error) =>
      if newline then
        .modify fun state => { state with journal := closeLast state.journal }
      .fail error
    | none =>
      .modify fun state => { state with journal := closeLast state.journal }
      .failWith io.relisting
      return true
  | _, none => return true
  | _, _ => return false

/-- The current key, or the newest one in memory when there can be no new key. -/
def currentOrFallbackKey (io : KeyIo) : StoreM (String × SegmentKey) := do
  match ← .attempt (.zoom StoreState.keys (fun keys state => { state with keys })
    (ConversationKeys.currentKeyFor P io)) with
  | .ok current => return current
  | .error error =>
    match (← .get).keys.fallbackKey with
    | some previous => return previous
    | none => .fail error

/-- The key the next record is sealed under. -/
def recordKey (io : RecordKeyIo) : StoreM (Option (String × SegmentKey × FingerprintKey)) :=
  if config.history then do
    let (kid, key) ← currentOrFallbackKey P io.toKeyIo
    let fingerprint ← .ofExcept io.fingerprint
    return some (kid, key, fingerprint)
  else return none

/-- Whether the active file reached a size. -/
def activeReached (journal : Journal) (size : Nat) : Bool :=
  journal.active.any (size ≤ ·.length)

/-- The active file with a newline at its end. -/
def closeActive (journal : Journal) : Journal :=
  { journal with active := some (journal.active.getD [] ++ [Bytes.newline]), tail := none }

/-- The active file under the next number. -/
def renameActive (fresh : Bool) (journal : Journal) : Journal where
  numbered := journal.numbered ++ [.plain (journal.active.getD [])]
  active := if fresh then some [] else none
  tail := none

/-- After the active file was renamed. Each key's records stay inside one sealed file, so a new file
takes a new key, unless the key was just replaced. -/
def afterRename (io : AppendIo) (keyExpiring : Bool) (key : Option (String × SegmentKey × FingerprintKey)) :
    StoreM (Option (String × SegmentKey × FingerprintKey)) :=
  if config.history && !keyExpiring then do
    .modify fun state => { state with keys := state.keys.rotate }
    recordKey P config io.nextKey
  else return key

/-- Seal the active file if it is full or its key expires. A torn record is terminated before. A
failed rotation costs nothing: the append goes to the file as it is. -/
def rotateActive (io : AppendIo) (keyExpiring terminated : Bool)
    (key : Option (String × SegmentKey × FingerprintKey)) :
    StoreM (Bool × Option (String × SegmentKey × FingerprintKey)) := do
  if keyExpiring || activeReached (← .get).journal config.segmentBytes then
    match io.rotation with
    | .renamed fresh =>
      .modify fun state =>
        let closed := if terminated then state.journal else closeActive state.journal
        { state with journal := renameActive fresh closed }
      return (true, ← afterRename P config io keyExpiring key)
    | .stuck newline reread =>
      if terminated then return (true, key)
      else
        .modify fun state => { state with
          journal := if newline then closeActive state.journal else state.journal }
        .failWith io.relisting
        let (_, terminated) ← readLastEventIn P config.conversationId reread
        return (terminated, key)
  else return (terminated, key)

/-- The stored form of an event: sealed, if there is a key. -/
def storedEvent (key : Option (String × SegmentKey × FingerprintKey)) (event : ConversationEvent) :
    ConversationEvent :=
  match key with
  | some (kid, key, fingerprint) => storedForm P fingerprint kid key event
  | none => event

/-- The bytes of one write: a separator if the active file is torn, and a line for each record. -/
def journalLines (separator : Bool) (events : List ConversationEvent) : Bytes :=
  (if separator then [Bytes.newline] else []) ++
    events.flatMap fun event => encodeRecord event ++ [Bytes.newline]

/-- Commit the records. A failed write retires the key they were sealed under. -/
def commitLines (io : AppendIo) (terminated : Bool) (events : List ConversationEvent) : StoreM Unit := do
  let separator := !terminated && (← .get).journal.active.any (· ≠ [])
  match ← .attempt (appendJournalLine (journalLines separator events) io.write) with
  | .ok () => return ()
  | .error error =>
    .modify fun state => { state with keys := state.keys.abandon, journal.tail := none }
    .fail error

/-- Mirror the committed records in the manifest and publish them. Only a status change is written
at once. -/
def mirrorCommitted (io : AppendIo) (publish : Bool) (persistedStatus : ConversationStatus)
    (manifest : ConversationManifest) (events : List ConversationEvent) : StoreM (List ConversationEvent) := do
  match events.getLast? with
  | none => .fail (.other "a batch holds at least one event")
  | some lastEvent =>
    .modify fun state => { state with journal.tail := some lastEvent }
    let manifest := { manifest with
      lastSequence := lastEvent.sequence
      status := events.foldl statusAfterConversationEvent manifest.status
      updatedAt := lastEvent.time }
    if manifest.status = persistedStatus then markManifestDirtyLocked manifest
    else persistManifestLocked manifest io.persist
    if publish then
      .modify fun state => { state with published := state.published ++ events }
    return events

/-- Append `entries` as consecutive records; `publish` tells whether there is a hub. -/
def appendBatchLocked (entries : List (String × Json)) (publish : Bool) (io : AppendIo) :
    StoreM (List ConversationEvent) := do
  let prepared ← .ofExcept (entries.mapM config.prepare)
  let manifest ← getUnlocked io.manifest
  if manifest.legacyPlaintext then .fail (.other "HISTORY_READ_ONLY")
  let persistedStatus := manifest.status
  .failWith io.listing
  let (lastEvent, terminated) ← readLastEventIn P config.conversationId io.tail
  let manifest ← followJournal manifest lastEvent
  let events := batchEvents config manifest io.stamps prepared
  let terminated ← closeTorn io terminated
  let state ← .get
  let keyExpiring := config.history && (0 < config.sealMinBytes : Bool) &&
    activeReached state.journal config.sealMinBytes && state.keys.activeKeyExpired io.now
  let key ← recordKey P config io.key
  let (terminated, key) ← rotateActive P config io keyExpiring terminated key
  let stored := events.map (storedEvent P key)
  commitLines io terminated stored
  mirrorCommitted io publish persistedStatus manifest stored

/-! ### Runs -/

/-- What happens to a conversation of the store. -/
inductive StoreOp
  | append (entries : List (String × Json)) (publish : Bool) (io : AppendIo)
  /-- The manifest's flush timer fires. -/
  | flush (io : Option AppError)
  /-- The cached newest record is dropped. -/
  | evict
  /-- The daemon restarts: its caches and its keys are gone. -/
  | restart

/-- The state after an operation. -/
def storeStep (state : StoreState) : StoreOp → StoreState
  | .append entries publish io => (appendBatchLocked P config entries publish io state).2
  | .flush io => (flushManifestLocked io state).2
  | .evict => { state with journal.tail := none }
  | .restart => { state with journal.tail := none, cached := none, keys := {} }

/-- The records an operation reported as appended. -/
def reported (state : StoreState) : StoreOp → List ConversationEvent
  | .append entries publish io =>
    match (appendBatchLocked P config entries publish io state).1 with
    | .ok events => events
    | .error _ => []
  | _ => []

/-- The state after a run. -/
def storeRun (state : StoreState) (ops : List StoreOp) : StoreState :=
  ops.foldl (storeStep P config) state

/-- The records a run reported as appended, in order. -/
def reportedRun (state : StoreState) : List StoreOp → List ConversationEvent
  | [] => []
  | op :: ops => reported P config state op ++ reportedRun (storeStep P config state op) ops

end Todex
