import Todex.Lib.Lines
import Todex.Lib.Outbox
import Todex.Lib.Program

/-!
# The audit trail

Records are lines of a file that is rotated when it has grown. Some are written and synced at once, some
wait in a queue for the next write. A write that fails puts what it took from the queue back in front, and
the next one opens the file again.
-/

namespace Todex

open Bytes

/-- `MAX_AUDIT_FILE_BYTES`. -/
def maxAuditFileBytes : ℕ := 16 * 1024 * 1024

/-- `RETAINED_AUDIT_FILES`. -/
def retainedAuditFiles : ℕ := 3

/-- `ROTATION_RETRY_DELAY`, in seconds. -/
def rotationRetryDelay : ℕ := 60

/-- `MAX_PENDING_BATCH_LINES`. -/
def maxPendingBatchLines : ℕ := 10000

/-- A record, serialized, with its audit directory. The text of a JSON value has no newline. -/
structure AuditRecord where
  directory : String
  text : Bytes
  plain : newline ∉ text
deriving DecidableEq

def AuditRecord.line (self : AuditRecord) : Bytes := self.text ++ [newline]

/-- The files of a directory. -/
structure AuditFiles where
  live : Bytes
  /-- Newest first. -/
  rotated : List Bytes
  /-- What rotations have replaced, newest first. -/
  dropped : List Bytes

namespace AuditFiles

variable (self : AuditFiles)

/-- The lines of the live and the rotated files, oldest first. -/
def lines : List Bytes := (self.live :: self.rotated).reverse.flatMap terminatedLines

/-- The lines of all files that there have been. -/
def allLines : List Bytes := (self.live :: self.rotated ++ self.dropped).reverse.flatMap terminatedLines

def push (bytes : Bytes) : AuditFiles := { self with live := self.live ++ bytes }

/-- The renames of `rotate`, when they succeed. -/
def rotate : AuditFiles where
  live := []
  rotated := (self.live :: self.rotated).take retainedAuditFiles
  dropped := (self.live :: self.rotated).drop retainedAuditFiles ++ self.dropped

end AuditFiles

structure OpenAuditFile where
  directory : String
  len : ℕ
  rotationRetryAt : Option ℕ

structure AuditTrail where
  files : String → AuditFiles
  /-- The file that is open. -/
  handle : Option OpenAuditFile

/-- What goes wrong in one call of `append_line`. -/
structure AuditFaults where
  now : ℕ
  /-- The sync before the handle is closed. -/
  closes : Bool
  opens : Bool
  /-- The sync before a rotation. -/
  rotationCloses : Bool
  /-- The first rename of a rotation. -/
  rotates : Bool
  reopens : Bool
  /-- The write stops after so many bytes. -/
  stops : Option ℕ

namespace AuditTrail

/-- `close_synced`. -/
def closeSynced (fails : Bool) : Program AuditTrail String Unit := fun self =>
  match self.handle with
  | none => (.ok (), self)
  | some _ => (if fails then .error "sync" else .ok (), { self with handle := none })

/-- `open_audit_file`, and the handle is kept. -/
def openAuditFile (directory : String) (rotationRetryAt : Option ℕ) (fails : Bool) :
    Program AuditTrail String Unit := fun self =>
  if fails then (.error "open", self)
  else
    (.ok (), { self with
      handle := some { directory, len := (self.files directory).live.length, rotationRetryAt } })

/-- The file of the directory is opened, unless it is. -/
def ensureOpen (F : AuditFaults) (directory : String) : Program AuditTrail String Unit := fun self =>
  if self.handle.all (·.directory ≠ directory) then
    (do
      closeSynced F.closes
      openAuditFile directory none F.opens) self
  else (.ok (), self)

def rotationDue (self : AuditTrail) (now : ℕ) (line : Bytes) : Bool :=
  self.handle.any fun current =>
    0 < current.len ∧ maxAuditFileBytes < current.len + line.length ∧
      current.rotationRetryAt.all (· ≤ now)

/-- `rotate`. -/
def rotateFiles (directory : String) (fails : Bool) : Program AuditTrail String Unit :=
  .modify fun self =>
    if fails then self
    else { self with files := Function.update self.files directory (self.files directory).rotate }

/-- A file that has grown is rotated. Where this fails, the live file is used on for a while. -/
def rotateIfDue (F : AuditFaults) (directory : String) (line : Bytes) : Program AuditTrail String Unit :=
  fun self =>
    if self.rotationDue F.now line then
      (do
        closeSynced F.rotationCloses
        rotateFiles directory F.rotates
        openAuditFile directory (if F.rotates then some (F.now + rotationRetryDelay) else none) F.reopens) self
    else (.ok (), self)

/-- `write_all`. -/
def writeAll (F : AuditFaults) (directory : String) (line : Bytes) : Program AuditTrail String Unit :=
  fun self =>
    match F.stops with
    | some n =>
      (.error "write", { self with
        files := Function.update self.files directory ((self.files directory).push (line.take n)) })
    | none =>
      (.ok (), { self with
        files := Function.update self.files directory ((self.files directory).push line)
        handle := self.handle.map fun current => { current with len := current.len + line.length } })

/-- `append_line`. -/
def appendLine (F : AuditFaults) (record : AuditRecord) : Program AuditTrail String Unit := do
  ensureOpen F record.directory
  rotateIfDue F record.directory record.line
  writeAll F record.directory record.line

end AuditTrail

/-! ### Writes of the queue -/

/-- A call of `write_pending` that holds the file. -/
structure AuditWrite where
  /-- What it has taken from the queue. -/
  lines : List AuditRecord
  line : Option AuditRecord
  written : ℕ

namespace AuditWrite

variable (self : AuditWrite)

def taken : List AuditRecord := self.lines ++ self.line.toList

/-- What is not written yet. -/
def rest : List AuditRecord := self.taken.drop self.written

/-- How many of the records of the queue are stored for sure. -/
def stored : ℕ := if self.written = self.taken.length then 0 else min self.written self.lines.length

/-- The records that go back to the queue after a failure. -/
def requeued : List AuditRecord := self.lines.drop self.stored

end AuditWrite

structure AuditState where
  trail : AuditTrail
  /-- The queue. -/
  lines : List AuditRecord
  failed : Bool
  writing : Option AuditWrite
  /-- The records whose call has returned without an error, or is being written, in the order of the calls. -/
  accepted : List AuditRecord

namespace AuditState

variable (self : AuditState)

/-- What is in the queue, or was taken from it to be written. -/
def pending : List AuditRecord := (self.writing.map AuditWrite.rest).getD [] ++ self.lines

/-- A record that is in none of the files, nor waits for it. Each record has an id of its own. -/
def Fresh (record : AuditRecord) : Prop :=
  record.text ∉ (self.trail.files record.directory).allLines ∧
    ∀ other ∈ self.accepted, other.directory = record.directory → other.text ≠ record.text

/-- The queue is taken. -/
def beginWrite (line : Option AuditRecord) : AuditState :=
  { self with
    lines := []
    writing := some { lines := self.lines, line, written := 0 }
    accepted := self.accepted ++ line.toList }

/-- The record is written. -/
def written (write : AuditWrite) (trail : AuditTrail) : AuditState :=
  { self with trail, writing := some { write with written := write.written + 1 } }

/-- Everything is written and synced. -/
def finished : AuditState := { self with failed := false, writing := none }

/-- The oldest records go when there are too many. -/
def capped (records : List AuditRecord) : List AuditRecord :=
  records.drop (records.length - maxPendingBatchLines)

/-- The write has failed. -/
def writeFailed (write : AuditWrite) (trail : AuditTrail) : AuditState :=
  { trail := { trail with handle := none }
    lines := if write.requeued = [] then self.lines else capped (write.requeued ++ self.lines)
    failed := self.failed ∨ write.requeued ≠ []
    writing := none
    accepted := write.line.elim self.accepted self.accepted.erase }

end AuditState

inductive AuditStep : AuditState → AuditState → Prop
  /-- `append_batched`. -/
  | batched {s : AuditState} (record : AuditRecord) (hfailed : s.failed = false) (hfresh : s.Fresh record) :
      AuditStep s { s with lines := s.lines ++ [record], accepted := s.accepted ++ [record] }
  /-- `append`, or a flush. -/
  | beginWrite {s : AuditState} (line : Option AuditRecord) (hwriting : s.writing = none)
      (hfresh : ∀ record ∈ line, s.Fresh record) (hsome : s.lines ≠ [] ∨ line.isSome) :
      AuditStep s (s.beginWrite line)
  | written {s : AuditState} (F : AuditFaults) (write : AuditWrite) (record : AuditRecord) (trail : AuditTrail)
      (hwriting : s.writing = some write) (hnext : write.rest.head? = some record)
      (happend : AuditTrail.appendLine F record s.trail = (.ok (), trail)) :
      AuditStep s (s.written write trail)
  | writeFails {s : AuditState} (F : AuditFaults) (write : AuditWrite) (record : AuditRecord)
      (error : String) (trail : AuditTrail) (hwriting : s.writing = some write)
      (hnext : write.rest.head? = some record)
      (happend : AuditTrail.appendLine F record s.trail = (.error error, trail)) :
      AuditStep s (s.writeFailed write trail)
  | synced {s : AuditState} (write : AuditWrite) (hwriting : s.writing = some write)
      (hrest : write.rest = []) : AuditStep s s.finished
  | syncFails {s : AuditState} (write : AuditWrite) (hwriting : s.writing = some write)
      (hrest : write.rest = []) (hhandle : s.trail.handle.isSome) :
      AuditStep s (s.writeFailed write s.trail)

/-- A run all of whose states meet a condition. -/
inductive AuditRun (Meets : AuditState → Prop) : AuditState → AuditState → Prop
  | refl (s : AuditState) (hmeets : Meets s) : AuditRun Meets s s
  | step {s t u : AuditState} (run : AuditRun Meets s t) (step : AuditStep t u) (hmeets : Meets u) :
      AuditRun Meets s u

end Todex
