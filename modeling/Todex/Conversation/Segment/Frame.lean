import Todex.Conversation.Digest
import Todex.Conversation.Record
import Todex.Lib.Lines
import Todex.Text

/-!
# Sealed segments and their reader

A sealed segment is a `.seg` file of compressed frames and an `.idx` file that lists them. A frame
holds the envelope lines, the summaries or the full contents of consecutive records.
-/

namespace Todex

open Json (Members)

def segmentMagic : Bytes := Bytes.ofString "TDXSEG1\n"

/-- Bytes of a segment id. -/
def segmentIdBytes : Nat := 16

def segmentHeaderBytes : Nat := segmentMagic.length + segmentIdBytes

def frameHeaderBytes : Nat := 36

def indexVersion : Nat := 1

def streamEnvelope : UInt8 := 0

def streamSummary : UInt8 := 3

def streamFull : UInt8 := 4

/-- The three streams of a segment, by their position in `STREAMS`. -/
inductive Slot
  | envelope | summary | full
deriving DecidableEq

def streamSlot (stream : UInt8) : Option Slot :=
  if stream = streamEnvelope then some .envelope
  else if stream = streamSummary then some .summary
  else if stream = streamFull then some .full
  else none

/-- The counter of sealed frame `ordinal` in segment `number`. -/
def frameCounter (number ordinal : Nat) : Nat := number <<< 32 % 2 ^ 64 ||| ordinal

/-- `SegmentError`; `json` is `Invalid` with a message of the JSON library. -/
inductive SegmentError
  | io
  | invalid (reason : String)
  | json
deriving DecidableEq

def orInvalid {α : Type} (reason : String) : Option α → Except SegmentError α
  | some a => .ok a
  | none => .error (.invalid reason)

def orJson {α : Type} : Option α → Except SegmentError α
  | some a => .ok a
  | none => .error .json

@[simp] lemma ok_bind (a : α) (f : α → Except ε β) : (Except.ok a >>= f) = f a := rfl

/-- What the items of a content frame are. -/
inductive FrameGroup
  | plain
  | passthrough
  | sealed (kid : String)
deriving DecidableEq

/-- One frame of a `.seg` file, as listed in its `.idx`. -/
structure FrameEntry where
  stream : UInt8
  /-- Sequence of the frame's first record. -/
  first : Nat
  count : Nat
  /-- Offset of the frame data in the `.seg` file. -/
  offset : Nat
  /-- Stored length. -/
  len : Nat
  /-- Decompressed length. -/
  raw : Nat
  kid : Option String
  passthrough : Bool
  /-- Frame number under its group and stream in this segment. -/
  ordinal : Nat
  crc : Nat
deriving DecidableEq

namespace FrameEntry

def group (self : FrameEntry) : FrameGroup :=
  match self.kid, self.passthrough with
  | some kid, _ => .sealed kid
  | none, true => .passthrough
  | none, false => .plain

def contains (self : FrameEntry) (sequence : Nat) : Bool :=
  self.first ≤ sequence ∧ sequence < self.first + self.count

end FrameEntry

/-- The checksummed body of an `.idx` file. -/
structure SegmentIndexBody where
  version : Nat
  firstSequence : Nat
  lastSequence : Nat
  segmentId : String
  segBytes : Nat
  segSha256 : String
  /-- Plaintext journal files this segment replaced. -/
  sources : List String
  /-- Records slimming replaced with markers. -/
  slimmed : Nat
  frames : List FrameEntry
  digest : JournalDigest

/-- A sealed segment as readers keep it: its range and its frames. -/
structure SealedSegment where
  number : Nat
  first : Nat
  last : Nat
  segmentId : String
  frames : List FrameEntry
  /-- The frames of a stream, in sequence order. -/
  byStream : Slot → List FrameEntry

namespace SealedSegment

/-- The entry of the chunk with number `s`: the last one that starts at or before it. -/
def chunkAt {ε : Type} (first : ε → Nat) (es : List ε) (s : Nat) : Option ε :=
  (es.takeWhile fun e => first e ≤ s).getLast?

/-- The frame of a stream that holds `sequence`. -/
def frame (self : SealedSegment) (slot : Slot) (sequence : Nat) : Option FrameEntry :=
  (chunkAt FrameEntry.first (self.byStream slot) sequence).filter (·.contains sequence)

/-- A frame lies in the file and has a known stream. -/
def checkFrame (segBytes : Nat) (frame : FrameEntry) : Except SegmentError Unit :=
  let stream := frame.stream
  if (streamSlot stream).isNone then .error (.invalid s!"unknown frame stream {stream}")
  else if frame.count = 0 ∨ frame.offset < segmentHeaderBytes + frameHeaderBytes ∨
      segBytes < frame.offset + frame.len ∨
      frame.stream = streamEnvelope ∧ frame.group ≠ .plain then
    .error (.invalid "segment index lists a frame outside its file")
  else .ok ()

/-- The frames of a stream, sorted. -/
def streamFrames (frames : List FrameEntry) (slot : Slot) : List FrameEntry :=
  (frames.filter (streamSlot ·.stream = some slot)).mergeSort fun a b => a.first ≤ b.first

/-- The sequence after contiguous frames. -/
def checkContiguous : List FrameEntry → Nat → Except SegmentError Nat
  | [], expected => .ok expected
  | frame :: frames, expected =>
    if frame.first ≠ expected then
      .error (.invalid "segment index frames are not contiguous")
    else checkContiguous frames (expected + frame.count)

/-- The frames of a stream cover the segment. -/
def checkStream (body : SegmentIndexBody) (slot : Slot) : Except SegmentError Unit := do
  let expected ← checkContiguous (streamFrames body.frames slot) body.firstSequence
  if expected ≠ body.lastSequence + 1 then
    .error (.invalid "segment index frames do not cover the segment")

/-- Whether the other content stream has a frame of the same records under the same key. -/
def isPaired (self : SealedSegment) (frame : FrameEntry) : Bool :=
  let other := if frame.stream = streamFull then Slot.summary else Slot.full
  (self.frame other frame.first).any fun pair =>
    pair.first = frame.first ∧ pair.count = frame.count ∧ pair.kid = frame.kid

/-- The segment an index describes. -/
def ofBody (number : Nat) (body : SegmentIndexBody) : SealedSegment where
  number
  first := body.firstSequence
  last := body.lastSequence
  segmentId := body.segmentId
  frames := body.frames
  byStream := streamFrames body.frames

def fromBody (number : Nat) (body : SegmentIndexBody) : Except SegmentError SealedSegment := do
  let version := body.version
  if version ≠ indexVersion then
    .error (.invalid s!"segment index version {version} is not supported")
  if body.firstSequence = 0 ∨ body.lastSequence < body.firstSequence then
    .error (.invalid "segment index has an invalid sequence range")
  body.frames.forM (checkFrame body.segBytes)
  [Slot.envelope, .summary, .full].forM (checkStream body)
  let segment := ofBody number body
  if segment.frames.any fun frame => frame.kid.isSome && !segment.isPaired frame then
    .error (.invalid "sealed segment frames are not aligned")
  return segment

/-- The wire id of a frame. -/
def frameId (self : SealedSegment) (frame : FrameEntry) : String :=
  self.segmentId ++ "-" ++ String.ofList (Nat.toDigits 16 frame.offset)

end SealedSegment

/-! ### Reading frames -/

variable (P : Primitives)

/-- Inflate a frame that must hold exactly `raw` bytes. -/
def inflate (compressed : Bytes) (raw : Nat) : Except SegmentError Bytes := do
  let output ← orInvalid "frame does not decompress" (P.inflate compressed)
  if output.length ≠ raw then .error (.invalid "frame decompressed to an unexpected length")
  return output

/-- The items of a frame: lines of the envelope stream, array elements of a content stream. -/
def decodeFrame (stream : UInt8) (bytes : Bytes) (count : Nat) : Except SegmentError (List Bytes) := do
  let items ← if stream = streamEnvelope then .ok (Bytes.terminatedLines bytes)
    else orJson (((Bytes.toChars? bytes).bind Json.rawArray).map (·.map Bytes.ofChars))
  if items.length ≠ count then .error (.invalid "frame record count does not match its index")
  return items

/-- The stored bytes of one frame. -/
def readStored (file : Bytes) (entry : FrameEntry) : Except SegmentError Bytes :=
  let stored := (file.drop entry.offset).take entry.len
  -- `read_exact` fails at the end of the file
  if stored.length = entry.len then .ok stored else .error .io

/-- The stored ciphertext of a sealed frame, checked against its CRC. -/
def readSealed (file : Bytes) (entry : FrameEntry) : Except SegmentError Bytes := do
  let stored ← readStored file entry
  if P.crc32 stored ≠ entry.crc then .error (.invalid "sealed frame checksum mismatch")
  return stored

/-- Read and decompress one frame that is not sealed. -/
def loadFrame (file : Bytes) (entry : FrameEntry) : Except SegmentError (List Bytes) := do
  if entry.kid.isSome then .error (.invalid "a sealed frame cannot be read by the daemon")
  let stored ← readStored file entry
  let raw ← inflate P stored entry.raw
  if P.crc32 raw ≠ entry.crc then .error (.invalid "frame checksum mismatch")
  decodeFrame entry.stream raw entry.count

/-! ### Reading records -/

/-- A sealed frame one replayed record refers to. -/
structure FrameRef where
  id : String
  entry : FrameEntry

/-- One record read back from a segment. -/
structure SegmentRecord where
  event : ConversationEvent
  /-- Journal bytes for page budgets. -/
  bytes : Nat
  frame : Option FrameRef

/-- Journal bytes of one record for replay page budgets. -/
def recordBytes (envelopeBytes contentBytes : Nat) : Nat :=
  envelopeBytes + contentBytes + (Bytes.ofString ",\"c\":").length

/-- Reads records of one sealed segment. -/
structure SegmentReader where
  segment : SealedSegment
  file : Bytes
  conversationId : String

namespace SegmentReader

def entry (self : SegmentReader) (slot : Slot) (sequence : Nat) : Except SegmentError FrameEntry :=
  orInvalid s!"no frame holds sequence {sequence}" (self.segment.frame slot sequence)

def frameItem (self : SegmentReader) (entry : FrameEntry) (sequence : Nat) : Except SegmentError Bytes := do
  let items ← loadFrame P self.file entry
  orInvalid s!"frame lacks sequence {sequence}" items[sequence - entry.first]?

/-- The `$enc` object of a record in sealed frames. -/
def frameReference (self : SegmentReader) (kid : String) (summary full : FrameEntry)
    (sequence : Nat) : Members :=
  let reference := Members.ofList [("s", .string (self.segment.frameId summary)),
    ("f", .string (self.segment.frameId full)), ("i", .nat (sequence - full.first))]
  let encrypted := Members.insert "v" (.nat 1) []
  let encrypted := encrypted.insert "kid" (.string kid)
  let encrypted := encrypted.insert "c" (.string self.conversationId)
  let encrypted := encrypted.insert "n" (.nat sequence)
  encrypted.insert "fr" (.object reference)

/-- The payload of a record, the bytes of its content and the sealed frame it is in. -/
def content (self : SegmentReader) (record : RecordIn) (sequence : Nat) (summary : Bool) :
    Except SegmentError (Json × Nat × Option FrameRef) := do
  let full ← self.entry .full sequence
  match full.group with
  | .plain =>
    let content ← self.frameItem P full sequence
    return (← orJson (fromSlice P content), content.length, none)
  | .passthrough =>
    let entry ← if summary then self.entry .summary sequence else .ok full
    let content ← self.frameItem P entry sequence
    let encrypted ← orJson ((fromSlice P content).bind Json.asObject)
    return (.object (record.e.insert encryptedField (.object encrypted)), content.length, none)
  | .sealed kid =>
    let summaryEntry ← self.entry .summary sequence
    let encrypted := self.frameReference kid summaryEntry full sequence
    let entry := if summary then summaryEntry else full
    return (.object (record.e.insert encryptedField (.object encrypted)), 0,
      some { id := self.segment.frameId entry, entry })

/-- The record with `sequence`. -/
def record (self : SegmentReader) (sequence : Nat) (summary : Bool) : Except SegmentError SegmentRecord := do
  let envelopeEntry ← self.entry .envelope sequence
  let envelope ← self.frameItem P envelopeEntry sequence
  let record ← orJson (parseRecord P envelope)
  let held := record.s
  if held ≠ sequence then
    .error (.invalid s!"envelope frame holds sequence {held} where {sequence} belongs")
  let (payload, contentBytes, frame) ← self.content P record sequence summary
  let event ← orInvalid s!"record {held} has an invalid time"
    (record.intoEvent self.conversationId (some payload))
  return { event, bytes := recordBytes envelope.length contentBytes, frame }

/-- The record with `sequence` and its journal bytes, in full detail. -/
def event (self : SegmentReader) (sequence : Nat) : Except SegmentError (ConversationEvent × Nat) := do
  let record ← self.record P sequence false
  return (record.event, record.bytes)

/-- The wire form of a sealed frame. -/
def wireFrame (self : SegmentReader) (entry : FrameEntry) : Except SegmentError Json := do
  let kid ← orInvalid "only sealed frames are sent as frames" entry.kid
  let stored ← readSealed P self.file entry
  let stream := if entry.stream = streamSummary then ContentStream.frameSummary
    else ContentStream.frameFull
  return .object (Members.ofList [("kid", .string kid), ("stream", .nat stream.asU32),
    ("counter", .nat (frameCounter self.segment.number entry.ordinal)),
    ("c", .string self.conversationId), ("ct", .string (P.encodeBase64 stored))])

end SegmentReader

end Todex
