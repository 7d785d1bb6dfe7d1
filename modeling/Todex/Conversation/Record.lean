import Todex.Conversation.Envelope

/-!
# Journal record encoding

A journal line is a record with short keys. Reads also accept the full events and the compacted
markers of older journals.
-/

namespace Todex

open Json (Members)

variable (P : Primitives)

/-! ### Times -/

namespace DateTime

/-- `timestamp_micros`. -/
def timestampMicros (time : DateTime) : Int := time.nanos / 1000

/-- The nanoseconds below a microsecond. -/
def subMicroNanos (time : DateTime) : Nat := (time.nanos % 1000).toNat

/-- The instant with this many nanoseconds since the epoch. -/
def ofNanos? (nanos : Int) : Option DateTime :=
  if h : minNanos ≤ nanos ∧ nanos ≤ maxNanos then some ⟨nanos, h⟩ else none

/-- `DateTime::from_timestamp_micros`. -/
def fromTimestampMicros (micros : Int) : Option DateTime := ofNanos? (micros * 1000)

end DateTime

/-! ### Writing -/

/-- Every v3 record line starts with this. -/
def v3RecordStart : List Char := ['\x7b', '"', 's', '"', ':']

/-- Every compacted marker line of an older journal starts with this. -/
def compactedRecordStart : List Char := ('\x7b' :: "\"sequence\":".toList)

/-- Type of the marker that stands for a stripped record. -/
def journalCompactedEvent : String := "journal.compacted"

/-- The members of a struct in wire order; one without a value is left out. -/
def wireMembers (l : List (String × Option Json)) : List (String × Json) :=
  l.filterMap fun e => e.2.map (e.1, ·)

/-- The fields of a v3 record. -/
def recordFields (event : ConversationEvent) (content encrypted : Option Json) :
    List (String × Option Json) :=
  let envelope := envelopeFields event.eventType event.payload
  let nanos := event.time.subMicroNanos
  [("s", some (.nat event.sequence)),
    ("i", some (.string event.eventId)),
    ("t", some (.number (.ofInt event.time.timestampMicros))),
    ("y", some (.string event.eventType)),
    ("r", event.rawType.map .string),
    ("p", event.provider.map fun p => .string p.asStr),
    ("n", match event.normalizedType with
      | some value =>
        if value = normalizedEventType event.eventType then none else some (.string value)
      | none => some (.string "")),
    ("tn", if nanos > 0 then some (.nat nanos) else none),
    ("e", if envelope.isEmpty then none else some (.object envelope)),
    ("c", content),
    ("x", encrypted)]

/-- A v3 record; with neither `c` nor `x` it is an envelope line of a sealed segment. -/
def recordOut (event : ConversationEvent) (content encrypted : Option Json) : Json :=
  .object (wireMembers (recordFields event content encrypted))

/-- The `$enc` member of a payload if it is an object. -/
def encryptedMember (payload : Json) : Option Json :=
  (payload.get encryptedField).filter Json.isObject

/-- The journal line of an event, without its newline. -/
def encodeRecord (event : ConversationEvent) : Bytes :=
  toVec <| match encryptedMember event.payload with
    | some encrypted => recordOut event none (some encrypted)
    | none => recordOut event (some event.payload) none

/-- The line of an event in the envelope stream of a sealed segment. -/
def encodeEnvelope (event : ConversationEvent) : Bytes := toVec (recordOut event none none)

/-! ### Reading -/

/-- A parsed v3 record or envelope line. -/
structure RecordIn where
  s : Nat
  i : String
  t : Int
  y : String
  r : Option String
  p : Option ProviderKind
  n : Option String
  tn : Option Nat
  e : Members
  c : Option Json
  x : Option Json

/-- A member of a struct: a repeated one is an error, a missing one is `none`. -/
def structField (m : List (String × Json)) (key : String) : Option (Option Json) :=
  match m.filter (·.1 = key) with
  | [] => some none
  | [(_, value)] => some (some value)
  | _ => none

/-- A member that must be there. -/
def requiredField {α : Type} (m : List (String × Json)) (key : String) (read : Json → Option α) :
    Option α :=
  (structField m key).join.bind read

/-- An optional member; `null` counts as missing. -/
def optionalField {α : Type} (m : List (String × Json)) (key : String) (read : Json → Option α) :
    Option (Option α) :=
  match structField m key with
  | none => none
  | some none => some none
  | some (some .null) => some none
  | some (some value) => (read value).map some

def readU64 : Json → Option Nat := Json.asU64

def readU32 (value : Json) : Option Nat := value.asU64.filter (· < 2 ^ 32)

def readI64 : Json → Option Int
  | .number n => n.asI64
  | _ => none

def readProvider (value : Json) : Option ProviderKind := value.asStr.bind ProviderKind.ofName?

/-- A value inside the struct of a line, one level down. -/
def readValue (value : Json) : Option Json := value.interpret P.float (Json.nestingLimit - 1)

/-- An object inside the struct of a line. -/
def readMap (value : Json) : Option Members := (readValue P value).bind Json.asObject

/-- A map member that defaults to the empty map. -/
def mapField (m : List (String × Json)) (key : String) : Option Members :=
  match structField m key with
  | none => none
  | some none => some []
  | some (some value) => readMap P value

/-- `RecordIn` of the members of a line. -/
def RecordIn.ofMembers (m : List (String × Json)) : Option RecordIn := do
  return {
    s := ← requiredField m "s" readU64
    i := ← requiredField m "i" Json.asStr
    t := ← requiredField m "t" readI64
    y := ← requiredField m "y" Json.asStr
    r := ← optionalField m "r" Json.asStr
    p := ← optionalField m "p" readProvider
    n := ← optionalField m "n" Json.asStr
    tn := ← optionalField m "tn" readU32
    e := ← mapField P m "e"
    c := ← optionalField m "c" (readValue P)
    x := ← optionalField m "x" (readValue P) }

/-- The members of a line that is a JSON object. -/
def lineMembers (line : Bytes) : Option (List (String × Json)) := do
  (← Json.parse (← Bytes.toChars? line)).asObject

/-- `parse_record`. -/
def parseRecord (line : Bytes) : Option RecordIn := (lineMembers line).bind (RecordIn.ofMembers P)

namespace RecordIn

/-- The time of a record. -/
def time (self : RecordIn) : Option DateTime :=
  (DateTime.fromTimestampMicros self.t).map fun time =>
    match self.tn.filter fun nanos => 0 < nanos ∧ nanos < 1000 with
    | some nanos => (DateTime.ofNanos? (time.nanos + nanos)).getD time
    | none => time

/-- A record spells the normalized type out only where recomputing it gives another one. -/
def normalizedType (self : RecordIn) : Option String :=
  match self.n with
  | none => some (normalizedEventType self.y)
  | some value => if value = "" then none else some value

/-- The payload; encrypted content becomes the stored form. -/
def payload (self : RecordIn) (content : Option Json) : Option Json :=
  match content.or self.c, self.x with
  | some payload, _ => some payload
  | none, some (.object encrypted) =>
    some (.object (self.e.insert encryptedField (.object encrypted)))
  | none, _ => none

/-- The event a record describes; `content` replaces `c` when the payload is stored elsewhere. -/
def intoEvent (self : RecordIn) (conversationId : String) (content : Option Json) : Option ConversationEvent := do
  return {
    schemaVersion := conversationSchemaVersion
    sequence := self.s
    eventId := self.i
    conversationId
    time := ← self.time
    eventType := self.y
    normalizedType := self.normalizedType
    rawType := self.r
    provider := self.p
    payload := ← self.payload content }

end RecordIn

/-- The `journal.compacted` marker of a stripped record. -/
def compactedEvent (conversationId : String) (sequence : Nat) (eventId : String) (time : DateTime)
    (originalType : String) (runStart runLength : Nat) : ConversationEvent :=
  .new eventId time conversationId sequence journalCompactedEvent <| .object <|
    Members.ofList [("reason", .string "compacted"), ("originalType", .string originalType),
      ("runStart", .nat runStart), ("runLength", .nat runLength)]

/-- The marker standing in for `original`. -/
def compactedMarker (original : ConversationEvent) (runStart runLength : Nat) :
    ConversationEvent :=
  compactedEvent original.conversationId original.sequence original.eventId original.time
    original.eventType runStart runLength

/-- `deny_unknown_fields`. -/
def denyUnknownFields (m : List (String × Json)) (fields : List String) : Option Unit :=
  if m.all (·.1 ∈ fields) then some () else none

/-- A marker line of an older journal: no other fields are allowed. -/
def parseCompacted (line : Bytes) (conversationId : String) : Option ConversationEvent := do
  let m ← lineMembers line
  denyUnknownFields m ["sequence", "compacted"]
  let sequence ← requiredField m "sequence" readU64
  let run ← requiredField m "compacted" Json.asObject
  denyUnknownFields run ["eventId", "timeUs", "originalType", "runStart", "runLength"]
  let eventId ← requiredField run "eventId" Json.asStr
  let time ← (← requiredField run "timeUs" readI64) |> DateTime.fromTimestampMicros
  let originalType ← requiredField run "originalType" Json.asStr
  let runStart ← requiredField run "runStart" readU64
  let runLength ← requiredField run "runLength" readU64
  return compactedEvent conversationId sequence eventId time originalType runStart runLength

/-- A full event of an older journal. -/
def parseFullEvent (line : Bytes) : Option ConversationEvent := do
  let m ← lineMembers line
  return {
    schemaVersion := ← requiredField m "schemaVersion" readU32
    sequence := ← requiredField m "sequence" readU64
    eventId := ← requiredField m "eventId" Json.asStr
    conversationId := ← requiredField m "conversationId" Json.asStr
    time := ← requiredField m "time" fun v => v.asStr.bind P.rfc3339
    eventType := ← requiredField m "type" Json.asStr
    normalizedType := ← optionalField m "normalizedType" Json.asStr
    rawType := ← optionalField m "rawType" Json.asStr
    provider := ← optionalField m "provider" readProvider
    payload := ← requiredField m "payload" (readValue P) }

/-- Parse one journal line. Every journal read goes through here. -/
def decodeJournalRecord (line : Bytes) (conversationId : String) : Option ConversationEvent :=
  if (Bytes.ofChars v3RecordStart).isPrefixOf line then
    (parseRecord P line).bind (·.intoEvent conversationId none)
  else if (Bytes.ofChars compactedRecordStart).isPrefixOf line then
    parseCompacted line conversationId
  else parseFullEvent P line

end Todex
