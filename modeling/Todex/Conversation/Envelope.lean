import Todex.Conversation.Summary
import Todex.HistoryCrypto
import Todex.Lib.Json.Interpret

/-!
# The plaintext envelope of a record and its sealed content

With history encryption on, an event is stored as its *stored form*: the envelope fields of its
payload plus `$enc`, the content sealed under the conversation's current key.
-/

namespace Todex

open Json (Members)

/-- Payload key of encrypted content. -/
def encryptedField : String := "$enc"

/-- `$enc.v`. -/
def encryptedVersion : Nat := 1

/-- Identity fields the envelope keeps in plaintext. -/
def envelopeIdKeys : List String :=
  ["turnId", "nativeTurnId", "clientRequestId", "requestId", "permissionId", "runtimeId",
    "operationId", "itemId", "messageId", "toolCallId", "subagentId"]

/-! ### Envelope fields -/

/-- The member `key` if it is a string or a number. -/
def scalarField (payload : Members) (key : String) : Option Json :=
  (payload.get key).filter Json.isScalar

/-- Copy a field that is a string or a number. -/
def copyField (payload : Members) (key : String) (envelope : Members) : Members :=
  match scalarField payload key with
  | some value => envelope.insert key value
  | none => envelope

/-- `copyField` for several keys. -/
def copyFields (payload : Members) (keys : List String) (envelope : Members) : Members :=
  keys.foldl (fun envelope key => copyField payload key envelope) envelope

/-- `copyField` for the event types that keep the field. -/
def copyFieldIf (keyed : Bool) (payload : Members) (key : String) (envelope : Members) : Members :=
  if keyed then copyField payload key envelope else envelope

/-- Keep only `keys` of the object `key`, if any of them is there. -/
def slimObject (payload : Members) (key : String) (keys : List String) : Option Json :=
  (payload.get key).bind Json.asObject |>.bind fun inner =>
    let slim := copyFields inner keys []
    if slim.isEmpty then none else some (.object slim)

mutual
/-- The numeric skeleton of a usage object. -/
def numericOnly : Json → Option Json
  | .number n => some (.number n)
  | .object m =>
    let slim := Members.ofList (numericMembers m)
    if slim.isEmpty then none else some (.object slim)
  | _ => none

/-- The members with a numeric skeleton. -/
def numericMembers : List (String × Json) → List (String × Json)
  | [] => []
  | (key, value) :: m =>
    match numericOnly value with
    | some value => (key, value) :: numericMembers m
    | none => numericMembers m
end

/-- Set a field that has a value. -/
def insertSome (key : String) (value : Option Json) (envelope : Members) : Members :=
  match value with
  | some value => envelope.insert key value
  | none => envelope

/-- The payload fields that stay readable without the content key. -/
def envelopeFields (eventType : String) (payload : Json) : Members :=
  match payload.asObject with
  | none => []
  | some payload =>
    let envelope := copyFields payload envelopeIdKeys []
    let envelope := copyFieldIf (keyed eventType "message.") payload "role" envelope
    let envelope := copyFieldIf
      (eventType = "provider.runtime" || keyed eventType "turn." || keyed eventType "subagent.")
      payload "status" envelope
    let envelope := copyFieldIf (keyed eventType "permission." || eventType = "tool.awaitingApproval")
      payload "scope" envelope
    let envelope := copyFieldIf (keyed eventType "control.") payload "code" envelope
    let envelope := copyFields payload ["stopReason", "requestFingerprint", "textMac"] envelope
    let envelope := insertSome "block" (slimObject payload "block" ["category", "id", "turnId"])
      envelope
    let envelope := insertSome "control"
      (slimObject payload "control" ["action", "itemId", "textMac"]) envelope
    insertSome "usage" ((payload.get "usage").bind numericOnly) envelope

/-- The `$enc` object of a stored form. -/
def encryptedContent (payload : Json) : Option Members :=
  (payload.get encryptedField).bind Json.asObject

/-! ### Macs for deduplication -/

/-- A fingerprint key. -/
structure FingerprintKey where
  key : Bytes
deriving DecidableEq

variable (P : Primitives)

/-- The keyed hash of a text. -/
def FingerprintKey.mac (self : FingerprintKey) (text : String) : String :=
  P.encodeBase64 (P.hmac self.key (Bytes.ofString text))

/-- The fingerprint of a control request: the mac of its JSON. -/
def controlMac (key : FingerprintKey) (control : Json) : String :=
  key.mac P (String.ofList control.print)

/-- The request fingerprint after `add_history_macs`. -/
def macFingerprint (eventType : String) (key : FingerprintKey) (payload : Members) : Members :=
  match (payload.get "requestFingerprint").bind Json.asStr with
  | some fingerprint => payload.insert "requestFingerprint" (.string (key.mac P fingerprint))
  | none =>
    if eventType = "control.requested" then
      match (payload.get "control").filter Json.isObject with
      | some control => payload.insert "requestFingerprint" (.string (controlMac P key control))
      | none => payload
    else payload

/-- The control with the mac of its text. -/
def macControlText (key : FingerprintKey) (payload : Members) : Members :=
  match (payload.get "control").bind Json.asObject with
  | some control =>
    match (control.get "text").bind Json.asStr with
    | some text =>
      payload.insert "control" (.object (control.insert "textMac" (.string (key.mac P text))))
    | none => payload
  | none => payload

/-- Replace what deduplication compares with macs under the fingerprint key. -/
def addHistoryMacs (eventType : String) (key : FingerprintKey) (payload : Json) : Json :=
  match payload.asObject with
  | some payload => .object (macControlText P key (macFingerprint P eventType key payload))
  | none => payload

/-! ### Sealing and opening -/

/-- `serde_json::to_vec` of a value. -/
def toVec (v : Json) : Bytes := Bytes.ofChars v.print

/-- `serde_json::from_slice` to a value. -/
def fromSlice (b : Bytes) : Option Json := (Bytes.toChars? b).bind (Json.fromText P.float)

/-- The `$enc` object `seal_event` makes. -/
def encryptedObject (event : ConversationEvent) (kid : String) (key : SegmentKey) : Members :=
  let sealed (stream : ContentStream) (content : Json) : Json :=
    .string (P.encodeBase64 (key.sealContent P event.conversationId stream event.sequence
      (toVec content)))
  let encrypted := Members.insert "v" (.nat encryptedVersion) []
  let encrypted := encrypted.insert "kid" (.string kid)
  let encrypted := encrypted.insert "c" (.string event.conversationId)
  let encrypted := encrypted.insert "n" (.nat event.sequence)
  let encrypted := insertSome "s" ((summarizeEvent event).map (sealed .eventSummary)) encrypted
  encrypted.insert "f" (sealed .eventFull event.payload)

/-- The stored form of `event` sealed under `key`. -/
def sealEvent (event : ConversationEvent) (kid : String) (key : SegmentKey) : ConversationEvent :=
  { event with
    payload := .object ((envelopeFields event.eventType event.payload).insert encryptedField
      (.object (encryptedObject P event kid key))) }

/-- One sealed payload of a stored event. -/
def openField (encrypted : Members) (conversationId : String) (sequence : Nat) (key : SegmentKey)
    (field : String) (stream : ContentStream) : Option Json := do
  let sealed ← P.decodeBase64 (← (← encrypted.get field).asStr)
  fromSlice P (← key.openContent P conversationId stream sequence sealed)

/-- Open an event-level `$enc`: the full payload and its summary. -/
def openEvent (encrypted : Members) (conversationId : String) (sequence : Nat) (key : SegmentKey) :
    Option (Json × Json) :=
  if (encrypted.get "v").bind Json.asU64 ≠ some encryptedVersion ∨
      (encrypted.get "c").bind Json.asStr ≠ some conversationId ∨
      (encrypted.get "n").bind Json.asU64 ≠ some sequence ∨ (encrypted.get "fr").isSome then
    none
  else do
    let full ← openField P encrypted conversationId sequence key "f" .eventFull
    let summary ← if (encrypted.get "s").isSome then
        openField P encrypted conversationId sequence key "s" .eventSummary
      else some full
    return (full, summary)

/-- The stored form an append writes: macs for deduplication, then the sealed content. -/
def storedForm (fingerprint : FingerprintKey) (kid : String) (key : SegmentKey)
    (event : ConversationEvent) : ConversationEvent :=
  sealEvent P { event with payload := addHistoryMacs P event.eventType fingerprint event.payload }
    kid key

end Todex
