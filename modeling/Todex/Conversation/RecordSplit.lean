import Todex.Conversation.RecordCodec
import Todex.Conversation.Segment.Frame
import Todex.Lib.Json.Size

/-!
# The two parts of a record

A sealed segment holds the envelope line of a record apart from its content. The parts describe the
same event as the one-line form, and are as long as it.
-/

namespace Todex

open Json (Members)

/-- The content a frame holds for an event: its ciphertext if there is some. -/
def frameContent (event : ConversationEvent) : Json :=
  match encryptedContent event.payload with
  | some encrypted => .object encrypted
  | none => event.payload

/-- The payload of a record whose content is in a frame. -/
def RecordIn.joined (self : RecordIn) (passthrough : Bool) (content : Json) : Option Json :=
  if passthrough then
    content.asObject.map fun encrypted =>
      .object (self.e.insert encryptedField (.object encrypted))
  else some content

/-- The event of an envelope line and the bytes of its content. -/
def decodeSplit (P : Primitives) (envelope content : Bytes) (passthrough : Bool)
    (conversationId : String) : Option ConversationEvent := do
  let record ← parseRecord P envelope
  let payload ← record.joined passthrough (← fromSlice P content)
  record.intoEvent conversationId (some payload)

variable {P : Primitives}

lemma readsBack_of_encryptedContent (h : ReadsBackMember P payload)
    (henc : encryptedContent payload = some encrypted) : ReadsBackMember P (.object encrypted) := by
  obtain ⟨v, hv, ho⟩ := Option.bind_eq_some_iff.mp henc
  obtain rfl := Json.eq_object_of_asObject ho
  obtain ⟨m, hm, hget⟩ := Option.bind_eq_some_iff.mp hv
  obtain rfl := Json.eq_object_of_asObject hm
  obtain ⟨d, hd, -, hmem⟩ := Json.ReadsBack.object_inv h
  exact (hmem _ (Members.mem_of_get hget)).mono (by omega)

lemma fromSlice_toVec (h : v.ReadsBack P.float Json.nestingLimit) : fromSlice P (toVec v) = some v := by
  rw [fromSlice, toVec, Bytes.toChars?_ofChars, Option.bind_some, Json.fromText_print h]

lemma decodeSplit_encodeEnvelope (h : event.Storable P) :
    decodeSplit P (encodeEnvelope event) (toVec (frameContent event))
      (encryptedContent event.payload).isSome event.conversationId = some event := by
  have hp := parseRecord_recordOut h.sequence h.envelope none none (by simp) (by simp)
  have hback : (frameContent event).ReadsBack P.float Json.nestingLimit := by
    rw [frameContent]
    split
    · next encrypted henc => exact (h.encrypted encrypted henc).1.mono (by omega)
    · next henc => exact (h.plain henc).mono (by omega)
  have hjoin : (recordOf event none none).joined (encryptedContent event.payload).isSome
      (frameContent event) = some event.payload := by
    rw [frameContent, RecordIn.joined]
    cases henc : encryptedContent event.payload with
    | none => rfl
    | some encrypted => exact congrArg some (h.encrypted encrypted henc).2.symm
  simp only [decodeSplit, encodeEnvelope, hp, fromSlice_toVec hback, hjoin,
    Option.bind_eq_bind, Option.bind_some]
  exact intoEvent_recordOf h.toRecordable rfl

/-! ### Lengths -/

lemma recordFields_eq (event : ConversationEvent) : ∃ base : List (String × Option Json),
    wireMembers base ≠ [] ∧ ∀ content encrypted, recordFields event content encrypted =
      base ++ [("c", content), ("x", encrypted)] := by
  refine ⟨(recordFields event none none).take 9, ?_, fun content encrypted => rfl⟩
  rw [recordFields]
  simp [wireMembers]

lemma recordBytes_eq (event : ConversationEvent) :
    recordBytes (encodeEnvelope event).length (toVec (frameContent event)).length = (encodeRecord event).length := by
  obtain ⟨base, hbase, hf⟩ := recordFields_eq event
  have hl (key : String) (hkey : (Bytes.ofChars (Json.printString key)).length = 3) (v : Json) :
      Json.bytes (.object (wireMembers base ++ [(key, v)])) =
        Json.bytes (.object (wireMembers base)) + v.bytes + 5 := by
    obtain ⟨e, m, hm⟩ := List.exists_cons_of_ne_nil hbase
    have hpos : 2 ≤ Json.memberBytes e := by
      rw [Json.memberBytes]
      omega
    simp only [Json.bytes_object, hm, List.cons_append, List.map_cons, List.map_append,
      List.map_nil, List.sum_cons, List.sum_append, List.sum_nil]
    have hlast : Json.memberBytes (key, v) = v.bytes + 5 := by
      rw [Json.memberBytes, hkey]
      dsimp only
      omega
    omega
  have he : (encodeEnvelope event).length = Json.bytes (.object (wireMembers base)) := by
    rw [encodeEnvelope, recordOut, hf, wireMembers, List.filterMap_append, toVec, Json.bytes]
    simp [wireMembers]
  have hc : (Bytes.ofString ",\"c\":").length = 5 := by decide
  rw [recordBytes, he, hc, encodeRecord, encryptedMember_eq, frameContent]
  cases encryptedContent event.payload with
  | none =>
    have hr := hl "c" (by decide) event.payload
    simp only [recordOut, hf, wireMembers, List.filterMap_append, Option.map_none]
    exact hr.symm
  | some encrypted =>
    have hr := hl "x" (by decide) (.object encrypted)
    simp only [recordOut, hf, wireMembers, List.filterMap_append, Option.map_some]
    exact hr.symm

/-! ### The codec -/

lemma newline_notMem_encodeRecord (event : ConversationEvent) :
    Bytes.newline ∉ encodeRecord event :=
  Bytes.newline_notMem_ofChars fun c hc => (Json.print_printable _ c hc)

lemma storable_of_depth {event : ConversationEvent} (hr : event.Recordable)
    (hform : ∀ encrypted ∈ encryptedContent event.payload, event.payload =
      .object ((envelopeFields event.eventType event.payload).insert encryptedField
        (.object encrypted)))
    (hd : event.payload.depth < Json.nestingLimit) (hs : event.payload.Sorted)
    (hn : event.payload.Stable P.float) : event.Storable P := by
  have hback : ReadsBackMember P event.payload :=
    Json.readsBack_of_depth (Nat.le_pred_of_lt hd) hs hn
  exact { hr with
    plain := fun _ => hback
    envelope := ReadsBack.envelopeFields (d := Json.nestingLimit - 2) hback event.eventType
    encrypted := fun encrypted henc =>
      ⟨readsBack_of_encryptedContent hback henc, hform encrypted henc⟩ }

/-- A journal line is read back as its event, and so are the parts a segment holds of it, if the
payload is within the depth the JSON library reads. -/
theorem decode_encode_record (P : Primitives) (event : ConversationEvent)
    (hversion : event.schemaVersion = conversationSchemaVersion)
    (hsequence : event.sequence < 2 ^ 64) (hnormalized : event.normalizedType ≠ some "")
    (hnull : event.payload ≠ .null)
    (hform : ∀ encrypted ∈ encryptedContent event.payload, event.payload =
      .object ((envelopeFields event.eventType event.payload).insert encryptedField
        (.object encrypted)))
    (hdepth : event.payload.depth < Json.nestingLimit) (hsorted : event.payload.Sorted)
    (hnumbers : event.payload.Stable P.float) :
    decodeJournalRecord P (encodeRecord event) event.conversationId = some event ∧
      Bytes.newline ∉ encodeRecord event ∧ decodeSplit P (encodeEnvelope event) (toVec (frameContent event))
        (encryptedContent event.payload).isSome event.conversationId = some event ∧
      recordBytes (encodeEnvelope event).length (toVec (frameContent event)).length =
        (encodeRecord event).length := by
  have hs : event.Storable P :=
    storable_of_depth ⟨hversion, hsequence, hnormalized⟩ hform hdepth hsorted hnumbers
  exact ⟨decodeJournalRecord_encodeRecord hs hnull, newline_notMem_encodeRecord event,
    decodeSplit_encodeEnvelope hs, recordBytes_eq event⟩

/-- A permission request beside its ciphertext. -/
def sealedPermission : ConversationEvent :=
  .new "event" ⟨1500, by decide⟩ "conv" 7 "permission.requested" <| .object
    [("$enc", .object [("kid", .string "k"), ("v", .nat 1)]), ("permissionId", .string "p"),
      ("scope", .string "turn")]

theorem decode_encode_record_sealed :
    decodeJournalRecord .standard (encodeRecord sealedPermission) "conv" = some sealedPermission ∧
      recordBytes (encodeEnvelope sealedPermission).length
        (toVec (frameContent sealedPermission)).length = (encodeRecord sealedPermission).length := by
  have h := decode_encode_record .standard sealedPermission rfl (by decide) (by decide)
    (fun h => nomatch (h : Json.object _ = .null)) (by rintro _ ⟨⟩; rfl) (by decide)
    ⟨by decide +kernel, ⟨by decide +kernel, trivial, trivial, trivial⟩, trivial, trivial, trivial⟩
    (by decide +kernel)
  exact ⟨h.1, h.2.2.2⟩

/-- A payload of arrays in arrays. -/
def nestedArrays : Nat → Json
  | 0 => .array []
  | n + 1 => .array [nestedArrays n]

/-- The JSON library writes a payload of any depth, but does not read it back. -/
theorem decode_encode_record_nested :
    ∃ event : ConversationEvent, event.schemaVersion = conversationSchemaVersion ∧
      event.sequence < 2 ^ 64 ∧ event.normalizedType ≠ some "" ∧ event.payload ≠ .null ∧
      encryptedContent event.payload = none ∧
      decodeJournalRecord .standard (encodeRecord event) event.conversationId = none := by
  refine ⟨.new "event" ⟨0, by decide⟩ "conv" 1 "tool.completed" (nestedArrays 126), rfl,
    by decide, by decide, ?_, rfl, by decide +kernel⟩
  exact fun h => nomatch (h : Json.array _ = .null)

end Todex
