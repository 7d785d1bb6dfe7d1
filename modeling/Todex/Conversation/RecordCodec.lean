import Todex.Conversation.EnvelopeDigest
import Todex.Conversation.Record

/-!
# Records read back as they were written
-/

namespace Todex

open Json (Members)

/-! ### Struct members -/

lemma lineMembers_toVec (m : List (String × Json)) : lineMembers (toVec (.object m)) = some m := by
  simp [lineMembers, toVec, Json.parse_print]

@[simp] lemma wireMembers_none (k : String) (l : List (String × Option Json)) :
    wireMembers ((k, none) :: l) = wireMembers l := rfl

@[simp] lemma wireMembers_some (k : String) (v : Json) (l : List (String × Option Json)) :
    wireMembers ((k, some v) :: l) = (k, v) :: wireMembers l := rfl

lemma filter_wireMembers (hl : (l.map Prod.fst).Nodup) (k : String) :
    (wireMembers l).filter (·.1 = k) = ((l.lookup k).join.map fun v => (k, v)).toList := by
  induction l with
  | nil => rfl
  | cons e l ih =>
    obtain ⟨k', v⟩ := e
    obtain ⟨hhd, htl⟩ := List.nodup_cons.mp hl
    have ih := ih htl
    by_cases hk : k' = k
    · subst hk
      -- no later member has this key
      have hrest : l.lookup k' = none := by
        rw [List.lookup_eq_none_iff]
        intro e he
        simpa using fun h => hhd (List.mem_map.mpr ⟨e, he, h.symm⟩)
      rw [hrest] at ih
      cases v with
      | none => rw [wireMembers_none, ih, List.lookup_cons_self]; rfl
      | some v =>
        rw [wireMembers_some, List.filter_cons_of_pos (by simp), ih, List.lookup_cons_self]
        rfl
    · have hlo : ((k', v) :: l).lookup k = l.lookup k := by
        rw [List.lookup_cons, beq_false_of_ne (Ne.symm hk)]
      cases v with
      | none => rw [wireMembers_none, ih, hlo]
      | some v => rw [wireMembers_some, List.filter_cons_of_neg (by simpa using hk), ih, hlo]

lemma structField_wireMembers (hl : (l.map Prod.fst).Nodup)
    (k : String) : structField (wireMembers l) k = some (l.lookup k).join := by
  rw [structField, filter_wireMembers hl]
  cases (l.lookup k).join <;> rfl

lemma requiredField_wireMembers {α : Type} (hl : (l.map Prod.fst).Nodup) (k : String) (read : Json → Option α) :
    requiredField (wireMembers l) k read = (l.lookup k).join.bind read := by
  rw [requiredField, structField_wireMembers hl, Option.join_some]

lemma optionalField_wireMembers {α : Type} (hl : (l.map Prod.fst).Nodup) (k : String) (read : Json → Option α) :
    optionalField (wireMembers l) k read = match (l.lookup k).join with
      | none => some none
      | some .null => some none
      | some value => (read value).map some := by
  rw [optionalField, structField_wireMembers hl]
  rcases (l.lookup k).join with _ | _ | _ | _ | _ | _ | _ <;> rfl

lemma mapField_wireMembers (hl : (l.map Prod.fst).Nodup) (k : String) :
    mapField P (wireMembers l) k = match (l.lookup k).join with
      | none => some []
      | some value => readMap P value := by
  rw [mapField, structField_wireMembers hl]
  cases (l.lookup k).join <;> rfl

/-! ### Times -/

namespace DateTime

lemma timestampMicros_bounds (time : DateTime) :
    -(2 ^ 63) ≤ time.timestampMicros ∧ time.timestampMicros < 2 ^ 63 := by
  have hr := time.inRange
  simp only [minNanos, maxNanos] at hr
  simp only [timestampMicros]
  omega

lemma subMicroNanos_lt (time : DateTime) : time.subMicroNanos < 1000 := by
  simp only [subMicroNanos]
  omega

/-- The microseconds and the nanoseconds below them make up the time. -/
lemma nanos_eq (time : DateTime) : time.timestampMicros * 1000 + time.subMicroNanos = time.nanos := by
  simp only [timestampMicros, subMicroNanos]
  omega

lemma ofNanos?_nanos (time : DateTime) : ofNanos? time.nanos = some time := by
  rw [ofNanos?, dif_pos time.inRange]

lemma fromTimestampMicros_timestampMicros (time : DateTime) :
    ∃ h, fromTimestampMicros time.timestampMicros = some ⟨time.timestampMicros * 1000, h⟩ := by
  have hr : minNanos ≤ time.timestampMicros * 1000 ∧
      time.timestampMicros * 1000 ≤ maxNanos := by
    have hr := time.inRange
    simp only [minNanos, maxNanos] at hr
    simp only [minNanos, maxNanos, timestampMicros]
    omega
  exact ⟨hr, by rw [fromTimestampMicros, ofNanos?, dif_pos hr]⟩

end DateTime

/-! ### Envelopes read back -/

variable {p e : Members}

section Envelope

variable {float : Json.Number → Option Json.Number} {d : Nat}

lemma ReadsBack.copyField (hp : ∀ x ∈ p, x.2.ReadsBack float d)
    (he : (Json.object e).ReadsBack float (d + 1)) (k : String) :
    (Json.object (copyField p k e)).ReadsBack float (d + 1) := by
  rw [Todex.copyField]
  split
  · next v hv =>
    have hv := Option.eq_some_of_filter_eq_some hv
    exact he.insert (hp _ (Members.mem_of_get hv)) k
  · exact he

lemma ReadsBack.copyFields (hp : ∀ x ∈ p, x.2.ReadsBack float d)
    (he : (Json.object e).ReadsBack float (d + 1)) (keys : List String) :
    (Json.object (copyFields p keys e)).ReadsBack float (d + 1) := by
  induction keys generalizing e with
  | nil => exact he
  | cons k keys ih => exact ih (ReadsBack.copyField hp he k)

lemma ReadsBack.copyFieldIf (hp : ∀ x ∈ p, x.2.ReadsBack float d)
    (he : (Json.object e).ReadsBack float (d + 1)) (keyed : Bool) (k : String) :
    (Json.object (copyFieldIf keyed p k e)).ReadsBack float (d + 1) := by
  cases keyed
  · exact he
  · exact ReadsBack.copyField hp he k

lemma ReadsBack.insertSome (he : (Json.object e).ReadsBack float (d + 1))
    {v : Option Json} (hv : ∀ w ∈ v, w.ReadsBack float d) (k : String) :
    (Json.object (insertSome k v e)).ReadsBack float (d + 1) := by
  cases v with
  | none => exact he
  | some v => exact he.insert (hv v rfl) k

lemma readsBack_nil (float : Json.Number → Option Json.Number) (d : Nat) :
    (Json.object []).ReadsBack float (d + 1) :=
  Json.readsBack_object List.Pairwise.nil (by simp)

lemma ReadsBack.slimObject (hp : ∀ x ∈ p, x.2.ReadsBack float d) (k : String)
    (keys : List String) : ∀ w ∈ slimObject p k keys, w.ReadsBack float d := by
  intro w hw
  simp only [Todex.slimObject, Option.mem_def, Option.bind_eq_some_iff] at hw
  obtain ⟨inner, ⟨v, hv, hi⟩, hw⟩ := hw
  obtain rfl := Json.eq_object_of_asObject hi
  obtain ⟨d, rfl, -, hmem⟩ := (hp _ (Members.mem_of_get hv)).object_inv
  split_ifs at hw with hslim
  obtain rfl := Option.some.inj hw
  exact ReadsBack.copyFields hmem (readsBack_nil float d) keys

mutual
lemma ReadsBack.numericOnly {v w : Json} {d : Nat} (hv : v.ReadsBack float d)
    (hw : numericOnly v = some w) : w.ReadsBack float d := by
  match v with
  | .number n =>
    obtain rfl : Json.number n = w := by simpa [Todex.numericOnly] using hw
    exact hv
  | .object m =>
    obtain ⟨d, rfl, -, hmem⟩ := hv.object_inv
    simp only [Todex.numericOnly] at hw
    split_ifs at hw
    obtain rfl := Option.some.inj hw
    refine Json.readsBack_object (Members.ordered_ofList _) fun e he => ?_
    exact ReadsBack.numericMembers hmem e (Members.mem_ofList he)
  | .null | .bool _ | .string _ | .array _ => simp [Todex.numericOnly] at hw

lemma ReadsBack.numericMembers {m : List (String × Json)} {d : Nat}
    (hm : ∀ e ∈ m, e.2.ReadsBack float d) : ∀ e ∈ numericMembers m, e.2.ReadsBack float d := by
  match m with
  | [] => simp [Todex.numericMembers]
  | (k, v) :: m =>
    have ih := ReadsBack.numericMembers (m := m) fun e he => hm e (by simp [he])
    rw [Todex.numericMembers]
    split
    · next w hw =>
      rintro e (_ | ⟨_, he⟩)
      · exact ReadsBack.numericOnly (hm (k, v) (by simp)) hw
      · exact ih e he
    · exact ih
end

lemma ReadsBack.envelopeFields {payload : Json} (h : payload.ReadsBack float (d + 1)) (eventType : String) :
    (Json.object (envelopeFields eventType payload)).ReadsBack float (d + 1) := by
  rw [Todex.envelopeFields]
  cases hpa : payload.asObject with
  | none => exact readsBack_nil float d
  | some p =>
    obtain rfl := Json.eq_object_of_asObject hpa
    obtain ⟨d', hd, -, hp⟩ := h.object_inv
    obtain rfl : d = d' := by omega
    have hu : ∀ w ∈ (p.get "usage").bind Todex.numericOnly, w.ReadsBack float d := by
      intro w hw
      obtain ⟨v, hv, hw⟩ := Option.bind_eq_some_iff.mp hw
      exact ReadsBack.numericOnly (hp _ (Members.mem_of_get hv)) hw
    refine ReadsBack.insertSome (ReadsBack.insertSome (ReadsBack.insertSome ?_
      (ReadsBack.slimObject hp _ _) _) (ReadsBack.slimObject hp _ _) _) hu _
    refine ReadsBack.copyFields hp ?_ _
    iterate 4 refine ReadsBack.copyFieldIf hp ?_ _ _
    exact ReadsBack.copyFields hp (readsBack_nil float d) _

end Envelope

/-! ### Written records -/

/-- The record a line of the event is parsed to. -/
def recordOf (event : ConversationEvent) (content encrypted : Option Json) : RecordIn where
  s := event.sequence
  i := event.eventId
  t := event.time.timestampMicros
  y := event.eventType
  r := event.rawType
  p := event.provider
  n := match event.normalizedType with
    | some value => if value = normalizedEventType event.eventType then none else some value
    | none => some ""
  tn := if event.time.subMicroNanos > 0 then some event.time.subMicroNanos else none
  e := envelopeFields event.eventType event.payload
  c := content
  x := encrypted

/-- A value that a struct member is read back from. -/
def ReadsBackMember (P : Primitives) (v : Json) : Prop :=
  v.ReadsBack P.float (Json.nestingLimit - 1)

lemma optionalField_string (hl : (l.map Prod.fst).Nodup)
    {k : String} {o : Option String} (h : l.lookup k = some (o.map .string)) :
    optionalField (wireMembers l) k Json.asStr = some o := by
  rw [optionalField_wireMembers hl, h]
  cases o <;> rfl

lemma optionalField_readValue (hl : (l.map Prod.fst).Nodup) {k : String} {o : Option Json} (h : l.lookup k = some o)
    (ho : ∀ v ∈ o, ReadsBackMember P v ∧ v ≠ .null) : optionalField (wireMembers l) k (readValue P) = some o := by
  rw [optionalField_wireMembers hl, h]
  cases o with
  | none => rfl
  | some v =>
    obtain ⟨hback, hnull⟩ := ho v rfl
    have hread : readValue P v = some v := hback
    cases v with
    | null => exact absurd rfl hnull
    | _ => simp only [Option.join_some, hread, Option.map_some]

lemma nodup_recordFields (event : ConversationEvent) (content encrypted : Option Json) :
    ((recordFields event content encrypted).map Prod.fst).Nodup := by
  change ["s", "i", "t", "y", "r", "p", "n", "tn", "e", "c", "x"].Nodup
  decide

lemma parseRecord_recordOut (hseq : event.sequence < 2 ^ 64)
    (henv : ReadsBackMember P (.object (envelopeFields event.eventType event.payload)))
    (content encrypted : Option Json) (hco : ∀ v ∈ content, ReadsBackMember P v ∧ v ≠ .null)
    (hen : ∀ v ∈ encrypted, ReadsBackMember P v ∧ v ≠ .null) :
    parseRecord P (toVec (recordOut event content encrypted)) = some (recordOf event content encrypted) := by
  have hl := nodup_recordFields event content encrypted
  have hs : requiredField (wireMembers (recordFields event content encrypted)) "s" readU64 =
      some event.sequence := by
    rw [requiredField_wireMembers hl]
    exact Json.asU64_nat hseq
  have hi : requiredField (wireMembers (recordFields event content encrypted)) "i" Json.asStr =
      some event.eventId := by
    rw [requiredField_wireMembers hl]
    rfl
  have ht : requiredField (wireMembers (recordFields event content encrypted)) "t" readI64 =
      some event.time.timestampMicros := by
    rw [requiredField_wireMembers hl]
    exact Json.Number.asI64_ofInt event.time.timestampMicros_bounds
  have hy : requiredField (wireMembers (recordFields event content encrypted)) "y" Json.asStr =
      some event.eventType := by
    rw [requiredField_wireMembers hl]
    rfl
  have hp : optionalField (wireMembers (recordFields event content encrypted)) "p" readProvider =
      some event.provider := by
    rw [optionalField_wireMembers hl]
    change (match (event.provider.map fun p => Json.string p.asStr) with
      | none => some none
      | some .null => some none
      | some value => (readProvider value).map some) = _
    cases event.provider <;> simp [readProvider]
  have htn : optionalField (wireMembers (recordFields event content encrypted)) "tn" readU32 =
      some (recordOf event content encrypted).tn := by
    have hlt := event.time.subMicroNanos_lt
    have h64 := Json.asU64_nat (n := event.time.subMicroNanos) (by omega)
    have hread : readU32 (.nat event.time.subMicroNanos) = some event.time.subMicroNanos := by
      rw [readU32, h64, Option.filter_some, if_pos (by simp; omega)]
    have hlo : (recordFields event content encrypted).lookup "tn" =
      some (if event.time.subMicroNanos > 0 then some (.nat event.time.subMicroNanos)
        else none) := rfl
    rw [optionalField_wireMembers hl, hlo, recordOf]
    split_ifs with hpos
    · change (readU32 (.nat event.time.subMicroNanos)).map some = _
      rw [hread, Option.map_some]
    · rfl
  have he : mapField P (wireMembers (recordFields event content encrypted)) "e" =
      some (envelopeFields event.eventType event.payload) := by
    have hlo : (recordFields event content encrypted).lookup "e" =
      some (if (envelopeFields event.eventType event.payload).isEmpty then none
        else some (.object (envelopeFields event.eventType event.payload))) := rfl
    rw [mapField_wireMembers hl, hlo]
    split_ifs with hem
    · rw [List.isEmpty_iff] at hem
      rw [hem, Option.join_some]
    · have hread : readValue P (.object (envelopeFields event.eventType event.payload)) =
        some (.object (envelopeFields event.eventType event.payload)) := henv
      simp only [Option.join_some, readMap, hread, Option.bind_some, Json.asObject]
  have hr := optionalField_string hl (k := "r") (o := event.rawType) rfl
  have hn := optionalField_string hl (k := "n") (o := (recordOf event content encrypted).n) <| by
    change some (match event.normalizedType with
      | some value =>
        if value = normalizedEventType event.eventType then none else some (Json.string value)
      | none => some (Json.string "")) = _
    rw [recordOf]
    cases event.normalizedType with
    | none => rfl
    | some value => dsimp only; split_ifs <;> rfl
  have hc := optionalField_readValue hl (k := "c") rfl hco
  have hx := optionalField_readValue hl (k := "x") rfl hen
  rw [parseRecord, recordOut, lineMembers_toVec, Option.bind_some]
  simp only [RecordIn.ofMembers, hs, hi, ht, hy, hr, hp, hn, htn, he, hc, hx, Option.bind_eq_bind,
    Option.bind_some, Option.pure_def, recordOf]

lemma time_recordOf (event : ConversationEvent) (content encrypted : Option Json) :
    (recordOf event content encrypted).time = some event.time := by
  obtain ⟨hr, hm⟩ := event.time.fromTimestampMicros_timestampMicros
  have hn := event.time.nanos_eq
  have hlt := event.time.subMicroNanos_lt
  simp only [RecordIn.time, recordOf, hm, Option.map_some]
  split_ifs with hpos
  · rw [Option.filter_some, if_pos (by simpa using ⟨hpos, hlt⟩)]
    simp only [hn, DateTime.ofNanos?_nanos, Option.getD_some]
  · have hzero : event.time.subMicroNanos = 0 := by omega
    simp only [Option.filter_none]
    congr 1
    ext
    simpa [hzero] using hn

lemma normalizedType_recordOf (h : event.normalizedType ≠ some "") (content encrypted : Option Json) :
    (recordOf event content encrypted).normalizedType = event.normalizedType := by
  simp only [RecordIn.normalizedType, recordOf]
  cases hva : event.normalizedType with
  | none => rfl
  | some value =>
    have hne : value ≠ "" := fun hv => h (by rw [hva, hv])
    by_cases hn : value = normalizedEventType event.eventType
    · simp [← hn]
    · simp [hn, hne]

/-- What an event needs to be described by a record. -/
structure ConversationEvent.Recordable (event : ConversationEvent) : Prop where
  schemaVersion : event.schemaVersion = conversationSchemaVersion
  sequence : event.sequence < 2 ^ 64
  normalizedType : event.normalizedType ≠ some ""

lemma intoEvent_recordOf (h : event.Recordable) {content encrypted stored : Option Json} {payload : Json}
    (hp : (recordOf event content encrypted).payload stored = some payload) :
    (recordOf event content encrypted).intoEvent event.conversationId stored = some { event with payload } := by
  have htime := time_recordOf event content encrypted
  have hnorm := normalizedType_recordOf h.normalizedType content encrypted
  simp only [RecordIn.intoEvent, htime, hnorm, hp, Option.bind_eq_bind, Option.bind_some,
    Option.pure_def]
  simp only [recordOf, ← h.schemaVersion]

/-- A payload a record can hold: one without ciphertext, or the stored form of an envelope. -/
structure ConversationEvent.Storable (P : Primitives) (event : ConversationEvent) : Prop
    extends event.Recordable where
  plain : encryptedContent event.payload = none → ReadsBackMember P event.payload
  envelope : ReadsBackMember P (.object (envelopeFields event.eventType event.payload))
  encrypted : ∀ encrypted ∈ encryptedContent event.payload,
    ReadsBackMember P (.object encrypted) ∧
      event.payload = .object ((envelopeFields event.eventType event.payload).insert encryptedField
        (.object encrypted))

lemma encryptedMember_eq (payload : Json) : encryptedMember payload = (encryptedContent payload).map .object := by
  rw [encryptedMember, encryptedContent]
  rcases payload.get encryptedField with _ | _ | _ | _ | _ | _ | _ <;> rfl

lemma isPrefixOf_recordOut (event : ConversationEvent) (content encrypted : Option Json) :
    (Bytes.ofChars v3RecordStart).isPrefixOf (toVec (recordOut event content encrypted)) = true := by
  obtain ⟨l, hl⟩ : ∃ l, (recordOut event content encrypted).print = v3RecordStart ++ l := by
    rw [recordOut, recordFields, wireMembers_some]
    exact ⟨_, rfl⟩
  rw [toVec, hl, Bytes.ofChars_append, List.isPrefixOf_iff_prefix]
  exact List.prefix_append _ _

/-- Every journal line reads back as the event it was written for. -/
theorem decodeJournalRecord_encodeRecord (h : event.Storable P) (hnull : event.payload ≠ .null) :
    decodeJournalRecord P (encodeRecord event) event.conversationId = some event := by
  rw [encodeRecord, encryptedMember_eq]
  cases henc : encryptedContent event.payload with
  | none =>
    have hp := parseRecord_recordOut h.sequence h.envelope (some event.payload) none
      (by simpa using ⟨h.plain henc, hnull⟩) (by simp)
    rw [Option.map_none, decodeJournalRecord, if_pos (isPrefixOf_recordOut ..), hp,
      Option.bind_some, intoEvent_recordOf h.toRecordable rfl]
  | some encrypted =>
    obtain ⟨hback, hform⟩ := h.encrypted encrypted henc
    have hp := parseRecord_recordOut h.sequence h.envelope none (some (.object encrypted))
      (by simp) (by simpa using hback)
    rw [Option.map_some, decodeJournalRecord, if_pos (isPrefixOf_recordOut ..), hp,
      Option.bind_some, intoEvent_recordOf h.toRecordable rfl]
    congr
    exact hform.symm

end Todex
