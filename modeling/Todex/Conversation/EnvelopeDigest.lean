import Todex.Conversation.Digest
import Todex.Conversation.Envelope

/-!
# The digest does not depend on the content

The envelope keeps every payload field the digest reads, so a history of stored forms has the
digest of the plaintext history.
-/

namespace Todex

open Json (Members)

/-! ### Fields of an envelope -/

lemma get_copyField (p e : Members) (k k' : String) :
    (copyField p k e).get k' = if k' = k then (scalarField p k').or (e.get k') else e.get k' := by
  simp only [copyField]
  by_cases h : k' = k
  · subst h
    cases scalarField p k' <;> simp
  · cases scalarField p k <;> simp [h]

lemma get_copyFields (p e : Members) (keys : List String) (k : String) :
    (copyFields p keys e).get k = if k ∈ keys then (scalarField p k).or (e.get k) else e.get k := by
  induction keys generalizing e with
  | nil => simp [copyFields]
  | cons key keys ih =>
    have hs : copyFields p (key :: keys) e = copyFields p keys (copyField p key e) := rfl
    rw [hs, ih, get_copyField]
    by_cases hk : k = key
    · cases scalarField p k <;> simp [hk]
    · simp [hk]

lemma get_copyFieldIf (keyed : Bool) (p e : Members) (k k' : String) : (copyFieldIf keyed p k e).get k' =
      if keyed = true ∧ k' = k then (scalarField p k').or (e.get k') else e.get k' := by
  cases keyed <;> simp [copyFieldIf, get_copyField]

lemma get_insertSome (k k' : String) (v : Option Json) (e : Members) :
    (insertSome k v e).get k' = if k' = k then v.or (e.get k') else e.get k' := by
  by_cases h : k' = k
  · cases v <;> simp [insertSome, h]
  · cases v <;> simp [insertSome, h]

lemma copyFields_congr (h : ∀ k ∈ keys, scalarField p k = scalarField q k) (e : Members) :
    copyFields p keys e = copyFields q keys e := by
  induction keys generalizing e with
  | nil => rfl
  | cons key keys ih =>
    have hke : copyField p key e = copyField q key e := by
      simp only [copyField, h key (by simp)]
    have hp : copyFields p (key :: keys) e = copyFields p keys (copyField p key e) := rfl
    have hq : copyFields q (key :: keys) e = copyFields q keys (copyField q key e) := rfl
    rw [hp, hq, hke, ih fun k hk => h k (by simp [hk])]

lemma copyFieldIf_congr {keyed : Bool} (h : keyed = true → scalarField p k = scalarField q k) (e : Members) :
    copyFieldIf keyed p k e = copyFieldIf keyed q k e := by
  cases keyed with
  | false => rfl
  | true => simp only [copyFieldIf, copyField, h rfl]

/-- A scalar field that was copied from `p` is the field of `p`. -/
lemma filter_scalarField (p : Members) (k : String) : (scalarField p k).filter Json.isScalar = scalarField p k := by
  simp [scalarField, Option.filter_filter]

section

variable (eventType : String) (p : Members)

lemma get_envelopeFields_id (hk : k ∈ envelopeIdKeys) :
    (envelopeFields eventType (.object p)).get k = scalarField p k := by
  simp only [envelopeIdKeys, List.mem_cons, List.not_mem_nil, or_false] at hk
  rcases hk with rfl | rfl | rfl | rfl | rfl | rfl | rfl | rfl | rfl | rfl | rfl <;>
    simp [envelopeFields, envelopeIdKeys, get_insertSome, get_copyFields, get_copyFieldIf]

lemma get_envelopeFields_copied (hk : k ∈ ["stopReason", "requestFingerprint", "textMac"]) :
    (envelopeFields eventType (.object p)).get k = scalarField p k := by
  simp only [List.mem_cons, List.not_mem_nil, or_false] at hk
  rcases hk with rfl | rfl | rfl <;>
    simp [envelopeFields, envelopeIdKeys, get_insertSome, get_copyFields, get_copyFieldIf]

lemma get_envelopeFields_role : (envelopeFields eventType (.object p)).get "role" =
      if keyed eventType "message." then scalarField p "role" else none := by
  simp [envelopeFields, envelopeIdKeys, get_insertSome, get_copyFields, get_copyFieldIf]

lemma get_envelopeFields_status : (envelopeFields eventType (.object p)).get "status" =
      if eventType = "provider.runtime" || keyed eventType "turn." ||
        keyed eventType "subagent." then scalarField p "status" else none := by
  simp [envelopeFields, envelopeIdKeys, get_insertSome, get_copyFields, get_copyFieldIf]

lemma get_envelopeFields_scope : (envelopeFields eventType (.object p)).get "scope" =
      if keyed eventType "permission." || eventType = "tool.awaitingApproval" then scalarField p "scope" else none := by
  simp [envelopeFields, envelopeIdKeys, get_insertSome, get_copyFields, get_copyFieldIf]

lemma get_envelopeFields_code : (envelopeFields eventType (.object p)).get "code" =
      if keyed eventType "control." then scalarField p "code" else none := by
  simp [envelopeFields, envelopeIdKeys, get_insertSome, get_copyFields, get_copyFieldIf]

lemma get_envelopeFields_block :
    (envelopeFields eventType (.object p)).get "block" = slimObject p "block" ["category", "id", "turnId"] := by
  simp [envelopeFields, envelopeIdKeys, get_insertSome, get_copyFields, get_copyFieldIf]

lemma get_envelopeFields_control : (envelopeFields eventType (.object p)).get "control" =
      slimObject p "control" ["action", "itemId", "textMac"] := by
  simp [envelopeFields, envelopeIdKeys, get_insertSome, get_copyFields, get_copyFieldIf]

lemma get_envelopeFields_usage :
    (envelopeFields eventType (.object p)).get "usage" = (p.get "usage").bind numericOnly := by
  simp [envelopeFields, envelopeIdKeys, get_insertSome, get_copyFields, get_copyFieldIf]

end

/-! ### The envelope of a stored form -/

lemma numericMembers_eq_self (h : ∀ e ∈ m, numericOnly e.2 = some e.2) : numericMembers m = m := by
  induction m with
  | nil => simp [numericMembers]
  | cons e m ih =>
    simp [numericMembers, h e (by simp), ih fun e he => h e (by simp [he])]

mutual
lemma numericOnly_numericOnly (h : numericOnly v = some w) : numericOnly w = some w := by
  match v with
  | .number n =>
    obtain rfl : Json.number n = w := by simpa [numericOnly] using h
    simp [numericOnly]
  | .object m =>
    simp only [numericOnly, Option.ite_none_left_eq_some, Option.some.injEq] at h
    obtain ⟨hne, rfl⟩ := h
    have hs : numericMembers (Members.ofList (numericMembers m)) =
        Members.ofList (numericMembers m) :=
      numericMembers_eq_self fun e he => numericMembers_numericOnly m e (Members.mem_ofList he)
    simp only [numericOnly, hs, Members.ofList_of_ordered (Members.ordered_ofList _), if_neg hne]
  | .null | .bool _ | .string _ | .array _ => simp [numericOnly] at h

lemma numericMembers_numericOnly (m : List (String × Json)) (e : String × Json)
    (he : e ∈ numericMembers m) : numericOnly e.2 = some e.2 := by
  match m with
  | [] => simp [numericMembers] at he
  | (k, v) :: m =>
    rw [numericMembers] at he
    cases hv : numericOnly v with
    | none =>
      rw [hv] at he
      exact numericMembers_numericOnly m e he
    | some w =>
      rw [hv] at he
      rcases List.mem_cons.mp he with rfl | he
      · exact numericOnly_numericOnly hv
      · exact numericMembers_numericOnly m e he
end

lemma get_copyFields_nil (p : Members) (keys : List String) (k : String) :
    (copyFields p keys []).get k = if k ∈ keys then scalarField p k else none := by
  simp [get_copyFields]

/-- Taking the identity part of an identity part changes nothing. -/
lemma slimObject_of_get (h : q.get key = slimObject p key keys) : slimObject q key keys = slimObject p key keys := by
  rw [slimObject, h]
  cases ho : (p.get key).bind Json.asObject with
  | none => simp [slimObject, ho]
  | some inner =>
    simp only [slimObject, ho, Option.bind_some]
    split_ifs with hs
    · rfl
    · have hc : copyFields (copyFields inner keys []) keys [] = copyFields inner keys [] := by
        refine copyFields_congr (fun k hk => ?_) []
        rw [scalarField, get_copyFields_nil, if_pos hk, filter_scalarField]
      simp only [Json.asObject_object, Option.bind_some, hc, hs, Bool.false_eq_true, if_false]

lemma envelopeFields_congr {eventType : String} (hid : ∀ k ∈ envelopeIdKeys, scalarField p k = scalarField q k)
    (hco : ∀ k ∈ ["stopReason", "requestFingerprint", "textMac"], scalarField p k = scalarField q k)
    (hr : keyed eventType "message." = true → scalarField p "role" = scalarField q "role")
    (hs : (eventType = "provider.runtime" || keyed eventType "turn." ||
      keyed eventType "subagent.") = true → scalarField p "status" = scalarField q "status")
    (hsc : (keyed eventType "permission." || eventType = "tool.awaitingApproval") = true →
      scalarField p "scope" = scalarField q "scope")
    (hcd : keyed eventType "control." = true → scalarField p "code" = scalarField q "code")
    (hb : slimObject p "block" ["category", "id", "turnId"] = slimObject q "block" ["category", "id", "turnId"])
    (hc : slimObject p "control" ["action", "itemId", "textMac"] =
      slimObject q "control" ["action", "itemId", "textMac"])
    (hu : (p.get "usage").bind numericOnly = (q.get "usage").bind numericOnly) :
    envelopeFields eventType (.object p) = envelopeFields eventType (.object q) := by
  simp only [envelopeFields, Json.asObject_object, copyFields_congr hid, copyFieldIf_congr hr,
    copyFieldIf_congr hs, copyFieldIf_congr hsc, copyFieldIf_congr hcd, copyFields_congr hco, hb, hc, hu]

/-- The envelope fields of an envelope with ciphertext are the envelope. -/
lemma envelopeFields_insert (eventType : String) (p : Members) (v : Json) : envelopeFields eventType
        (.object ((envelopeFields eventType (.object p)).insert encryptedField v)) =
      envelopeFields eventType (.object p) := by
  set q := (envelopeFields eventType (.object p)).insert encryptedField v with hq
  have hg {k : String} (hne : k ≠ "$enc") :
      q.get k = (envelopeFields eventType (.object p)).get k := by
    simp [hq, encryptedField, hne]
  have hs {k : String} (hne : k ≠ "$enc")
      (h : (envelopeFields eventType (.object p)).get k = scalarField p k) :
      scalarField q k = scalarField p k := by
    rw [scalarField, hg hne, h, filter_scalarField]
  apply envelopeFields_congr
  · intro k hk
    exact hs (by rintro rfl; revert hk; decide) (get_envelopeFields_id eventType p hk)
  · intro k hk
    exact hs (by rintro rfl; revert hk; decide) (get_envelopeFields_copied eventType p hk)
  · intro hke
    exact hs (by decide) (by rw [get_envelopeFields_role, if_pos hke])
  · intro hke
    exact hs (by decide) (by rw [get_envelopeFields_status, if_pos hke])
  · intro hke
    exact hs (by decide) (by rw [get_envelopeFields_scope, if_pos hke])
  · intro hke
    exact hs (by decide) (by rw [get_envelopeFields_code, if_pos hke])
  · exact slimObject_of_get (by rw [hg (by decide), get_envelopeFields_block])
  · exact slimObject_of_get (by rw [hg (by decide), get_envelopeFields_control])
  · rw [hg (by decide), get_envelopeFields_usage]
    cases hus : (p.get "usage").bind numericOnly with
    | none => rfl
    | some w =>
      obtain ⟨u, -, hu⟩ := Option.bind_eq_some_iff.mp hus
      exact numericOnly_numericOnly hu

/-! ### What the digest reads of an event -/

/-- Two events the digest cannot tell apart. -/
structure SameFacts (e e' : ConversationEvent) : Prop where
  sequence : e.sequence = e'.sequence
  time : e.time = e'.time
  eventType : e.eventType = e'.eventType
  rawType : e.rawType = e'.rawType
  text : ∀ k ∈ envelopeIdKeys, e.payload.text k = e'.payload.text k
  role : e.eventType = "message.created" → e.payload.text "role" = e'.payload.text "role"
  status : e.eventType = "provider.runtime" → e.payload.text "status" = e'.payload.text "status"
  scope : e.eventType ∈ permissionDialogEvents → e.payload.text "scope" = e'.payload.text "scope"
  context : e.eventType = "permission.requested" ∨ e.eventType = "tool.awaitingApproval" →
    e.payload.get "scope" = e'.payload.get "scope" ∧
      e.payload.get "runtimeId" = e'.payload.get "runtimeId"
  delivered : e.eventType = "control.requested" →
    JournalDigest.deliveredText e.payload = JournalDigest.deliveredText e'.payload

lemma SameFacts.statusAfter (h : SameFacts e e') (current : ConversationStatus) :
    statusAfterConversationEvent current e = statusAfterConversationEvent current e' := by
  have hop := h.text "operationId" (by decide)
  simp only [statusAfterConversationEvent, ← h.eventType, ← hop]
  by_cases hd : e.eventType ∈ permissionDialogEvents
  · rw [h.scope hd]
  · simp [hd]

namespace SameFacts

variable (h : SameFacts e e')
include h

open JournalDigest

lemma lastUserMessageAfter_eq (o : Option Nat) : lastUserMessageAfter e o = lastUserMessageAfter e' o := by
  simp only [lastUserMessageAfter, ← h.eventType, ← h.sequence]
  by_cases ht : e.eventType = "message.created"
  · rw [h.role ht]
  · simp [ht]

lemma clientRequestsAfter_eq (m : Std.ExtTreeMap String ClientRequestFacts) :
    clientRequestsAfter e m = clientRequestsAfter e' m := by
  have hs : clientRequestStep e = clientRequestStep e' := by
    funext o
    simp only [clientRequestStep, h.sequence, h.text "turnId" (by decide)]
  simp only [clientRequestsAfter, hs, ← h.eventType, ← h.text "clientRequestId" (by decide)]

lemma controlsAfter_eq (m : Std.ExtTreeMap String ControlFacts) : controlsAfter e m = controlsAfter e' m := by
  have hr : requestedStep e = requestedStep e' := by
    funext o
    simp only [requestedStep, h.sequence]
  have ho : outcomeStep e = outcomeStep e' := by
    funext outcome o
    simp only [outcomeStep, h.sequence]
  simp only [controlsAfter, hr, ho, ← h.eventType, ← h.text "requestId" (by decide)]

lemma textControlsAfter_eq (m : Std.ExtTreeMap String Nat) : textControlsAfter e m = textControlsAfter e' m := by
  simp only [textControlsAfter, ← h.eventType, ← h.sequence]
  split_ifs with ht
  · rw [h.delivered ht]
  · rfl

lemma turnTerminalsAfter_eq (m : Std.ExtTreeMap String (BitVec 8)) :
    turnTerminalsAfter e m = turnTerminalsAfter e' m := by
  simp only [turnTerminalsAfter, ← h.eventType, ← h.text "turnId" (by decide)]

lemma runtimesAfter_eq (m : Std.ExtTreeMap String Bool) : runtimesAfter e m = runtimesAfter e' m := by
  simp only [runtimesAfter, ← h.eventType, ← h.text "runtimeId" (by decide)]
  by_cases ht : e.eventType = "provider.runtime"
  · rw [h.status ht]
  · simp [ht]

lemma permissionsAfter_eq (m : Std.ExtTreeMap String (Option PermissionContext)) :
    permissionsAfter e m = permissionsAfter e' m := by
  simp only [permissionsAfter, ← h.eventType, ← h.text "permissionId" (by decide)]
  by_cases ht : e.eventType = "permission.requested" ∨ e.eventType = "tool.awaitingApproval"
  · rw [(h.context ht).1, (h.context ht).2]
  · simp [ht]

lemma backgroundPendingAfter_eq : backgroundPendingAfter e = backgroundPendingAfter e' := by
  simp only [backgroundPendingAfter, h.eventType, h.rawType]

lemma apply_eq (d : JournalDigest) : d.apply e = d.apply e' := by
  have hs : d.status.apply e = d.status.apply e' := by
    simp only [StatusTransform.apply, h.statusAfter]
  simp only [JournalDigest.apply, h.sequence, h.time, hs, h.eventType,
    h.text "turnId" (by decide), h.backgroundPendingAfter_eq, h.lastUserMessageAfter_eq,
    h.clientRequestsAfter_eq, h.controlsAfter_eq, h.textControlsAfter_eq, h.runtimesAfter_eq,
    h.turnTerminalsAfter_eq, h.permissionsAfter_eq]

end SameFacts

lemma fromEvents_eq_of_sameFacts (h : List.Forall₂ SameFacts history history') :
    JournalDigest.fromEvents history = JournalDigest.fromEvents history' := by
  have hf (d : JournalDigest) : history.foldl JournalDigest.apply d =
      history'.foldl JournalDigest.apply d := by
    induction h generalizing d with
    | nil => rfl
    | cons he _ ih => rw [List.foldl_cons, List.foldl_cons, he.apply_eq, ih]
  exact hf {}

/-! ### A stored form has the facts of its event -/

lemma asStr_scalarField (p : Members) (k : String) : (scalarField p k).bind Json.asStr = (p.get k).bind Json.asStr := by
  rw [scalarField]
  rcases p.get k with _ | _ | _ | _ | _ | _ | _ <;>
    simp [Json.asStr, Json.isScalar, Option.filter_some]

variable (P : Primitives)

lemma get_macFingerprint (eventType : String) (key : FingerprintKey) (p : Members)
    (hk : k ≠ "requestFingerprint") : (macFingerprint P eventType key p).get k = p.get k := by
  simp only [macFingerprint]
  split
  · simp [hk]
  · split_ifs
    · split <;> simp [hk]
    · rfl

lemma get_macControlText (key : FingerprintKey) (p : Members) (hk : k ≠ "control") :
    (macControlText P key p).get k = p.get k := by
  simp only [macControlText]
  split
  · split <;> simp [hk]
  · rfl

lemma get_addHistoryMacs (eventType : String) (key : FingerprintKey) (payload : Json)
    (hk : k ≠ "requestFingerprint") (hk' : k ≠ "control") :
    (addHistoryMacs P eventType key payload).get k = payload.get k := by
  cases payload with
  | object p =>
    simp only [addHistoryMacs, Json.asObject_object, Json.get_object]
    rw [get_macControlText P key _ hk', get_macFingerprint P eventType key p hk]
  | _ => rfl

lemma control_addHistoryMacs (eventType : String) (key : FingerprintKey) (payload : Json) :
    ((addHistoryMacs P eventType key payload).get "control").bind Json.asObject =
      ((payload.get "control").bind Json.asObject).map fun control => match (control.get "text").bind Json.asStr with
        | some text => control.insert "textMac" (.string (key.mac P text))
        | none => control := by
  cases payload with
  | object p =>
    have hg : (macFingerprint P eventType key p).get "control" = Members.get p "control" :=
      get_macFingerprint P eventType key p (by decide)
    simp only [addHistoryMacs, Json.asObject_object, Json.get_object, macControlText, hg]
    cases hc : (Members.get p "control").bind Json.asObject with
    | none => simp [hg, hc]
    | some control =>
      cases ht : (control.get "text").bind Json.asStr with
      | none => simp [hg, hc, ht]
      | some text => simp [ht]
  | _ => rfl

/-- A payload that is not an object has the envelope of the empty object. -/
lemma envelopeFields_eq_object (eventType : String) (payload : Json) :
    envelopeFields eventType payload = envelopeFields eventType (.object (payload.asObject.getD [])) := by
  have hc (keyed : Bool) (k : String) : copyFieldIf keyed [] k [] = [] := by cases keyed <;> rfl
  cases payload with
  | object p => rfl
  | _ => simp [envelopeFields, Json.asObject, hc, copyFields, copyField, scalarField, slimObject, insertSome]

lemma get_eq_getD (payload : Json) (k : String) : payload.get k = (payload.asObject.getD []).get k := by
  cases payload <;> rfl

lemma controlText_eq (payload : Json) (k : String) :
    (payload.get "control").bind (·.text k) = ((payload.get "control").bind Json.asObject).bind fun control =>
        (control.get k).bind Json.asStr := by
  rcases payload.get "control" with _ | _ | _ | _ | _ | _ | _ <;> rfl

lemma asStr_slimObject (p : Members) (name : String) (keys : List String) (k : String) :
    (((slimObject p name keys).bind Json.asObject).bind fun inner => (inner.get k).bind Json.asStr) =
      if k ∈ keys then ((p.get name).bind Json.asObject).bind fun inner => (inner.get k).bind Json.asStr else none := by
  rw [slimObject]
  cases (p.get name).bind Json.asObject with
  | none => simp
  | some inner =>
    have hs := get_copyFields_nil inner keys k
    simp only [Option.bind_some]
    split_ifs with he hk hk
    · -- an empty part means that the field is not a string either
      rw [List.isEmpty_iff.mp he, if_pos hk, Members.get_nil] at hs
      simp [← asStr_scalarField, ← hs]
    · rfl
    · simp [hs, hk, asStr_scalarField]
    · simp [hs, hk]

section

variable (event : ConversationEvent) (kid : String) (key : SegmentKey)

lemma get_sealEvent (hk : k ≠ "$enc") : (sealEvent P event kid key).payload.get k =
      (envelopeFields event.eventType (.object (event.payload.asObject.getD []))).get k := by
  simp [sealEvent, encryptedField, hk, ← envelopeFields_eq_object]

lemma text_sealEvent (hk : k ≠ "$enc")
    (h : (envelopeFields event.eventType (.object (event.payload.asObject.getD []))).get k =
      scalarField (event.payload.asObject.getD []) k) :
    (sealEvent P event kid key).payload.text k = event.payload.text k := by
  rw [Json.text, get_sealEvent P event kid key hk, h, asStr_scalarField, Json.text, ← get_eq_getD]

lemma controlText_sealEvent (k : String) : ((sealEvent P event kid key).payload.get "control").bind (·.text k) =
      if k ∈ ["action", "itemId", "textMac"] then (event.payload.get "control").bind (·.text k) else none := by
  rw [controlText_eq, get_sealEvent P event kid key (by decide), get_envelopeFields_control,
    asStr_slimObject, controlText_eq, ← get_eq_getD]

end

lemma controlText_addHistoryMacs (eventType : String) (key : FingerprintKey) (payload : Json) (hk : k ≠ "textMac") :
    ((addHistoryMacs P eventType key payload).get "control").bind (·.text k) =
      (payload.get "control").bind (·.text k) := by
  rw [controlText_eq, control_addHistoryMacs, controlText_eq]
  cases (payload.get "control").bind Json.asObject with
  | none => rfl
  | some control =>
    cases ht : (control.get "text").bind Json.asStr <;> simp [hk, ht]

lemma isSome_textMac_addHistoryMacs (eventType : String) (key : FingerprintKey) (payload : Json) :
    (((addHistoryMacs P eventType key payload).get "control").bind (·.text "textMac")).isSome =
      (((payload.get "control").bind (·.text "text")).isSome ||
        ((payload.get "control").bind (·.text "textMac")).isSome) := by
  rw [controlText_eq, control_addHistoryMacs, controlText_eq, controlText_eq]
  cases (payload.get "control").bind Json.asObject with
  | none => rfl
  | some control =>
    cases ht : (control.get "text").bind Json.asStr <;> simp [ht]

section

variable (fingerprint : FingerprintKey) (kid : String) (key : SegmentKey)
  (event : ConversationEvent)

lemma text_storedForm (hk : k ∈ envelopeIdKeys) :
    (storedForm P fingerprint kid key event).payload.text k = event.payload.text k := by
  have hne : k ≠ "$enc" ∧ k ≠ "requestFingerprint" ∧ k ≠ "control" := by
    refine ⟨?_, ?_, ?_⟩ <;> rintro rfl <;> revert hk <;> decide
  rw [storedForm, text_sealEvent P _ kid key hne.1 (get_envelopeFields_id _ _ hk), Json.text,
    get_addHistoryMacs P _ _ _ hne.2.1 hne.2.2, Json.text]

lemma deliveredText_storedForm : JournalDigest.deliveredText (storedForm P fingerprint kid key event).payload =
      JournalDigest.deliveredText event.payload := by
  have hr := text_storedForm P fingerprint kid key event (k := "requestId") (by decide)
  have ha : ((storedForm P fingerprint kid key event).payload.get "control").bind
      (·.text "action") = (event.payload.get "control").bind (·.text "action") := by
    rw [storedForm, controlText_sealEvent, if_pos (by decide), controlText_addHistoryMacs P _ _ _ (by decide)]
  have hi : ((storedForm P fingerprint kid key event).payload.get "control").bind
      (·.text "itemId") = (event.payload.get "control").bind (·.text "itemId") := by
    rw [storedForm, controlText_sealEvent, if_pos (by decide), controlText_addHistoryMacs P _ _ _ (by decide)]
  have ht : ((storedForm P fingerprint kid key event).payload.get "control").bind
      (·.text "text") = none := by
    rw [storedForm, controlText_sealEvent, if_neg (by decide)]
  have hmac : (((storedForm P fingerprint kid key event).payload.get "control").bind
      (·.text "textMac")).isSome = (((event.payload.get "control").bind (·.text "text")).isSome ||
        ((event.payload.get "control").bind (·.text "textMac")).isSome) := by
    rw [storedForm, controlText_sealEvent, if_pos (by decide), isSome_textMac_addHistoryMacs]
  simp only [JournalDigest.deliveredText, ha, hi, ht, hmac, hr, Option.isSome_none, Bool.false_or]

/-- The context a permission request is closed with is routing values. -/
def ScalarContext (event : ConversationEvent) : Prop :=
  event.eventType = "permission.requested" ∨ event.eventType = "tool.awaitingApproval" →
    ∀ k ∈ ["scope", "runtimeId"], ∀ v ∈ event.payload.get k, v.isScalar = true

lemma filter_eq_self_of_forall {o : Option Json} (h : ∀ v ∈ o, v.isScalar = true) : o.filter Json.isScalar = o := by
  cases o with
  | none => rfl
  | some v => rw [Option.filter_some, if_pos (h v rfl)]

lemma scalarField_addHistoryMacs (eventType : String) (payload : Json)
    (hk : k ≠ "requestFingerprint") (hk' : k ≠ "control") :
    scalarField ((addHistoryMacs P eventType fingerprint payload).asObject.getD []) k =
      (payload.get k).filter Json.isScalar := by
  rw [scalarField, ← get_eq_getD, get_addHistoryMacs P _ _ _ hk hk']

lemma text_storedForm_of_get (hne : k ≠ "$enc" ∧ k ≠ "requestFingerprint" ∧ k ≠ "control")
    (h : ∀ p : Members, (envelopeFields event.eventType (.object p)).get k = scalarField p k) :
    (storedForm P fingerprint kid key event).payload.text k = event.payload.text k := by
  have hs := text_sealEvent P
    { event with payload := addHistoryMacs P event.eventType fingerprint event.payload } kid key
    hne.1 (h _)
  rw [storedForm, hs, Json.text, get_addHistoryMacs P _ _ _ hne.2.1 hne.2.2, Json.text]

lemma sameFacts_storedForm (hc : ScalarContext event) : SameFacts (storedForm P fingerprint kid key event) event where
  sequence := rfl
  time := rfl
  eventType := rfl
  rawType := rfl
  text := fun k hk => text_storedForm P fingerprint kid key event hk
  role := fun ht => by
    have ht : event.eventType = "message.created" := ht
    refine text_storedForm_of_get P fingerprint kid key event (by decide) fun p => ?_
    rw [get_envelopeFields_role, ht, if_pos (by decide)]
  status := fun ht => by
    have ht : event.eventType = "provider.runtime" := ht
    refine text_storedForm_of_get P fingerprint kid key event (by decide) fun p => ?_
    rw [get_envelopeFields_status, ht, if_pos (by decide)]
  scope := fun ht => by
    have hke : (keyed event.eventType "permission." || event.eventType = "tool.awaitingApproval") = true := by
      have ht : event.eventType ∈ permissionDialogEvents := ht
      simp only [permissionDialogEvents, List.mem_cons, List.not_mem_nil, or_false] at ht
      rcases ht with ht | ht | ht <;> rw [ht] <;> decide
    refine text_storedForm_of_get P fingerprint kid key event (by decide) fun p => ?_
    rw [get_envelopeFields_scope, if_pos hke]
  context := fun ht => by
    have hc := hc ht
    have hke : (keyed event.eventType "permission." || event.eventType = "tool.awaitingApproval") = true := by
      have ht : event.eventType = "permission.requested" ∨
        event.eventType = "tool.awaitingApproval" := ht
      rcases ht with ht | ht <;> rw [ht] <;> decide
    constructor
    · rw [storedForm, get_sealEvent P _ kid key (by decide), get_envelopeFields_scope, if_pos hke,
        scalarField_addHistoryMacs P fingerprint _ _ (by decide) (by decide),
        filter_eq_self_of_forall (hc "scope" (by decide))]
    · rw [storedForm, get_sealEvent P _ kid key (by decide), get_envelopeFields_id _ _ (by decide),
        scalarField_addHistoryMacs P fingerprint _ _ (by decide) (by decide),
        filter_eq_self_of_forall (hc "runtimeId" (by decide))]
  delivered := fun _ => deliveredText_storedForm P fingerprint kid key event

end

/-- Encryption does not change what the daemon knows about a conversation: the history of stored
forms has the digest of the plaintext history, and a stored form has the envelope fields it was
made with. -/
theorem fromEvents_storedForm (fingerprint : FingerprintKey)
    (history : List (ConversationEvent × String × SegmentKey)) (hctx : ∀ h ∈ history, ScalarContext h.1) :
    JournalDigest.fromEvents (history.map fun h => storedForm P fingerprint h.2.1 h.2.2 h.1) =
        JournalDigest.fromEvents (history.map (·.1)) ∧
      ∀ h ∈ history,
        envelopeFields h.1.eventType (storedForm P fingerprint h.2.1 h.2.2 h.1).payload = envelopeFields h.1.eventType
            (addHistoryMacs P h.1.eventType fingerprint h.1.payload) := by
  constructor
  · refine fromEvents_eq_of_sameFacts (List.forall₂_map_left_iff.mpr (List.forall₂_map_right_iff.mpr
      (List.forall₂_same.mpr fun h hh => ?_)))
    exact sameFacts_storedForm P fingerprint h.2.1 h.2.2 h.1 (hctx h hh)
  · intro h _
    rw [envelopeFields_eq_object _ (addHistoryMacs P _ _ _), ← envelopeFields_insert _ _ (.object
      (encryptedObject P { h.1 with
        payload := addHistoryMacs P h.1.eventType fingerprint h.1.payload } h.2.1 h.2.2)),
      ← envelopeFields_eq_object]
    rfl

theorem fromEvents_storedForm_permission :
    let request := ConversationEvent.new "evt_1" ⟨0, by decide⟩ "conv" 1 "permission.requested"
      (.object [("requestId", .string "req_1"), ("runtimeId", .string "run_1"),
        ("scope", .string "session"), ("toolName", .string "bash")])
    let key : SegmentKey := { kid := List.replicate 16 1, dek := List.replicate 32 2 }
    let stored := storedForm .standard ⟨List.replicate 32 3⟩ "AQEBAQEBAQEBAQEBAQEBAQ" key request
    ScalarContext request ∧
      JournalDigest.fromEvents [stored] = JournalDigest.fromEvents [request] := by
  intro request key stored
  have hctx : ScalarContext request := by
    intro _
    simp [request, ConversationEvent.new, Json.isScalar]
  have h := fromEvents_storedForm .standard ⟨List.replicate 32 3⟩
    [(request, "AQEBAQEBAQEBAQEBAQEBAQ", key)] (by simpa using hctx)
  exact ⟨hctx, h.1⟩

end Todex
