import Todex.Conversation.Segment.Slim

/-!
# What a segment build stores

A build goes through its records twice. The second time it holds back stripped records that follow one
another, because their markers tell how many there are. The digest of the segment is made of the records
as they were; a segment that is salvaged later gets the digest of the records as they are stored.
-/

namespace Todex

/-- `flush_run`: the stripped records that were held back are written as markers. -/
def flushRun (run : List ConversationEvent) : List ConversationEvent :=
  run.map fun original => compactedMarker original (run.head?.elim 0 (·.sequence)) run.length

section Build

variable (P : Primitives) (policy : SealPolicy) (conversationId : String) (plan : SlimPlan)

/-- The second pass of `build_from_plain`, behind the records that are held back. -/
def pushRecords (run : List ConversationEvent) : List ConversationEvent → List ConversationEvent
  | [] => flushRun run
  | event :: events =>
    let classified := policy.classify P event conversationId
    if classified.isStripped plan then
      pushRecords (run ++ [{ classified.stored with payload := .null }]) events
    else flushRun run ++ classified.stored :: pushRecords [] events

/-- The records that `build_from_plain` stores. -/
def buildFromPlain (events : List ConversationEvent) : List ConversationEvent :=
  pushRecords P policy conversationId (policy.slimPlan P conversationId events) [] events

/-- What is stored of a record: itself, or the marker of a stripped one. -/
def StoredAs (event stored : ConversationEvent) : Prop :=
  if (policy.classify P event conversationId).isStripped plan then
    ∃ start length, stored = compactedMarker event start length
  else stored = event

variable {P policy conversationId plan}

lemma stored_classify (e : ConversationEvent) : (policy.classify P e conversationId).stored = e := by
  obtain ⟨-, h⟩ | ⟨_, -, h⟩ | ⟨_, _, _, _, _, -, -, -, h⟩ := policy.classify_cases P e conversationId <;> rw [h]

/-- The records that are held back have lost their payload, which the marker does not show. -/
lemma storedAs_flushRun (held : List ConversationEvent)
    (h : ∀ e ∈ held, (policy.classify P e conversationId).isStripped plan) :
    List.Forall₂ (StoredAs P policy conversationId plan) held (flushRun (held.map ({ · with payload := .null }))) := by
  rw [flushRun, List.map_map, List.forall₂_map_right_iff, List.forall₂_same]
  intro e he
  rw [StoredAs, if_pos (h e he)]
  exact ⟨_, _, rfl⟩

lemma storedAs_pushRecords (held e : List ConversationEvent)
    (h : ∀ ev ∈ held, (policy.classify P ev conversationId).isStripped plan) :
    List.Forall₂ (StoredAs P policy conversationId plan) (held ++ e)
      (pushRecords P policy conversationId plan (held.map ({ · with payload := .null })) e) := by
  induction e generalizing held with
  | nil => simpa [pushRecords] using storedAs_flushRun held h
  | cons ev e ih =>
    rw [pushRecords, stored_classify]
    split_ifs with hs
    · have := ih (held ++ [ev]) (by simpa [or_imp, forall_and] using ⟨h, hs⟩)
      simpa using this
    · refine List.rel_append (storedAs_flushRun held h) (.cons ?_ (ih [] (List.forall_mem_nil _)))
      rw [StoredAs, if_neg hs]

/-! ### What the digest makes of a marker -/

/-- The types of stripped records and of their markers. -/
def quietEvents : List String := ["message.delta", "tool.updated", "subagent.updated", journalCompactedEvent]

lemma mem_quietEvents_of_isStripped {e : ConversationEvent}
    (h : (policy.classify P e conversationId).isStripped plan) : e.eventType ∈ quietEvents := by
  have hs := strips_of_isStripped h
  rw [← eventType_observed P policy conversationId e]
  by_contra hq
  refine absurd (SlimPlan.strips_of_streamIds_eq_nil ?_ plan) (ne_true_of_eq_false · hs)
  unfold streamIds
  split <;> simp_all [quietEvents]

namespace JournalDigest

/-- Nothing but the end of the history is known from a streaming record or a marker. -/
lemma apply_of_quiet {e : ConversationEvent} (h : e.eventType ∈ quietEvents) (d : JournalDigest) :
    d.apply e = { d with lastSequence := e.sequence, lastTime := some e.time } := by
  simp only [quietEvents, List.mem_cons, List.not_mem_nil, or_false] at h
  have hs (s : ConversationStatus) : statusAfterConversationEvent s e = s := by
    rcases h with h | h | h | h <;>
      simp [statusAfterConversationEvent, h, permissionDialogEvents, compactionStatus, statusAfterEvent,
        normalizedEventType, journalCompactedEvent]
  have hst : d.status.apply e = d.status := by simp [StatusTransform.apply, hs]
  have ht : turnTerminalEvents.idxOf? e.eventType = none := by
    rcases h with h | h | h | h <;> rw [h] <;> decide
  have hc : controlsAfter e d.controls = d.controls := by
    rcases h with h | h | h | h <;> cases hr : e.payload.text "requestId" <;>
      simp [controlsAfter, hr, h, ControlOutcome.fromEventType, journalCompactedEvent]
  have hpe : permissionsAfter e d.permissions = d.permissions := by
    rcases h with h | h | h | h <;> cases hp : e.payload.text "permissionId" <;>
      simp [permissionsAfter, hp, h, journalCompactedEvent]
  rw [apply, hst, hc, hpe, turnTerminalsAfter, ht]
  rcases h with h | h | h | h <;>
    simp [h, OpenTurnFold.apply, backgroundPendingAfter, lastUserMessageAfter, clientRequestsAfter,
      textControlsAfter, runtimesAfter, turnTerminalEvents, conversationTerminalEvents, journalCompactedEvent]

end JournalDigest

/-- The digest takes what is stored as it takes the record. -/
lemma StoredAs.apply_eq {e s : ConversationEvent} (h : StoredAs P policy conversationId plan e s)
    (d : JournalDigest) : d.apply s = d.apply e := by
  unfold StoredAs at h
  split_ifs at h with hs
  · obtain ⟨st, length, rfl⟩ := h
    rw [JournalDigest.apply_of_quiet (mem_quietEvents_of_isStripped hs), JournalDigest.apply_of_quiet]
    · rfl
    · simp [compactedMarker, compactedEvent, ConversationEvent.new, quietEvents]
  · rw [h]

/-- Slimming changes nothing the daemon knows about a conversation. The records a build stores follow the records
it was given one by one, each itself or the marker of a stripped one, and their digest is the same. -/
theorem slimming_keeps_digest (P : Primitives) (policy : SealPolicy) (conversationId : String)
    (events : List ConversationEvent) :
    List.Forall₂ (StoredAs P policy conversationId (policy.slimPlan P conversationId events)) events
        (buildFromPlain P policy conversationId events) ∧
      JournalDigest.fromEvents (buildFromPlain P policy conversationId events) = JournalDigest.fromEvents events := by
  have hstored : List.Forall₂ (StoredAs P policy conversationId (policy.slimPlan P conversationId events)) events
      (buildFromPlain P policy conversationId events) := storedAs_pushRecords [] events (List.forall_mem_nil _)
  refine ⟨hstored, (List.rel_foldl ?_ rfl hstored).symm⟩
  rintro d _ rfl event stored h
  exact (h.apply_eq d).symm

end Build

end Todex
